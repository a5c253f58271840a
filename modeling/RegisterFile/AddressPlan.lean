import RegisterFile.Config
import RegisterFile.Diagnostic

/-!
Automatic addresses. Slots are at least four bytes and at least a bus word apart; registers without
an address get the free slots from the base address on, in the order of declaration, and the
others keep theirs, which must lie on slots.
-/

namespace RegisterFile.AddressPlan

/-- Why addresses cannot be assigned. -/
inductive Error where
  | misaligned (register : String) (address : UInt64) (alignment : Nat)
  | conflict (register : String) (address : UInt64)
  | exhausted (register : String) (alignment : Nat)
  deriving DecidableEq, Repr

namespace Error

/-- The register that an error is about. -/
def register : Error → String
  | misaligned register _ _ | conflict register _ | exhausted register _ => register

/-- The wording of an error. -/
def message : Error → String
  | misaligned register address alignment =>
    s!"register '{register}' address {Numeral.hexText address.toNat} is not aligned to " ++
      s!"{alignment} bytes"
  | conflict register address =>
    s!"register '{register}' would be placed at {Numeral.hexText address.toNat}, " ++
      "which is already in use"
  | exhausted register alignment =>
    s!"no free {alignment}-byte slot left for register '{register}'"

/-- The kind of finding that an error is. -/
def kind : Error → Diagnostic.Kind
  | misaligned .. => .misalignedAddress
  | conflict .. => .addressConflict
  | exhausted .. => .addressOutOfRange

/-- An error as a finding. -/
def diagnostic (e : Error) : Diagnostic :=
  .error e.kind (.register e.register) e.message

end Error

/-- Addresses are below this bound. -/
def addressLimit : Nat := UInt64.size

/-- The distance of slots. -/
def alignment (config : Config) : Nat :=
  max 4 (config.dataWidth.toNat / 8)

/-- The first multiple of `step` from a number on. -/
def roundUp (step n : Nat) : Nat :=
  if n % step = 0 then n else n + (step - n % step)

/-- The first slot from `slot` on that is not in use. -/
def firstFree (step : Nat) (used : List UInt64) (slot : Nat) : Option UInt64 :=
  if slot < addressLimit then
    if used.contains (UInt64.ofNat slot) ∧ 0 < step then
      firstFree step used (slot + step)
    else some (UInt64.ofNat slot)
  else none
termination_by addressLimit - slot

/-- Gives registers without an address the free slots from `cursor` on. -/
def place (step : Nat) (used : List UInt64) (cursor : Nat) :
    List Register → Except Error (List Register)
  | [] => .ok []
  | register :: rest =>
    if register.address.isSome then do return register :: (← place step used cursor rest)
    else
      match firstFree step used cursor with
      | none => .error (.exhausted register.name step)
      | some slot =>
        if used.contains slot then .error (.conflict register.name slot)
        else do
          let placed := { register with address := some slot }
          return placed :: (← place step (slot :: used) (slot.toNat + step) rest)

/-- The first register whose address is not on a slot, with that address. -/
def misaligned? (step : Nat) (registers : List Register) : Option (String × UInt64) :=
  registers.findSome? fun register => do
    let address ← register.address
    if address.toNat % step = 0 then none else some (register.name, address)

/-- The configuration with an address for every register. -/
def assign (config : Config) : Except Error Config :=
  let step := alignment config
  match misaligned? step config.registers with
  | some (register, address) => .error (.misaligned register address step)
  | none => do
    let used := config.registers.filterMap Register.address
    let registers ← place step used (roundUp step config.baseAddress.toNat) config.registers
    return { config with registers }

end RegisterFile.AddressPlan
