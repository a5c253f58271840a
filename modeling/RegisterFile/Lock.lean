import RegisterFile.BitRange

/-!
Lock references. `REG` is bit 0 of a register, `REG[n]` its bit `n` and `REG.FIELD` any bit of one
of its fields.
-/

namespace RegisterFile

/-- Which bits of the locking register act as the lock. -/
inductive LockSelector where
  | bit (index : UInt32)
  /-- Any set bit of the field locks. -/
  | field (name : String)
  deriving DecidableEq, Repr

/-- The selected bits of a register: writes are inhibited while one of them is set. -/
structure Lock where
  register : String
  selector : LockSelector
  deriving DecidableEq, Repr

namespace Lock

/-- A lock as text; bit 0 goes without an index. -/
def text (lock : Lock) : String :=
  match lock.selector with
  | .bit index => if index = 0 then lock.register else s!"{lock.register}[{index.toNat}]"
  | .field name => s!"{lock.register}.{name}"

/-- Reads a lock reference. The first `[` decides for an index, else the first `.` for a field. -/
def ofText? (text : String) : Option Lock :=
  let cs := Text.trim text.toList
  match Text.splitOnce '[' cs with
  | some (register, rest) => do
    let index ← BitRange.bitOfText? (← Text.dropLast? ']' rest)
    let register := Text.trim register
    if register.isEmpty then none else some ⟨String.ofList register, .bit index⟩
  | none =>
    match Text.splitOnce '.' cs with
    | some (register, field) =>
      if register.isEmpty || field.isEmpty then none
      else some ⟨String.ofList register, .field (String.ofList field)⟩
    | none => if cs.isEmpty then none else some ⟨String.ofList cs, .bit 0⟩

end Lock

end RegisterFile
