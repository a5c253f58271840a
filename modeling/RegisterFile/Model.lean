import RegisterFile.Layout

/-!
The behaviour of a register file, one bus transaction per clock cycle. Locks and magic gates are
evaluated on the state before a write, pulses last until the next cycle, and the side effects of a
read come after its data is taken.
-/

namespace RegisterFile

/-- How a bus transaction is answered. -/
inductive Response where
  | okay
  | slaveError
  deriving DecidableEq, Repr

/-- What behaves: a layout with the options that its behaviour depends on. -/
structure Model where
  layout : Layout
  byteEnable : Bool
  dataWidth : UInt32
  errorResponse : Bus.ErrorResponse
  lockError : Bool

namespace Model

/-- What a register holds: its value, for each segment whether its one write is over, and the
    pulses of the current cycle. -/
structure Cell where
  value : Word
  written : List Bool
  pulse : Word
  deriving DecidableEq, Repr

/-- What the registers hold, in the order of the layout. -/
abbrev State := List Cell

/-- The behaviour of a configuration. -/
def ofConfig (config : Config) : Model where
  layout := Layout.ofConfig config
  byteEnable := config.byteEnable
  dataWidth := config.dataWidth
  errorResponse := config.options.errorResponse
  lockError := config.options.lockError

/-- What a register holds after reset. -/
def resetCell (register : RegisterLayout) : Cell :=
  ⟨register.reset, register.segments.map fun _ => false, 0⟩

/-- The state after reset. -/
def reset (model : Model) : State :=
  model.layout.registers.map resetCell

/-- The end of a cycle: pulses drop. -/
def tick (state : State) : State :=
  state.map fun cell => { cell with pulse := 0 }

/-- What the register of an identifier holds; of several, the last. -/
def cellOf? (model : Model) (state : State) (ident : String) : Option Cell :=
  ((model.layout.registers.zip state).reverse.find? fun (register, _) =>
    register.ident == ident).map Prod.snd

/-- The position of the first register at an address. -/
def indexAt? (model : Model) (address : UInt64) : Option Nat :=
  model.layout.registers.findIdx? fun register => register.address == address

/-- The answer to a transaction in error. -/
def errorAnswer (model : Model) : Response :=
  match model.errorResponse with
  | .slverr => .slaveError
  | .okay => .okay

/-- The bits of the byte lanes that a strobe enables: lane `i` by its bit `i`. Without byte enables
    every bit is enabled. -/
def laneMask (model : Model) (strobe : Word) : Word :=
  if model.byteEnable then
    ((List.range (min 16 ((model.dataWidth.toNat + 7) / 8))).filter strobe.getLsbD).foldl
      (fun mask lane => mask ||| (Word.lowMask 8).placeAt (8 * lane)) 0
  else BitVec.allOnes 128

/-- Whether a lock holds a segment. -/
def isLocked (model : Model) (state : State) (segment : Segment) : Bool :=
  segment.locks.any fun tap =>
    (model.cellOf? state tap.register).any fun cell => cell.value &&& tap.bits.mask != 0

/-- Whether every magic gate of a segment is open. -/
def isUngated (model : Model) (state : State) (segment : Segment) : Bool :=
  segment.gates.all fun gate =>
    (model.cellOf? state gate.register).any fun cell => cell.value == gate.value

/-- Whether a bus write reaches a segment. -/
def isOpen (model : Model) (state : State) (segment : Segment) (written : Bool) : Bool :=
  segment.swWrite && !model.isLocked state segment && model.isUngated state segment && !written

/-- The value and the pulses of a register while a write goes through its segments. -/
structure Progress where
  value : Word
  pulse : Word

/-- Lets a write through a segment. -/
def Progress.through (progress : Progress) (segment : Segment) (data mask : Word) : Progress :=
  let effect := segment.writeEffect
  { value := (progress.value &&& ~~~mask) ||| effect.next progress.value data mask
    pulse := progress.pulse ||| effect.pulsed data mask }

/-- Lets a write through a segment if it is open. -/
def writeSegment (model : Model) (state : State) (register : RegisterLayout) (data lanes : Word)
    (progress : Progress) (entry : Segment × Bool) : Progress :=
  if model.isOpen state entry.1 entry.2 then
    progress.through entry.1 data (entry.1.bits.mask &&& lanes &&& register.fullMask)
  else progress

/-- What a register holds after a write. -/
def writeCell (model : Model) (state : State) (register : RegisterLayout) (data lanes : Word)
    (cell : Cell) : Cell :=
  let segments := register.segments.zip cell.written
  let progress := segments.foldl (model.writeSegment state register data lanes) ⟨cell.value, 0⟩
  { value := progress.value
    written := segments.map fun (segment, written) =>
      written || (segment.writtenFlag.isSome && model.isOpen state segment written)
    pulse := progress.pulse }

/-- Whether a lock stops a write to some segment. -/
def hitsLock (model : Model) (state : State) (register : RegisterLayout) : Bool :=
  register.segments.any fun segment => segment.swWrite && model.isLocked state segment

/-- A bus write. Bit `i` of the strobe enables byte lane `i`. -/
def write (model : Model) (state : State) (address : UInt64) (data strobe : Word) :
    State × Response :=
  let state := tick state
  match model.indexAt? address with
  | none => (state, model.errorAnswer)
  | some index =>
    match model.layout.registers[index]? with
    | none => (state, model.errorAnswer)
    | some register =>
      (state.modify index (model.writeCell state register data (model.laneMask strobe)),
        if model.hitsLock state register && model.lockError then model.errorAnswer else .okay)

/-- The value of a register after a read of a segment. -/
def afterRead (register : RegisterLayout) (value : Word) (segment : Segment) : Word :=
  match segment.readEffect with
  | some .clear => value &&& ~~~segment.bits.mask
  | some .set => value ||| (segment.bits.mask &&& register.fullMask)
  | none => value

/-- A bus read, with the data from before its side effects. -/
def read (model : Model) (state : State) (address : UInt64) : State × Word × Response :=
  let state := tick state
  match model.indexAt? address with
  | none => (state, 0, model.errorAnswer)
  | some index =>
    match model.layout.registers[index]?, state[index]? with
    | some register, some cell =>
      (state.set index
          { cell with value := register.segments.foldl (afterRead register) cell.value },
        cell.value &&& register.readMask, .okay)
    | _, _ => (state, 0, model.errorAnswer)

/-- The input of a register whose ports have a stem. -/
def hwInput? (register : RegisterLayout) (stem : String) : Option HwField :=
  register.hwFields.find? fun hw => hw.stem == stem && hw.input

/-- A hardware write through the first input of a stem; none if there is no such input. -/
def hwWrite? (model : Model) (state : State) (stem : String) (data : Word) : Option State := do
  let index ← model.layout.registers.findIdx? fun register => (hwInput? register stem).isSome
  let hw ← hwInput? (← model.layout.registers[index]?) stem
  return state.modify index fun cell =>
    { cell with value := Word.overlay hw.bits.mask cell.value (data.placeAt hw.bits.low) }

/-- What the register of a declared name holds: the first of that exact name, or else the one of
    its identifier. -/
def cell? (model : Model) (state : State) (name : String) : Option Cell :=
  match model.layout.position? name with
  | some index => state[index]?
  | none => model.cellOf? state (ident name)

end Model

end RegisterFile
