import RegisterFile.Text.Spelling
import RegisterFile.Word

/-!
The catalogue of register types. A type says what a bus write and a bus read do to the stored
bits; `RegisterType.behavior` is its row. Generators, validation and the behavioural model read
rows instead of telling types apart themselves.
-/

namespace RegisterFile

/-- The semantic class of a register or field. -/
inductive RegisterType where
  | readOnly
  | readWrite
  | writeOnly
  | write1Clean
  | write0Clean
  | write1Set
  | write0Set
  | write1Pulse
  | write0Pulse
  | readClean
  | readSet
  | writeReadClean
  | writeReadSet
  | writeOnce
  | writeOnlyOnce
  /-- Plain storage whose bits can gate writes to other registers. -/
  | lockField
  deriving DecidableEq, Repr

/-- Which written level makes a bit pulse. -/
inductive PulseLevel where
  | high
  | low
  deriving DecidableEq, Repr

/-- What an honoured write does to the stored bits. -/
inductive WriteEffect where
  | ignore
  | store
  | clearOnOne
  | clearOnZero
  | setOnOne
  | setOnZero
  /-- The stored bits stay zero and the pulse output shows the written pattern for a cycle. -/
  | pulse (level : PulseLevel)
  deriving DecidableEq, Repr

/-- What a completed read does to the stored bits. -/
inductive ReadEffect where
  | clear
  | set
  deriving DecidableEq, Repr

/-- A row of the catalogue. -/
structure TypeBehavior where
  /-- Reads return the stored bits, otherwise zero. -/
  readable : Bool
  /-- Writes reach the stored bits or the pulse output. -/
  writable : Bool
  /-- Only the first write after reset is honoured. -/
  writeOnce : Bool
  writeEffect : WriteEffect
  readEffect : Option ReadEffect
  /-- One line of documentation. -/
  summary : String

namespace WriteEffect

/-- The stored bits after an honoured write, restricted to `mask`. -/
def next (effect : WriteEffect) (current data mask : Word) : Word :=
  let value := match effect with
    | ignore => current
    | store => data
    | clearOnOne => current &&& ~~~data
    | clearOnZero => current &&& data
    | setOnOne => current ||| data
    | setOnZero => current ||| ~~~data
    | pulse _ => 0
  value &&& mask

/-- The pulse pattern of an honoured write, restricted to `mask`. -/
def pulsed (effect : WriteEffect) (data mask : Word) : Word :=
  match effect with
  | pulse .high => data &&& mask
  | pulse .low => ~~~data &&& mask
  | _ => 0

/-- Whether a write drives the pulse output. -/
def isPulse : WriteEffect → Bool
  | pulse _ => true
  | _ => false

end WriteEffect

/-- The bits after a read, restricted to `mask`. -/
def ReadEffect.next (effect : Option ReadEffect) (current mask : Word) : Word :=
  match effect with
  | some .clear => 0
  | some .set => mask
  | none => current &&& mask

namespace RegisterType

/-- Every type, in the order of the catalogue. -/
def all : List RegisterType :=
  [readOnly, readWrite, writeOnly, write1Clean, write0Clean, write1Set, write0Set, write1Pulse,
    write0Pulse, readClean, readSet, writeReadClean, writeReadSet, writeOnce, writeOnlyOnce,
    lockField]

/-- The row of a type. -/
def behavior : RegisterType → TypeBehavior
  | readOnly => ⟨true, false, false, .ignore, none, "Read-only; writes are ignored"⟩
  | readWrite => ⟨true, true, false, .store, none, "Read/write storage"⟩
  | writeOnly => ⟨false, true, false, .store, none, "Write-only; reads return 0"⟩
  | write1Clean => ⟨true, true, false, .clearOnOne, none, "Write 1 to clear"⟩
  | write0Clean => ⟨true, true, false, .clearOnZero, none, "Write 0 to clear"⟩
  | write1Set => ⟨true, true, false, .setOnOne, none, "Write 1 to set"⟩
  | write0Set => ⟨true, true, false, .setOnZero, none, "Write 0 to set"⟩
  | write1Pulse =>
    ⟨true, true, false, .pulse .high, none, "Write 1 to pulse for one cycle; reads 0"⟩
  | write0Pulse =>
    ⟨true, true, false, .pulse .low, none, "Write 0 to pulse for one cycle; reads 0"⟩
  | readClean => ⟨true, true, false, .store, some .clear, "Cleared after read"⟩
  | readSet => ⟨true, true, false, .store, some .set, "Set to all-ones after read"⟩
  | writeReadClean => ⟨true, true, false, .store, some .clear, "Writable, cleared after read"⟩
  | writeReadSet =>
    ⟨true, true, false, .store, some .set, "Writable, set to all-ones after read"⟩
  | writeOnce => ⟨true, true, true, .store, none, "First write after reset sticks"⟩
  | writeOnlyOnce =>
    ⟨false, true, true, .store, none, "First write after reset sticks; reads 0"⟩
  | lockField => ⟨true, true, false, .store, none, "Lock bits gating writes to other registers"⟩

/-- The canonical name. -/
def name : RegisterType → String
  | readOnly => "ReadOnly"
  | readWrite => "ReadWrite"
  | writeOnly => "WriteOnly"
  | write1Clean => "Write1Clean"
  | write0Clean => "Write0Clean"
  | write1Set => "Write1Set"
  | write0Set => "Write0Set"
  | write1Pulse => "Write1Pulse"
  | write0Pulse => "Write0Pulse"
  | readClean => "ReadClean"
  | readSet => "ReadSet"
  | writeReadClean => "WriteReadClean"
  | writeReadSet => "WriteReadSet"
  | writeOnce => "WriteOnce"
  | writeOnlyOnce => "WriteOnlyOnce"
  | lockField => "LockField"

/-- The spellings of a type, in lower case and without separators. -/
def spellings : RegisterType → List String
  | readOnly => ["readonly", "ro", "r"]
  | readWrite => ["readwrite", "rw"]
  | writeOnly => ["writeonly", "wo", "w"]
  | write1Clean => ["write1clean", "write1clear", "w1c"]
  | write0Clean => ["write0clean", "write0clear", "w0c"]
  | write1Set => ["write1set", "w1s"]
  | write0Set => ["write0set", "w0s"]
  | write1Pulse => ["write1pulse", "w1p"]
  | write0Pulse => ["write0pulse", "w0p"]
  | readClean => ["readclean", "readclear", "rc"]
  | readSet => ["readset", "rs"]
  | writeReadClean => ["writereadclean", "writereadclear", "wrc"]
  | writeReadSet => ["writereadset", "wrs"]
  | writeOnce => ["writeonce", "w1"]
  | writeOnlyOnce => ["writeonlyonce", "wo1"]
  | lockField => ["lockfield", "lock"]

/-- Characters that do not count in a written type name. -/
def separators : List Char :=
  ['_', '-', ' ']

/-- The type that a text names, in any case and with any separators. -/
def ofText? (text : String) : Option RegisterType :=
  Text.ofSpelling? separators spellings all text

theorem mem_all (type : RegisterType) : type ∈ all := by
  cases type <;> decide

end RegisterType

end RegisterFile
