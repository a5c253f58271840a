import RegisterFile.Text.Numeral
import RegisterFile.Word

/-!
Why a well-formed document does not describe a register file. An error in a register or field
carries its name around the cause; `root` is the innermost cause.
-/

namespace RegisterFile.Document

/-- The numbers of a document that must fit a narrower type than a literal. -/
inductive Quantity where
  | address
  | width
  | baseAddress
  deriving DecidableEq, Repr

/-- The name of a quantity in messages. -/
def Quantity.name : Quantity → String
  | address => "address"
  | width => "width"
  | baseAddress => "base_address"

/-- The lists of a document whose entries name registers. -/
inductive Mention where
  | fieldEntry
  | lockRelation
  deriving DecidableEq, Repr

/-- The name of a mention in messages. -/
def Mention.name : Mention → String
  | fieldEntry => "field list entry"
  | lockRelation => "lock relation"

/-- A cause of failure. -/
inductive Error where
  | invalidLiteral (text : String)
  | invalidExpression (text : String)
  | unresolvedParameter (name expression : String)
  | invalidBitRange (text : String)
  | outOfRange (quantity : Quantity) (value : Word)
  | unknownRegisterType (text : String)
  | unknownAccessHint (text : String)
  | unknownProtocol (text : String)
  | invalidLock (text : String)
  | unknownRegister (name : String) (mention : Mention)
  | unknownField (register field : String)
  | inRegister (register : String) (cause : Error)
  | inField (field : String) (cause : Error)
  deriving DecidableEq, Repr

namespace Error

/-- The innermost cause. -/
def root : Error → Error
  | inRegister _ cause | inField _ cause => cause.root
  | cause => cause

/-- The wording of an error. -/
def message : Error → String
  | invalidLiteral text => s!"invalid literal '{text}'"
  | invalidExpression text => s!"invalid expression '{text}'"
  | unresolvedParameter name expression => s!"unresolved parameter '{name}' in '{expression}'"
  | invalidBitRange text => s!"invalid bit range '{text}'"
  | outOfRange quantity value =>
    s!"{quantity.name} value {Numeral.hexText value.toNat} is out of range"
  | unknownRegisterType text => s!"unknown register type '{text}'"
  | unknownAccessHint text => s!"unknown access hint '{text}'"
  | unknownProtocol text =>
    s!"unknown bus protocol '{text}' (expected apb, axi4_lite, wishbone, ocp or custom)"
  | invalidLock text => s!"invalid lock reference '{text}' (expected REG, REG[bit] or REG.FIELD)"
  | unknownRegister name mention => s!"{mention.name} names unknown register '{name}'"
  | unknownField register field =>
    s!"lock relation names unknown field '{field}' of register '{register}'"
  | inRegister register cause => s!"register '{register}': {cause.message}"
  | inField field cause => s!"field '{field}': {cause.message}"

end Error

end RegisterFile.Document
