import RegisterFile.Header.Macro
import RegisterFile.Provenance
import RegisterFile.Text.Blank

/-!
The C header of a register file. Each register has its address and its reset value, each field a
mask, a shift and accessors; a register without fields is one field. Values of registers wider
than 64 bits are split into two halves, and their fields have no accessors.
-/

namespace RegisterFile.Header

/-- A line of the part of a header that describes registers. -/
inductive Line where
  | blank
  | comment (text : String)
  | define (definition : Macro)
  deriving DecidableEq, Repr

/-- A header file. -/
structure File where
  /-- The lines of the comment at its top. -/
  banner : List String
  /-- The macro that is defined once the file has been read. -/
  guard : String
  body : List Line
  deriving DecidableEq, Repr

/-- A text in which nothing closes a comment. -/
def openComment : List Char → List Char
  | '*' :: '/' :: rest => '*' :: ' ' :: '/' :: openComment rest
  | c :: rest => c :: openComment rest
  | [] => []

/-- A description inside a comment: one line that does not close it. -/
def commentText (text : String) : String :=
  String.ofList (openComment (Text.onOneLine text).toList)

/-- The widest register whose values are single constants. -/
def maxConstantWidth : Nat := 64

/-- A value of a register of `width` bits as a macro, or as two for its halves. -/
def constants (name : String) (value : Word) (width : Nat) : List Macro :=
  if width ≤ maxConstantWidth then
    [⟨name, [], .hex (Numeral.hexDigitCount width) value .unsigned⟩]
  else
    [⟨name ++ "_LO", [], .hex 16 (value &&& Word.lowMask 64) .unsignedLongLong⟩,
      ⟨name ++ "_HI", [], .hex 16 (value.takeFrom 64) .unsignedLongLong⟩]

/-- The macro that reads a field out of a register's value. -/
def getter (name : String) : Macro :=
  ⟨name ++ "_GET", ["v"],
    .shiftRight (.and (.parameter "v") (.use (name ++ "_MASK"))) (.use (name ++ "_SHIFT"))⟩

/-- The macro that replaces a field in a register's value. -/
def setter (name : String) : Macro :=
  let mask := Expr.use (name ++ "_MASK")
  ⟨name ++ "_SET", ["v", "x"],
    .or (.and (.parameter "v") (.complement mask))
      (.and (.shiftLeft (.parameter "x") (.use (name ++ "_SHIFT"))) mask)⟩

/-- The mask and the shift of a field. -/
def position (name : String) (mask : Word) (low width : Nat) : List Macro :=
  constants (name ++ "_MASK") mask width ++ [⟨name ++ "_SHIFT", [], .decimal low⟩]

/-- The macros of a field in a register of `width` bits. -/
def fieldMacros (stem : String) (width : Nat) (field : Field) : List Macro :=
  let name := stem ++ "_" ++ field.name.toUpper
  position name field.bits.mask field.bits.low width ++
    (if width ≤ maxConstantWidth then [getter name, setter name] else [])

/-- The macros of the fields of a register, or of the whole register if it has none. -/
def positions (stem : String) (width : Nat) (register : Register) : List Macro :=
  if register.fields.isEmpty then position stem (Word.lowMask width) 0 width
  else register.fields.flatMap (fieldMacros stem width)

/-- The macros of a register, whose names start with `stem`. -/
def registerMacros (config : Config) (stem : String) (register : Register) : List Macro :=
  let width := (config.registerWidth register).toNat
  ⟨stem ++ "_ADDR", [],
      .hex (Numeral.hexDigitCount config.addrWidth.toNat)
        (BitVec.ofNat 128 (register.address.getD 0).toNat) .unsigned⟩ ::
    (constants (stem ++ "_RESET") (register.resetAt width) width ++
      positions stem width register)

/-- The comment in front of a register. -/
def registerComment (register : Register) : String :=
  let title := s!"{register.name} ({register.type.name})"
  if register.description.isEmpty then title
  else title ++ ": " ++ commentText register.description

def registerLines (config : Config) (prefixName : String) (register : Register) : List Line :=
  let width := (config.registerWidth register).toNat
  [.blank, .comment (registerComment register)] ++
    (if width ≤ maxConstantWidth then []
      else [.comment s!"{width}-bit register: values split into 64-bit halves"]) ++
    (registerMacros config (prefixName ++ "_" ++ register.name.toUpper) register).map .define

/-- The header of a register file. -/
def File.ofConfig (config : Config) (provenance : Provenance) : File :=
  let name := config.moduleName.toUpper
  { banner :=
      [s!"{config.moduleName} register definitions", s!"Generated by {provenance.tool}",
        s!"Timestamp: {provenance.timestamp}", "Do not edit by hand."]
    guard := name ++ "_H"
    body :=
      [.define ⟨name ++ "_DATA_WIDTH", [], .decimal config.dataWidth.toNat⟩,
        .define ⟨name ++ "_ADDR_WIDTH", [], .decimal config.addrWidth.toNat⟩] ++
      config.registers.flatMap (registerLines config name) }

def Line.text : Line → String
  | blank => ""
  | comment text => "/* " ++ text ++ " */"
  | define definition => definition.text

/-- The lines that let C++ read the declarations between them. -/
def linkage (brace : String) : List String :=
  ["#ifdef __cplusplus", brace, "#endif", ""]

/-- The lines of a header. -/
def File.lines (file : File) : List String :=
  ["/*"] ++ file.banner.map (" * " ++ ·) ++
    [" */", "", "#ifndef " ++ file.guard, "#define " ++ file.guard, "",
      "#include <stdint.h>", ""] ++
    linkage "extern \"C\" \x7b" ++ file.body.map Line.text ++ [""] ++ linkage "\x7d" ++
    ["#endif /* " ++ file.guard ++ " */"]

/-- The text of a header. -/
def File.text (file : File) : String :=
  String.join (file.lines.map (· ++ "\n"))

end RegisterFile.Header
