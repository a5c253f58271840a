import RegisterFile.Accessors.Syntax
import RegisterFile.Text.Numeral
import RegisterFile.Text.Printable

/-!
The text of accessor modules: the tokens of a module on one line. A space stands between two
tokens, except behind an opening and in front of a closing parenthesis or square bracket.
-/

namespace RegisterFile.Accessors

/-- A token of the output. -/
abbrev Token := String

/-- The characters of a text inside a string literal. What cannot be shown is written as an
    escape; a null character needs two digits in front of an octal digit. -/
def quotedChars : List Char → List Char
  | [] => []
  | c :: rest =>
    (match c with
      | '\x00' =>
        if rest.head?.any fun next => '0' ≤ next && next ≤ '7' then ['\\', 'x', '0', '0']
        else ['\\', '0']
      | '\t' => ['\\', 't']
      | '\n' => ['\\', 'n']
      | '\r' => ['\\', 'r']
      | '"' => ['\\', '"']
      | '\\' => ['\\', '\\']
      | _ =>
        if Text.isPrintable c then [c]
        else "\\u\x7b".toList ++ Numeral.hex c.toNat ++ "\x7d".toList) ++
      quotedChars rest

/-- A text as a string literal. -/
def quoted (text : String) : Token :=
  String.ofList ('"' :: (quotedChars text.toList ++ ['"']))

/-- A hexadecimal literal. -/
def hexToken (value : Nat) : Token :=
  "0x" ++ String.ofList (Numeral.HEX value)

def parens (tokens : List Token) : List Token :=
  "(" :: (tokens ++ [")"])

def braces (tokens : List Token) : List Token :=
  "\x7b" :: (tokens ++ ["\x7d"])

def attributeTokens (tokens : List Token) : List Token :=
  "#" :: "[" :: (tokens ++ ["]"])

/-- A documentation attribute. -/
def docTokens (doc : String) : List Token :=
  attributeTokens ["doc", "=", quoted doc]

def Expr.tokens : Expr → List Token
  | stored => ["self", ".", "0"]
  | resetValue => ["Self", "::", "RESET_VALUE"]
  | «local» name => [name]
  | hex value => [hexToken value.toNat]
  | decimal value => [toString value]
  | and left right => left.tokens ++ "&" :: right.tokens
  | shiftLeft left right => left.tokens ++ "<<" :: right.tokens
  | shiftRight left right => left.tokens ++ ">>" :: right.tokens
  | not e => "!" :: e.tokens
  | group e => parens e.tokens
  | wrap e => "Self" :: parens e.tokens

/-- An assignment to the stored value. -/
def assignTokens (operator : Token) (value : Expr) : List Token :=
  Expr.stored.tokens ++ operator :: (value.tokens ++ [";"])

/-- The tokens of a statement. -/
def Stmt.tokens : Stmt → List Token
  | bind name value => ["let", name, "="] ++ value.tokens ++ [";"]
  | put value => assignTokens "=" value
  | keep value => assignTokens "&=" value
  | merge value => assignTokens "|=" value

/-- The tokens of a method behind its name. -/
def Body.tokens (storage : Storage) : Body → List Token
  | make result => parens [] ++ ["->", "Self"] ++ braces result.tokens
  | get result => parens ["&", "self"] ++ ["->", storage.name] ++ braces result.tokens
  | change body => parens ["&", "mut", "self"] ++ braces (body.flatMap Stmt.tokens)
  | set body =>
    parens ["&", "mut", "self", ",", "value", ":", storage.name] ++
      braces (body.flatMap Stmt.tokens)

def Method.tokens (storage : Storage) (method : Method) : List Token :=
  (method.doc.map docTokens).getD [] ++ ["pub", "fn", method.name] ++
    method.body.tokens storage

def constantTokens (name type : String) (value : Token) : List Token :=
  ["pub", "const", name, ":", type, "=", value, ";"]

/-- The tokens of a register's type. -/
def RegisterType.tokens (register : RegisterType) : List Token :=
  docTokens register.doc ++
    attributeTokens
      ("derive" :: parens
        ["Debug", ",", "Clone", ",", "Copy", ",", "PartialEq", ",", "Eq"]) ++
    ["pub", "struct", register.name] ++ parens [register.storage.name] ++
    [";", "impl", register.name] ++
    braces
      (constantTokens "ADDR" "u64" (hexToken register.address.toNat) ++
        constantTokens "RESET_VALUE" register.storage.name (hexToken register.reset.toNat) ++
        register.methods.flatMap (Method.tokens register.storage))

/-- The tokens of the type of the register file. -/
def Module.fileTokens (m : Module) : List Token :=
  docTokens m.doc ++ ["pub", "struct", m.fileName, ";", "impl", m.fileName] ++
    braces
      (constantTokens "BASE_ADDR" "u64" (hexToken m.baseAddress.toNat) ++
        constantTokens "DATA_WIDTH" "u32" s!"{m.dataWidth.toNat}u32" ++
        constantTokens "ADDR_WIDTH" "u32" s!"{m.addrWidth.toNat}u32")

def Module.tokens (m : Module) : List Token :=
  attributeTokens
      ("allow" :: parens
        ["non_camel_case_types", ",", "clippy", "::", "new_without_default"]) ++
    ["pub", "mod", m.name] ++
    braces (m.fileTokens ++ m.registers.flatMap RegisterType.tokens)

/-- Whether no space stands between two tokens. -/
def joined (left right : Token) : Bool :=
  left == "(" || left == "[" || right == ")" || right == "]"

/-- Tokens with the spaces between them. -/
def spaced : List Token → List String
  | [] => []
  | [token] => [token]
  | left :: right :: rest =>
    if joined left right then left :: spaced (right :: rest)
    else left :: " " :: spaced (right :: rest)

def Module.text (m : Module) : String :=
  String.join (spaced m.tokens)

end RegisterFile.Accessors
