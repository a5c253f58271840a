import RegisterFile.Document.Error
import RegisterFile.Text.Blank
import RegisterFile.Text.Split

/-!
Literals: numbers as a document writes them. A text is decimal, has a radix mark (`0x`, `0h`, `0b`
or `0o`) or is sized as in `8'hFF`, where the size may be left out. Underscores and outer blanks
do not count.
-/

namespace RegisterFile.Document

/-- The radix that the letter of a sized literal stands for. -/
def sizedRadix? (c : Char) : Option Nat :=
  match c.toLower with
  | 'h' => some 16
  | 'd' => some 10
  | 'b' => some 2
  | 'o' => some 8
  | _ => none

/-- Whether a value fits a size as written; an absent size fits all. -/
def fitsSize (size : List Char) (value : Nat) : Bool :=
  size.isEmpty ||
    match Numeral.ofUnsigned? 10 UInt32.size size with
    | some bits => bits != 0 && (128 ≤ bits || value >>> bits == 0)
    | none => false

/-- The value behind the quote of a sized literal. -/
def ofSized? (size : List Char) : List Char → Option Nat
  | [] => none
  | letter :: digits => do
    let radix ← sizedRadix? letter
    let value ← Numeral.ofUnsigned? radix Word.limit digits
    if fitsSize size value then some value else none

/-- The radix of a literal in lower case without a quote, and its digits. -/
def splitRadix : List Char → Nat × List Char
  | '0' :: 'x' :: digits => (16, digits)
  | '0' :: 'h' :: digits => (16, digits)
  | '0' :: 'b' :: digits => (2, digits)
  | '0' :: 'o' :: digits => (8, digits)
  | digits => (10, digits)

/-- The value of a literal without blanks and underscores. -/
def ofCleaned? (cs : List Char) : Option Nat :=
  match Text.splitOnce '\'' cs with
  | some (size, rest) => ofSized? size rest
  | none =>
    let (radix, digits) := splitRadix (cs.map Char.toLower)
    (Numeral.ofDigits? radix digits).filter (· < Word.limit)

def literalValue (text : List Char) : Except Error Word :=
  match ofCleaned? ((Text.trim text).filter (· != '_')) with
  | some value => .ok (BitVec.ofNat 128 value)
  | none => .error (.invalidLiteral (String.ofList text))

/-- A number as written: a plain integer, or a text to be read. -/
inductive Literal where
  | number (n : UInt64)
  | text (content : String)
  deriving DecidableEq, Repr

namespace Literal

/-- The value of a number or literal text. -/
def value : Literal → Except Error Word
  | number n => .ok (BitVec.ofNat 128 n.toNat)
  | text content => literalValue content.toList

/-- The number or text as it was written. -/
def written : Literal → String
  | number n => toString n.toNat
  | text content => content

end Literal

end RegisterFile.Document
