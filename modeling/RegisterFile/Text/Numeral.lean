/-!
Numerals. `ofDigits?` reads a non-empty run of digits of a radix from 2 to 36, letters standing
for ten and up in either case; `ofUnsigned?` also takes one leading plus sign and a bound.
`decimal`, `hex` and `HEX` write a number without padding, `padded` fills with zeros on the left.
-/

namespace RegisterFile.Numeral

/-- The value of a digit or letter: `0` to `9`, then `a` to `z` in either case from ten on. -/
def digitValue? (c : Char) : Option Nat :=
  if '0' ≤ c ∧ c ≤ '9' then some (c.toNat - '0'.toNat)
  else if 'a' ≤ c ∧ c ≤ 'z' then some (c.toNat - 'a'.toNat + 10)
  else if 'A' ≤ c ∧ c ≤ 'Z' then some (c.toNat - 'A'.toNat + 10)
  else none

/-- The value of a character that is a digit of `radix`. -/
def digit? (radix : Nat) (c : Char) : Option Nat :=
  (digitValue? c).filter (· < radix)

/-- Reads further digits after a number of value `acc`. -/
def accumulate (radix : Nat) (acc : Nat) : List Char → Option Nat
  | [] => some acc
  | c :: rest => (digit? radix c).bind fun d => accumulate radix (acc * radix + d) rest

/-- The value of a non-empty run of digits. -/
def ofDigits? (radix : Nat) (cs : List Char) : Option Nat :=
  if cs.isEmpty then none else accumulate radix 0 cs

/-- A text without the plus sign that it may start with. -/
def dropPlus : List Char → List Char
  | '+' :: rest => rest
  | cs => cs

/-- An unsigned number below `bound`; one plus sign may stand before its digits. -/
def ofUnsigned? (radix bound : Nat) (cs : List Char) : Option Nat :=
  (ofDigits? radix (dropPlus cs)).filter (· < bound)

/-- Decimal digits. -/
def decimal (n : Nat) : List Char :=
  Nat.toDigits 10 n

/-- Hexadecimal digits with lower-case letters. -/
def hex (n : Nat) : List Char :=
  Nat.toDigits 16 n

/-- Hexadecimal digits with upper-case letters. -/
def HEX (n : Nat) : List Char :=
  (Nat.toDigits 16 n).map Char.toUpper

/-- Binary digits. -/
def binary (n : Nat) : List Char :=
  Nat.toDigits 2 n

/-- At least `count` digits, with zeros in front. -/
def padded (count : Nat) (digits : List Char) : List Char :=
  digits.leftpad count '0'

/-- The hexadecimal digits that `width` bits need, and at least one. -/
def hexDigitCount (width : Nat) : Nat :=
  max 1 ((width + 3) / 4)

/-- A number as text in the form `0x1f`. -/
def hexText (n : Nat) : String :=
  "0x" ++ String.ofList (hex n)

/-- A number as text in the form `0x001F`, padded to the digits of `width` bits. -/
def paddedHexText (width n : Nat) : String :=
  "0x" ++ String.ofList (padded (hexDigitCount width) (HEX n))

end RegisterFile.Numeral
