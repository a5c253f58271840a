import RegisterFile.Text.Numeral

/-!
Decimal numerals with a fraction or an exponent, as far as the sizes of numbers matter: whether
the number that a numeral stands for is within the range of a double.
-/

namespace RegisterFile

/-- The number `significand * 10 ^ exponent`. -/
structure Decimal where
  significand : Nat
  exponent : Int

namespace Decimal

/-- Numbers from here on are not doubles: half a step above the largest double. -/
def doubleLimit : Nat := 1 <<< 1024 - 1 <<< 970

/-- Whether the number is within the range of a double. -/
def isDouble (d : Decimal) : Bool :=
  let lead := d.exponent + (Numeral.decimal d.significand).length
  if d.significand = 0 || lead < 309 then true
  else if 309 < lead then false
  else d.significand * Nat.pow 10 d.exponent.toNat < doubleLimit * Nat.pow 10 (-d.exponent).toNat

/-- The number of an integer part, a fraction and an exponent given by their digits. -/
def ofParts (whole fraction : List Char) (exponent : Int) : Decimal :=
  ⟨(Numeral.ofDigits? 10 (whole ++ fraction)).getD 0, exponent - fraction.length⟩

/-- Splits off an exponent: `e` or `E`, perhaps a sign, and at least one digit. A text that starts
    with none has exponent zero; a letter without digits is refused. -/
def splitExponent? (cs : List Char) : Option (Int × List Char) :=
  match cs with
  | [] => some (0, [])
  | c :: rest =>
    if c != 'e' && c != 'E' then some (0, cs)
    else
      let (negative, rest) := match rest with
        | '-' :: more => (true, more)
        | '+' :: more => (false, more)
        | _ => (false, rest)
      let (digits, after) := rest.span Char.isDigit
      (Numeral.ofDigits? 10 digits).map fun n => (if negative then -n else n, after)

end Decimal

end RegisterFile
