import Mathlib.Data.Nat.Digits.Defs
import RegisterFile.Proofs.Text.Identifier

/-!
What runs of digits stand for. A run is read exactly if it is not empty and all its characters are
digits of the radix, letters in either case, and its number is that of the digits in positional
notation.
-/

namespace RegisterFile.Numeral

/-- A character is the digit of a value, letters in either case. -/
def IsDigit (radix : Nat) (c : Char) (value : Nat) : Prop :=
  value < radix ∧ (c = value.digitChar ∨ c = value.digitChar.toUpper)

/-- A non-empty run of digits stands for a number in positional notation. -/
def Denotes (radix : Nat) (cs : List Char) (value : Nat) : Prop :=
  ∃ digits : List Nat, digits ≠ [] ∧ List.Forall₂ (IsDigit radix) cs digits ∧
    value = Nat.ofDigits radix digits.reverse

variable {radix value : Nat} {c : Char} {cs : List Char}

theorem digitValue?_eq_some_iff (hvalue : value < 16) :
    digitValue? c = some value ↔ c = value.digitChar ∨ c = value.digitChar.toUpper := by
  constructor
  · intro hread
    have hcodes : ∀ n < 128, ∀ d < 16, digitValue? (Char.ofNat n) = some d →
        Char.ofNat n = d.digitChar ∨ Char.ofNat n = d.digitChar.toUpper := by decide +kernel
    have hascii : c.toNat < 128 := by
      have hle {d : Char} (hcd : c ≤ d) : c.toNat ≤ d.toNat := hcd
      unfold digitValue? at hread
      split at hread
      · next hrange => exact Nat.lt_of_le_of_lt (hle hrange.2) (by decide)
      · split at hread
        · next hrange => exact Nat.lt_of_le_of_lt (hle hrange.2) (by decide)
        · split at hread
          · next hrange => exact Nat.lt_of_le_of_lt (hle hrange.2) (by decide)
          · cases hread
    have hchar := hcodes c.toNat hascii value hvalue
    rw [Char.ofNat_toNat] at hchar
    exact hchar hread
  · have hdigits : ∀ d < 16, digitValue? d.digitChar = some d ∧
        digitValue? d.digitChar.toUpper = some d := by decide
    rintro (rfl | rfl)
    · exact (hdigits value hvalue).1
    · exact (hdigits value hvalue).2

theorem digit?_eq_some_iff (hradix : radix ≤ 16) :
    digit? radix c = some value ↔ IsDigit radix c value := by
  rw [digit?, Option.filter_eq_some_iff, decide_eq_true_eq, IsDigit, and_comm]
  refine and_congr_right fun hvalue => digitValue?_eq_some_iff (by omega)

/-- The digits of a run are read from the left, each after a number that is moved up by a place. -/
theorem accumulate_eq_some_iff (hradix : radix ≤ 16) {before : Nat} :
    accumulate radix before cs = some value ↔
      ∃ digits : List Nat, List.Forall₂ (IsDigit radix) cs digits ∧
        digits.foldl (fun n d => n * radix + d) before = value := by
  induction cs generalizing before with
  | nil => simp [accumulate]
  | cons c rest ih =>
    rw [accumulate, Option.bind_eq_some_iff]
    constructor
    · rintro ⟨d, hd, hrest⟩
      obtain ⟨digits, hdigits, hvalue⟩ := ih.mp hrest
      exact ⟨d :: digits, .cons ((digit?_eq_some_iff hradix).mp hd) hdigits, hvalue⟩
    · rintro ⟨_, hforall, hvalue⟩
      cases hforall with
      | cons hd hdigits =>
        exact ⟨_, (digit?_eq_some_iff hradix).mpr hd, ih.mpr ⟨_, hdigits, hvalue⟩⟩

/-- A text is read exactly if it is a run of digits. -/
theorem ofDigits?_eq_some_iff (hradix : radix ≤ 16) :
    ofDigits? radix cs = some value ↔ Denotes radix cs value := by
  have hplaces (digits : List Nat) : Nat.ofDigits radix digits.reverse =
      digits.foldl (fun n d => n * radix + d) 0 := by
    rw [Nat.ofDigits_eq_foldr, List.foldr_reverse]
    congr 1
    funext n d
    rw [Nat.cast_id, Nat.add_comm, Nat.mul_comm]
  cases cs with
  | nil => simp [ofDigits?, Denotes]
  | cons c rest =>
    rw [ofDigits?, List.isEmpty_cons, if_neg Bool.false_ne_true, accumulate_eq_some_iff hradix]
    constructor
    · rintro ⟨digits, hdigits, rfl⟩
      refine ⟨digits, ?_, hdigits, (hplaces digits).symm⟩
      rintro rfl
      cases hdigits
    · rintro ⟨digits, -, hdigits, rfl⟩
      exact ⟨digits, hdigits, (hplaces digits).symm⟩

theorem IsDigit.isAlphanum (hradix : radix ≤ 16) (hdigit : IsDigit radix c value) :
    c.isAlphanum = true := by
  have hchars : ∀ d < 16, d.digitChar.isAlphanum = true ∧
      d.digitChar.toUpper.isAlphanum = true := by decide
  obtain ⟨hvalue, rfl | rfl⟩ := hdigit
  · exact (hchars value (by omega)).1
  · exact (hchars value (by omega)).2

/-- Decimal digits are no letters. -/
theorem IsDigit.isAlpha (hdigit : IsDigit 10 c value) : c.isAlpha = false := by
  have hchars : ∀ d < 10, d.digitChar.isAlpha = false ∧ d.digitChar.toUpper.isAlpha = false := by
    decide
  obtain ⟨hvalue, rfl | rfl⟩ := hdigit
  · exact (hchars value hvalue).1
  · exact (hchars value hvalue).2

theorem Denotes.ne_nil (hdenotes : Denotes radix cs value) : cs ≠ [] := by
  rintro rfl
  obtain ⟨digits, hne, hdigits, -⟩ := hdenotes
  cases hdigits
  exact hne rfl

theorem Denotes.exists_isDigit (hdenotes : Denotes radix cs value) (hc : c ∈ cs) :
    ∃ d, IsDigit radix c d := by
  obtain ⟨digits, -, hdigits, -⟩ := hdenotes
  obtain ⟨i, hi, rfl⟩ := List.mem_iff_getElem.mp hc
  exact ⟨_, hdigits.get (by simpa using hi) (by simpa [← hdigits.length_eq] using hi)⟩

theorem Denotes.isAlphanum (hradix : radix ≤ 16) (hdenotes : Denotes radix cs value)
    (hc : c ∈ cs) : c.isAlphanum = true := by
  obtain ⟨d, hdigit⟩ := hdenotes.exists_isDigit hc
  exact hdigit.isAlphanum hradix

/-! ### Letters in lower case -/

theorem digitValue?_toLower (c : Char) : digitValue? c.toLower = digitValue? c := by
  by_cases hascii : c.toNat < 128
  · have hcodes : ∀ n < 128, digitValue? (Char.ofNat n).toLower = digitValue? (Char.ofNat n) := by
      decide +kernel
    have hchar := hcodes c.toNat hascii
    rwa [Char.ofNat_toNat] at hchar
  · rw [Char.toLower_eq_of_not_isUpper]
    intro hupper
    simp only [Char.isUpper, decide_eq_true_eq, ge_iff_le, UInt32.le_iff_toNat_le] at hupper
    have htoNat : c.toNat = c.val.toNat := rfl
    simp at hupper
    omega

/-- Digits count in either case. -/
theorem ofDigits?_map_toLower (radix : Nat) (cs : List Char) :
    ofDigits? radix (cs.map Char.toLower) = ofDigits? radix cs := by
  have haccumulate (before : Nat) :
      accumulate radix before (cs.map Char.toLower) = accumulate radix before cs := by
    induction cs generalizing before with
    | nil => rfl
    | cons c rest ih =>
      rw [List.map_cons, accumulate, accumulate, digit?, digitValue?_toLower]
      exact congrArg _ (funext fun d => ih _)
  rw [ofDigits?, ofDigits?, haccumulate, List.isEmpty_map]

end RegisterFile.Numeral
