import Mathlib.Data.List.Basic
import RegisterFile.Text.Blank
import RegisterFile.Text.Numeral
import RegisterFile.Text.Split

/-!
Numerals read back, and what cutting a text does where there is nothing to cut.
-/

namespace RegisterFile

namespace Numeral

variable {radix n : Nat}

theorem digit?_digitChar (hradix : radix ≤ 16) (hn : n < radix) :
    digit? radix n.digitChar = some n := by
  have hvalue : ∀ d < 16, digitValue? d.digitChar = some d := by decide
  rw [digit?, hvalue n (by omega), Option.filter_some, if_pos (by simpa using hn)]

theorem accumulate_append (acc : Nat) (front back : List Char) :
    accumulate radix acc (front ++ back) =
      (accumulate radix acc front).bind fun acc => accumulate radix acc back := by
  induction front generalizing acc with
  | nil => rfl
  | cons c rest ih =>
    simp only [List.cons_append, accumulate, Option.bind_assoc]
    congr 1
    funext d
    exact ih (acc * radix + d)

/-- The induction is on the number, whose last digit is the remainder by the radix. -/
theorem accumulate_toDigits (hone : 1 < radix) (hradix : radix ≤ 16) (n : Nat) :
    accumulate radix 0 (Nat.toDigits radix n) = some n := by
  induction n using Nat.strongRecOn with
  | ind n ih =>
    by_cases hn : n < radix
    · rw [Nat.toDigits_of_lt_base hn, accumulate, digit?_digitChar hradix hn]
      simp [accumulate]
    · have hle := Nat.le_of_not_lt hn
      have hlast : n % radix < radix := Nat.mod_lt n (by omega)
      rw [Nat.toDigits_of_base_le hone hle, accumulate_append,
        ih (n / radix) (Nat.div_lt_self (by omega) hone), Option.bind_some, accumulate,
        digit?_digitChar hradix hlast, Option.bind_some, accumulate, Nat.div_add_mod']

/-- A number's digits stand for the number. -/
theorem ofDigits?_toDigits (hone : 1 < radix) (hradix : radix ≤ 16) (n : Nat) :
    ofDigits? radix (Nat.toDigits radix n) = some n := by
  rw [ofDigits?, if_neg (by simp), accumulate_toDigits hone hradix]

theorem ofDigits?_decimal (n : Nat) : ofDigits? 10 (decimal n) = some n :=
  ofDigits?_toDigits (by decide) (by decide) n

theorem isDigit_of_mem_decimal {c : Char} (hc : c ∈ decimal n) : c.isDigit = true :=
  Nat.isDigit_of_mem_toDigits (by decide) (by decide) hc

theorem notMem_decimal {c : Char} (hc : c.isDigit = false) : c ∉ decimal n := by
  intro hmem
  rw [isDigit_of_mem_decimal hmem] at hc
  cases hc

theorem decimal_ne_nil (n : Nat) : decimal n ≠ [] :=
  Nat.toDigits_ne_nil

theorem dropPlus_of_notMem {cs : List Char} (hplus : '+' ∉ cs) : dropPlus cs = cs := by
  unfold dropPlus
  split
  · exact absurd List.mem_cons_self hplus
  · rfl

theorem ofUnsigned?_decimal {bound : Nat} (hn : n < bound) :
    ofUnsigned? 10 bound (decimal n) = some n := by
  rw [ofUnsigned?, dropPlus_of_notMem (notMem_decimal (by decide)), ofDigits?_decimal,
    Option.filter_some, if_pos (by simpa using hn)]

/-- No zero stands in front of other digits. -/
theorem head_decimal_ne_zero (hn : 0 < n) : (decimal n).head? ≠ some '0' := by
  have hdigits : ∀ d < 10, 0 < d → d.digitChar ≠ '0' := by decide
  induction n using Nat.strongRecOn with
  | ind n ih =>
    by_cases hsmall : n < 10
    · rw [decimal, Nat.toDigits_of_lt_base hsmall]
      intro heq
      exact hdigits n hsmall hn (Option.some.inj heq)
    · rw [decimal, Nat.toDigits_of_base_le (by decide) (Nat.le_of_not_lt hsmall),
        List.head?_append_of_ne_nil _ Nat.toDigits_ne_nil]
      exact ih (n / 10) (by omega) (by omega)

end Numeral

namespace Text

variable {cs : List Char} {sep : Char}

theorem splitOnce_of_notMem (hsep : sep ∉ cs) : splitOnce sep cs = none := by
  induction cs with
  | nil => rfl
  | cons c rest ih =>
    obtain ⟨hc, hrest⟩ := not_or.mp (mt List.mem_cons.mpr hsep)
    rw [splitOnce, if_neg (Ne.symm hc), ih hrest, Option.map_none]

theorem notMem_of_splitOnce (hnone : splitOnce sep cs = none) : sep ∉ cs := by
  intro hsep
  obtain ⟨before, after, rfl, hbefore⟩ := List.eq_append_cons_of_mem hsep
  rw [splitOnce_append after hbefore] at hnone
  cases hnone

theorem unbracket_of_notMem {opening closing : Char} (hopening : opening ∉ cs) :
    unbracket opening closing cs = cs := by
  cases cs with
  | nil => rfl
  | cons c rest =>
    obtain ⟨hc, -⟩ := not_or.mp (mt List.mem_cons.mpr hopening)
    rw [unbracket, if_neg (Ne.symm hc)]

theorem dropLast?_append (last : Char) (cs : List Char) :
    dropLast? last (cs ++ [last]) = some cs := by
  rw [dropLast?, List.getLast?_append, List.getLast?_singleton, Option.some_or, if_pos rfl,
    List.dropLast_concat]

theorem dropLast?_eq_some {last : Char} {front : List Char} (h : dropLast? last cs = some front) :
    cs = front ++ [last] := by
  unfold dropLast? at h
  split at h
  · next hlast =>
    cases h
    exact (List.dropLast_append_getLast? last hlast).symm
  · cases h

/-- Brackets are all that is taken away. -/
theorem unbracket_cases (opening closing : Char) (cs : List Char) :
    unbracket opening closing cs = cs ∨
      cs = opening :: (unbracket opening closing cs ++ [closing]) := by
  unfold unbracket
  split
  · exact Or.inl rfl
  · next c rest =>
    split
    · next hc =>
      cases hdrop : dropLast? closing rest with
      | none => exact Or.inl rfl
      | some inner => exact Or.inr (by rw [hc, dropLast?_eq_some hdrop, Option.getD_some])
    · exact Or.inl rfl

theorem mem_unbracket_iff {opening closing c : Char} (hopening : c ≠ opening) (hclosing : c ≠ closing) :
    c ∈ unbracket opening closing cs ↔ c ∈ cs := by
  rcases unbracket_cases opening closing cs with hsame | hinner
  · rw [hsame]
  · conv_rhs => rw [hinner]
    simp [hopening, hclosing]

theorem unbracket_append (opening closing : Char) (inner : List Char) :
    unbracket opening closing (opening :: (inner ++ [closing])) = inner := by
  rw [unbracket, if_pos rfl, dropLast?_append, Option.getD_some]

theorem trim_of_forall (hcs : ∀ c ∈ cs, isBlank c = false) : trim cs = cs := by
  have hdrop : ∀ {cs : List Char}, (∀ c ∈ cs, isBlank c = false) → cs.dropWhile isBlank = cs := by
    intro cs hcs
    cases cs with
    | nil => rfl
    | cons c rest => rw [List.dropWhile_cons_of_neg (by simpa using hcs c List.mem_cons_self)]
  rw [trim, hdrop hcs, hdrop fun c hc => hcs c (List.mem_reverse.mp hc), List.reverse_reverse]

/-- Of ASCII, only some of the code points up to the space are blanks. -/
theorem isBlank_of_ascii {c : Char} (hspace : 32 < c.toNat) (hascii : c.toNat < 128) :
    isBlank c = false := by
  have hcodes : ∀ n < 128, 32 < n → n ∉ blankCodePoints := by decide
  rw [Bool.eq_false_iff, ne_eq, isBlank_iff]
  exact hcodes _ hascii hspace

theorem isBlank_of_mem_decimal {c : Char} {n : Nat} (hc : c ∈ Numeral.decimal n) :
    isBlank c = false := by
  have hdigit := Numeral.isDigit_of_mem_decimal hc
  simp only [Char.isDigit, Bool.and_eq_true, decide_eq_true_eq, UInt32.le_iff_toNat_le,
    ge_iff_le] at hdigit
  have htoNat : c.toNat = c.val.toNat := rfl
  simp at hdigit
  exact isBlank_of_ascii (by omega) (by omega)

end Text

end RegisterFile
