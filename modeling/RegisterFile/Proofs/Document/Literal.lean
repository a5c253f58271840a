import RegisterFile.Document.Literal
import RegisterFile.Proofs.Text.Digits
import RegisterFile.Proofs.Text.Trim

/-!
Literals and the numbers that they stand for. The grammar knows three forms: digits behind a quote
and the letter of their radix, with or without a size in front; digits behind a zero and a letter;
and decimal digits. Reading goes by this grammar, but it also passes over a plus sign in front of
the size and of the digits of the quoted form.
-/

namespace RegisterFile.Document

namespace Literal

/-- The letters behind a quote and the radix that each stands for. -/
def quoteMarks : List (Char × Nat) :=
  [('h', 16), ('d', 10), ('b', 2), ('o', 8)]

/-- The letters behind a leading zero and the radix that each stands for. -/
def zeroMarks : List (Char × Nat) :=
  [('x', 16), ('h', 16), ('b', 2), ('o', 8)]

/-- Digits, with a plus sign in front of them if `plus` allows for it. -/
def Signed (plus : Bool) (radix : Nat) (cs : List Char) (value : Nat) : Prop :=
  Numeral.Denotes radix cs value ∨
    plus = true ∧ ∃ digits, cs = '+' :: digits ∧ Numeral.Denotes radix digits value

/-- A size is left out, or it is a decimal number of bits that the value fits in. -/
def Sized (plus : Bool) (size : List Char) (value : Nat) : Prop :=
  size = [] ∨
    ∃ bits, Signed plus 10 size bits ∧ 1 ≤ bits ∧ bits < 2 ^ 32 ∧ value < 2 ^ bits

/-- The literals without blanks and underscores, and their values. With `plus`, a plus sign may
    stand in front of the size and of the digits of the quoted form. -/
inductive Spells (plus : Bool) : List Char → Nat → Prop where
  | quoted {size digits : List Char} {letter : Char} {radix value : Nat}
    (hmark : (letter.toLower, radix) ∈ quoteMarks) (hdigits : Signed plus radix digits value)
    (hsize : Sized plus size value) : Spells plus (size ++ '\'' :: letter :: digits) value
  | marked {digits : List Char} {letter : Char} {radix value : Nat}
    (hmark : (letter.toLower, radix) ∈ zeroMarks) (hdigits : Numeral.Denotes radix digits value) :
    Spells plus ('0' :: letter :: digits) value
  | decimal {digits : List Char} {value : Nat} (hdigits : Numeral.Denotes 10 digits value) :
    Spells plus digits value

/-- A text without outer blanks and without underscores. -/
def cleaned (text : List Char) : List Char :=
  (Text.trim text).filter (· != '_')

variable {plus : Bool} {radix value : Nat} {size digits cs : List Char} {letter : Char}

theorem radix_le_of_mem_quoteMarks (hmark : (letter, radix) ∈ quoteMarks) : radix ≤ 16 := by
  have hall : ∀ mark ∈ quoteMarks, mark.2 ≤ 16 := by decide
  exact hall _ hmark

theorem radix_le_of_mem_zeroMarks (hmark : (letter, radix) ∈ zeroMarks) : radix ≤ 16 := by
  have hall : ∀ mark ∈ zeroMarks, mark.2 ≤ 16 := by decide
  exact hall _ hmark

theorem cleaned_of_forall {text : List Char}
    (htext : ∀ c ∈ text, c.isAlphanum = true ∨ c = '\'') : cleaned text = text := by
  have hblank : ∀ c ∈ text, Text.isBlank c = false := by
    intro c hc
    rcases htext c hc with halphanum | rfl
    · exact Text.isBlank_of_isAlphanum halphanum
    · decide
  rw [cleaned, Text.trim_of_forall hblank, List.filter_eq_self]
  intro c hc
  rw [bne_iff_ne]
  rintro rfl
  have hunderscore := htext _ hc
  revert hunderscore
  decide

/-! ### The plus sign -/

/-- Digits are neither signs nor quotes. -/
theorem notMem_of_denotes {c : Char} (hc : c.isAlphanum = false) (hradix : radix ≤ 16)
    (hdigits : Numeral.Denotes radix cs value) : c ∉ cs := by
  intro hmem
  rw [hdigits.isAlphanum hradix hmem] at hc
  cases hc

theorem signed_false_iff (hradix : radix ≤ 16) :
    Signed false radix cs value ↔ Signed true radix cs value ∧ '+' ∉ cs := by
  constructor
  · rintro (hdigits | ⟨hplus, -⟩)
    · exact ⟨Or.inl hdigits, notMem_of_denotes (by decide) hradix hdigits⟩
    · cases hplus
  · rintro ⟨hdigits | ⟨-, digits, rfl, -⟩, hnot⟩
    · exact Or.inl hdigits
    · exact absurd List.mem_cons_self hnot

theorem sized_false_iff :
    Sized false size value ↔ Sized true size value ∧ '+' ∉ size := by
  unfold Sized
  simp only [signed_false_iff (show 10 ≤ 16 by decide)]
  constructor
  · rintro (rfl | ⟨bits, ⟨hsize, hplus⟩, hbits⟩)
    · exact ⟨Or.inl rfl, List.not_mem_nil⟩
    · exact ⟨Or.inr ⟨bits, hsize, hbits⟩, hplus⟩
  · rintro ⟨rfl | ⟨bits, hsize, hbits⟩, hplus⟩
    · exact Or.inl rfl
    · exact Or.inr ⟨bits, ⟨hsize, hplus⟩, hbits⟩

theorem ne_of_mark {marks : List (Char × Nat)} {c : Char}
    (hmarks : ∀ mark ∈ marks, mark.1 ≠ c.toLower) (hmark : (letter.toLower, radix) ∈ marks) :
    c ≠ letter := by
  rintro rfl
  exact hmarks _ hmark rfl

/-- The plus sign is all that reading allows for on top of the grammar. -/
theorem spells_false_iff : Spells false cs value ↔ Spells true cs value ∧ '+' ∉ cs := by
  constructor
  · intro hspells
    cases hspells with
    | quoted hmark hdigits hsize =>
      obtain ⟨hdigits, hdigitsPlus⟩ :=
        (signed_false_iff (radix_le_of_mem_quoteMarks hmark)).mp hdigits
      obtain ⟨hsize, hsizePlus⟩ := sized_false_iff.mp hsize
      have hletter : '+' ≠ _ := ne_of_mark (by decide) hmark
      exact ⟨.quoted hmark hdigits hsize, by simp [hsizePlus, hdigitsPlus, hletter]⟩
    | marked hmark hdigits =>
      have hdigitsPlus : '+' ∉ _ :=
        notMem_of_denotes (by decide) (radix_le_of_mem_zeroMarks hmark) hdigits
      have hletter : '+' ≠ _ := ne_of_mark (by decide) hmark
      exact ⟨.marked hmark hdigits, by simp [hdigitsPlus, hletter]⟩
    | decimal hdigits => exact ⟨.decimal hdigits, notMem_of_denotes (by decide) (by decide) hdigits⟩
  · rintro ⟨hspells, hplus⟩
    cases hspells with
    | quoted hmark hdigits hsize =>
      simp only [List.mem_append, List.mem_cons, not_or] at hplus
      obtain ⟨hsizePlus, -, -, hdigitsPlus⟩ := hplus
      exact .quoted hmark
        ((signed_false_iff (radix_le_of_mem_quoteMarks hmark)).mpr ⟨hdigits, hdigitsPlus⟩)
        (sized_false_iff.mpr ⟨hsize, hsizePlus⟩)
    | marked hmark hdigits => exact .marked hmark hdigits
    | decimal hdigits => exact .decimal hdigits

/-! ### The quoted form -/

theorem sizedRadix?_eq_some_iff :
    sizedRadix? letter = some radix ↔ (letter.toLower, radix) ∈ quoteMarks := by
  unfold sizedRadix?
  split
  case h_5 => simp_all [quoteMarks]
  all_goals
    next hletter => simp [hletter, quoteMarks, eq_comm]

theorem ofUnsigned?_eq_some_iff (hradix : radix ≤ 16) {bound : Nat} :
    Numeral.ofUnsigned? radix bound cs = some value ↔
      Signed true radix cs value ∧ value < bound := by
  rw [Numeral.ofUnsigned?, Option.filter_eq_some_iff, decide_eq_true_eq,
    Numeral.ofDigits?_eq_some_iff hradix]
  refine and_congr_left fun _ => ?_
  unfold Numeral.dropPlus
  split
  · next digits =>
    constructor
    · exact fun hdigits => Or.inr ⟨rfl, digits, rfl, hdigits⟩
    · rintro (hdigits | ⟨-, _, heq, hdigits⟩)
      · exact absurd List.mem_cons_self (notMem_of_denotes (by decide) hradix hdigits)
      · cases heq
        exact hdigits
  · next hnot =>
    constructor
    · exact Or.inl
    · rintro (hdigits | ⟨-, digits, rfl, -⟩)
      · exact hdigits
      · exact absurd rfl (hnot digits)

theorem fitsSize_iff (hvalue : value < 2 ^ 128) :
    fitsSize size value = true ↔ Sized true size value := by
  have hfits {bits : Nat} : (bits != 0 && (decide (128 ≤ bits) || value >>> bits == 0)) = true ↔
      1 ≤ bits ∧ value < 2 ^ bits := by
    have hwide : 128 ≤ bits → value < 2 ^ bits := fun hbits =>
      Nat.lt_of_lt_of_le hvalue (Nat.pow_le_pow_right (by decide) hbits)
    simp only [Bool.and_eq_true, bne_iff_ne, ne_eq, Bool.or_eq_true, decide_eq_true_eq,
      beq_iff_eq, Nat.shiftRight_eq_div_pow, Nat.div_eq_zero_iff_lt (Nat.two_pow_pos bits),
      Nat.one_le_iff_ne_zero]
    exact and_congr_right fun _ => ⟨fun h => h.elim hwide id, Or.inr⟩
  have hread {bits : Nat} (hbits : Signed true 10 size bits) (hlt : bits < 2 ^ 32) :
      Numeral.ofUnsigned? 10 UInt32.size size = some bits :=
    (ofUnsigned?_eq_some_iff (by decide)).mpr ⟨hbits, hlt⟩
  rw [fitsSize, Bool.or_eq_true, List.isEmpty_iff, Sized]
  refine or_congr_right ?_
  cases hsize : Numeral.ofUnsigned? 10 UInt32.size size with
  | none =>
    refine ⟨fun hfalse => (Bool.false_ne_true hfalse).elim, ?_⟩
    rintro ⟨bits, hbits, -, hlt, -⟩
    rw [hread hbits hlt] at hsize
    cases hsize
  | some bits =>
    obtain ⟨hbits, hlt⟩ := (ofUnsigned?_eq_some_iff (by decide)).mp hsize
    rw [hfits]
    constructor
    · rintro ⟨hpos, hvalue⟩
      exact ⟨bits, hbits, hpos, hlt, hvalue⟩
    · rintro ⟨other, hother, hpos, hotherLt, hvalue⟩
      rw [hread hother hotherLt] at hsize
      cases hsize
      exact ⟨hpos, hvalue⟩

theorem ofSized?_eq_some_iff :
    ofSized? size cs = some value ↔ value < 2 ^ 128 ∧
      ∃ letter radix digits, cs = letter :: digits ∧ (letter.toLower, radix) ∈ quoteMarks ∧
        Signed true radix digits value ∧ Sized true size value := by
  cases cs with
  | nil => simp [ofSized?]
  | cons letter digits =>
    simp only [ofSized?, Option.bind_eq_bind, Option.bind_eq_some_iff, sizedRadix?_eq_some_iff,
      Option.ite_none_right_eq_some, Option.some.injEq]
    constructor
    · rintro ⟨radix, hmark, read, hread, hfits, rfl⟩
      obtain ⟨hdigits, hlt⟩ := (ofUnsigned?_eq_some_iff (radix_le_of_mem_quoteMarks hmark)).mp hread
      exact ⟨hlt, letter, radix, digits, rfl, hmark, hdigits, (fitsSize_iff hlt).mp hfits⟩
    · rintro ⟨hlt, _, radix, _, heq, hmark, hdigits, hsize⟩
      cases heq
      exact ⟨radix, hmark, value, (ofUnsigned?_eq_some_iff (radix_le_of_mem_quoteMarks hmark)).mpr
        ⟨hdigits, hlt⟩, (fitsSize_iff hlt).mpr hsize, rfl⟩

/-! ### The other forms -/

/-- Behind a zero a letter may mark the radix; all other texts are decimal. -/
theorem splitRadix_map_toLower (cs : List Char) :
    (∃ letter radix digits, cs = '0' :: letter :: digits ∧ (letter.toLower, radix) ∈ zeroMarks ∧
        splitRadix (cs.map Char.toLower) = (radix, digits.map Char.toLower)) ∨
      splitRadix (cs.map Char.toLower) = (10, cs.map Char.toLower) := by
  have hsplit {mark : Char} {lowered : List Char}
      (hcs : cs.map Char.toLower = '0' :: mark :: lowered) :
      ∃ letter digits, cs = '0' :: letter :: digits ∧ letter.toLower = mark ∧
        digits.map Char.toLower = lowered := by
    obtain ⟨zero, tail, rfl, hzero, htail⟩ := List.map_eq_cons_iff.mp hcs
    obtain ⟨letter, digits, rfl, hletter, hdigits⟩ := List.map_eq_cons_iff.mp htail
    obtain rfl := (Text.toLower_eq_iff (by decide)).mp hzero
    exact ⟨letter, digits, rfl, hletter, hdigits⟩
  unfold splitRadix
  split
  case h_5 => exact Or.inr rfl
  all_goals
    next hcs =>
      obtain ⟨letter, digits, rfl, hletter, rfl⟩ := hsplit hcs
      exact Or.inl ⟨letter, _, digits, rfl, by rw [hletter]; decide, rfl⟩

theorem splitRadix_of_mark (hmark : (letter.toLower, radix) ∈ zeroMarks) :
    splitRadix (('0' :: letter :: digits).map Char.toLower) = (radix, digits.map Char.toLower) := by
  simp only [zeroMarks, List.mem_cons, Prod.mk.injEq, List.not_mem_nil, or_false] at hmark
  have hzero : '0'.toLower = '0' := by decide
  rw [List.map_cons, List.map_cons, hzero]
  rcases hmark with ⟨hletter, rfl⟩ | ⟨hletter, rfl⟩ | ⟨hletter, rfl⟩ | ⟨hletter, rfl⟩
  all_goals
    rw [hletter]
    rfl

/-- A mark is a letter, so nothing that begins with a marked zero is decimal. -/
theorem not_denotes_decimal (hmark : (letter.toLower, radix) ∈ zeroMarks) :
    ¬ Numeral.Denotes 10 ('0' :: letter :: digits) value := by
  intro hdenotes
  have hmarks : ∀ mark ∈ zeroMarks, mark.1.isAlpha = true := by decide
  have halpha := hmarks _ hmark
  rw [Char.isAlpha_toLower_eq_isAlpha] at halpha
  obtain ⟨d, hdigit⟩ := hdenotes.exists_isDigit (List.mem_cons_of_mem _ List.mem_cons_self)
  rw [hdigit.isAlpha] at halpha
  cases halpha

theorem ofDigits?_splitRadix_eq_some_iff :
    Numeral.ofDigits? (splitRadix (cs.map Char.toLower)).1 (splitRadix (cs.map Char.toLower)).2 =
        some value ↔
      (∃ letter radix digits, cs = '0' :: letter :: digits ∧ (letter.toLower, radix) ∈ zeroMarks ∧
        Numeral.Denotes radix digits value) ∨ Numeral.Denotes 10 cs value := by
  rcases splitRadix_map_toLower cs with ⟨letter, radix, digits, rfl, hmark, hsplit⟩ | hsplit
  · rw [hsplit, Numeral.ofDigits?_map_toLower,
      Numeral.ofDigits?_eq_some_iff (radix_le_of_mem_zeroMarks hmark)]
    constructor
    · exact fun hdigits => Or.inl ⟨letter, radix, digits, rfl, hmark, hdigits⟩
    · rintro (⟨_, other, _, heq, hother, hdigits⟩ | hdecimal)
      · cases heq
        rw [splitRadix_of_mark hother] at hsplit
        cases hsplit
        exact hdigits
      · exact absurd hdecimal (not_denotes_decimal hmark)
  · have hradix : (10, cs.map Char.toLower).1 ≤ 16 := by simp
    rw [hsplit, Numeral.ofDigits?_map_toLower, Numeral.ofDigits?_eq_some_iff hradix]
    refine ⟨Or.inr, ?_⟩
    rintro (⟨letter, radix, digits, rfl, hmark, -⟩ | hdecimal)
    · have hmarks : ∀ mark ∈ zeroMarks, mark.2 ≠ 10 := by decide
      rw [splitRadix_of_mark hmark] at hsplit
      exact absurd (congrArg Prod.fst hsplit) (hmarks _ hmark)
    · exact hdecimal

/-! ### All forms -/

theorem Sized.quote_notMem (hsize : Sized plus size value) : '\'' ∉ size := by
  rcases hsize with rfl | ⟨bits, hbits | ⟨-, digits, rfl, hbits⟩, -⟩
  · exact List.not_mem_nil
  · exact notMem_of_denotes (by decide) (by decide) hbits
  · have hdigits : '\'' ∉ digits := notMem_of_denotes (by decide) (by decide) hbits
    simpa using hdigits

/-- Reading goes by the forms of literals, with a plus sign where the quoted form has it. -/
theorem ofCleaned?_eq_some_iff :
    ofCleaned? cs = some value ↔ Spells true cs value ∧ value < 2 ^ 128 := by
  unfold ofCleaned?
  constructor
  · cases hquote : Text.splitOnce '\'' cs with
    | some sides =>
      obtain ⟨size, rest⟩ := sides
      obtain ⟨rfl, -⟩ := Text.splitOnce_eq_some hquote
      intro hread
      obtain ⟨hlt, letter, radix, digits, rfl, hmark, hdigits, hsize⟩ :=
        ofSized?_eq_some_iff.mp hread
      exact ⟨.quoted hmark hdigits hsize, hlt⟩
    | none =>
      intro hread
      rw [Option.filter_eq_some_iff, decide_eq_true_eq, ofDigits?_splitRadix_eq_some_iff] at hread
      obtain ⟨⟨letter, radix, digits, rfl, hmark, hdigits⟩ | hdigits, hlt⟩ := hread
      · exact ⟨.marked hmark hdigits, hlt⟩
      · exact ⟨.decimal hdigits, hlt⟩
  · rintro ⟨hspells, hlt⟩
    have hplain (hnot : '\'' ∉ cs) (hdigits : Numeral.ofDigits?
        (splitRadix (cs.map Char.toLower)).1 (splitRadix (cs.map Char.toLower)).2 = some value) :
        ofCleaned? cs = some value := by
      rw [ofCleaned?, Text.splitOnce_of_notMem hnot]
      exact Option.filter_eq_some_iff.mpr ⟨hdigits, decide_eq_true hlt⟩
    cases hspells with
    | quoted hmark hdigits hsize =>
      rw [Text.splitOnce_append _ hsize.quote_notMem]
      exact ofSized?_eq_some_iff.mpr ⟨hlt, _, _, _, rfl, hmark, hdigits, hsize⟩
    | marked hmark hdigits =>
      have hletter : '\'' ≠ _ := ne_of_mark (by decide) hmark
      have hquote : '\'' ∉ _ :=
        notMem_of_denotes (by decide) (radix_le_of_mem_zeroMarks hmark) hdigits
      exact hplain (by simp [hquote, hletter])
        (ofDigits?_splitRadix_eq_some_iff.mpr (Or.inl ⟨_, _, _, rfl, hmark, hdigits⟩))
    | decimal hdigits =>
      exact hplain (notMem_of_denotes (by decide) (by decide) hdigits)
        (ofDigits?_splitRadix_eq_some_iff.mpr (Or.inr hdigits))

end Literal

/-- A text is read exactly if it is spelled by one of the forms, and a text that is not is reported
    as it was given. -/
theorem literalValue_cases (text : List Char) :
    (∀ value : Word, literalValue text = .ok value ↔
        Literal.Spells true (Literal.cleaned text) value.toNat) ∧
      ((∃ value, literalValue text = .ok value) ∨
        literalValue text = .error (.invalidLiteral (String.ofList text))) := by
  cases hcleaned : ofCleaned? (Literal.cleaned text) with
  | some read =>
    have hvalue : literalValue text = .ok (BitVec.ofNat 128 read) := by
      rw [literalValue, ← Literal.cleaned, hcleaned]
    obtain ⟨hspells, hlt⟩ := Literal.ofCleaned?_eq_some_iff.mp hcleaned
    refine ⟨fun value => ⟨fun hok => ?_, fun hother => ?_⟩, Or.inl ⟨_, hvalue⟩⟩
    · obtain rfl := Except.ok.inj (hvalue.symm.trans hok)
      rwa [BitVec.toNat_ofNat, Nat.mod_eq_of_lt hlt]
    · rw [Literal.ofCleaned?_eq_some_iff.mpr ⟨hother, value.isLt⟩] at hcleaned
      obtain rfl := Option.some.inj hcleaned
      rw [hvalue, BitVec.ofNat_toNat, BitVec.setWidth_eq]
  | none =>
    have herror : literalValue text = .error (.invalidLiteral (String.ofList text)) := by
      rw [literalValue, ← Literal.cleaned, hcleaned]
    refine ⟨fun value => ⟨fun hok => ?_, fun hspells => ?_⟩, Or.inr herror⟩
    · cases herror.symm.trans hok
    · rw [Literal.ofCleaned?_eq_some_iff.mpr ⟨hspells, value.isLt⟩] at hcleaned
      cases hcleaned

/-- Digits are a literal, with or without zeros in front. -/
theorem literalValue_of_denotes {digits : List Char} {n : Nat} (hn : n < 2 ^ 128)
    (hdigits : Numeral.Denotes 10 digits n) :
    literalValue digits = .ok (BitVec.ofNat 128 n) := by
  have hcleaned : Literal.cleaned digits = digits :=
    Literal.cleaned_of_forall fun c hc => Or.inl (hdigits.isAlphanum (by omega) hc)
  rw [(literalValue_cases digits).1, hcleaned, BitVec.toNat_ofNat, Nat.mod_eq_of_lt hn]
  exact .decimal hdigits

/-- A text is a literal exactly if one of the forms spells a value of 128 bits with it, where plus
    signs may stand in the quoted form. Without a plus sign these are the literals of the grammar,
    and with one there are none. A text that is no literal is reported as it was given. -/
theorem literalValue_spells (text : List Char) :
    (∀ value : Word, literalValue text = .ok value ↔
        Literal.Spells true (Literal.cleaned text) value.toNat) ∧
      (∀ value : Word, Literal.Spells false (Literal.cleaned text) value.toNat ↔
        literalValue text = .ok value ∧ '+' ∉ text) ∧
      ((∃ value, literalValue text = .ok value) ∨
        literalValue text = .error (.invalidLiteral (String.ofList text))) := by
  obtain ⟨hspells, hcases⟩ := literalValue_cases text
  have hplus : '+' ∈ Literal.cleaned text ↔ '+' ∈ text := by
    rw [Literal.cleaned, List.mem_filter, Text.mem_trim_iff (by decide)]
    exact and_iff_left (by decide)
  refine ⟨hspells, fun value => ?_, hcases⟩
  rw [Literal.spells_false_iff, hspells, hplus]

/-- A plus sign behind the quote is read along with the digits, though the grammar has none. -/
theorem literalValue_signed :
    literalValue "8'h+F".toList = .ok 15 ∧
      ∀ value, ¬ Literal.Spells false (Literal.cleaned "8'h+F".toList) value := by
  have hcleaned : Literal.cleaned "8'h+F".toList = ['8', '\'', 'h', '+', 'F'] := by decide
  refine ⟨by decide, fun value hspells => ?_⟩
  rw [hcleaned] at hspells
  exact (Literal.spells_false_iff.mp hspells).2 (by decide)

end RegisterFile.Document
