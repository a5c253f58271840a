import RegisterFile.Document.Resolve
import RegisterFile.Proofs.Config.Texts
import RegisterFile.Proofs.Document.Evaluation
import RegisterFile.Proofs.Document.Literal

/-!
Bit ranges as texts, in a register file and in a document. A document may have expressions where a
register file has numbers, so the two are read in different ways; on numbers they agree. The only
texts that a document takes differently are those with a plus sign, which is an operator there.
-/

namespace RegisterFile

namespace Document

variable {digits : List Char} {n : Nat} {expression : String} {parameters : Parameters}

theorem Token.ofWord_of_denotes (hn : n < 2 ^ 128) (hdigits : Numeral.Denotes 10 digits n) :
    ofWord digits = .ok (.number (BitVec.ofNat 128 n)) := by
  cases digits with
  | nil => exact absurd rfl hdigits.ne_nil
  | cons c rest =>
    obtain ⟨d, hdigit⟩ := hdigits.exists_isDigit List.mem_cons_self
    have halphanum := hdigit.isAlphanum (by omega)
    rw [Char.isAlphanum, hdigit.isAlpha, Bool.false_or] at halphanum
    rw [ofWord, halphanum, Bool.true_or, if_pos rfl, literalValue_of_denotes hn hdigits]
    rfl

/-- A run of digits between blanks is a number. -/
theorem Token.scan_of_denotes (hn : n < 2 ^ 128)
    (hdigits : Numeral.Denotes 10 (Text.trim expression.toList) n) :
    scan expression = .ok [.number (BitVec.ofNat 128 n)] := by
  have hword : ∀ c ∈ Text.trim expression.toList, isWordChar c = true := by
    intro c hc
    rw [isWordChar, hdigits.isAlphanum (by omega) hc, Bool.true_or, Bool.true_or]
  have hne : ¬ (Text.trim expression.toList).isEmpty = true := by
    rw [List.isEmpty_iff]
    exact hdigits.ne_nil
  rw [scan_trim, scanFrom_word hword, List.append_nil, withWord, List.isEmpty_reverse,
    List.reverse_reverse, ofWord_of_denotes hn hdigits, if_neg hne]
  rfl

/-- A plus sign in front is not read. -/
theorem expressionValue_ne_ok_of_plus {rest : List Char}
    (htrim : Text.trim expression.toList = '+' :: rest) (value : Word) :
    expressionValue expression parameters ≠ .ok value := by
  intro hvalue
  obtain ⟨tree, hscan, -⟩ := expressionValue_eq_ok_iff.mp hvalue
  have hplus : Token.scanFrom expression [] ('+' :: rest) =
      (Token.scanFrom expression [] rest >>= fun tokens => .ok (.plus :: tokens)) := rfl
  rw [Token.scan_trim, htrim, hplus] at hscan
  obtain ⟨tokens, -, htokens⟩ := bind_eq_ok_iff.mp hscan
  obtain ⟨token, more, hfirst, hstart⟩ := tree.exists_startsAtom
  rw [← Except.ok.inj htokens] at hfirst
  cases hfirst
  exact hstart

/-- A bit number of a range is an expression for itself, unless it has a sign. -/
theorem expressionValue_bit_iff {cs : List Char} {bit : UInt32}
    (hbit : BitRange.bitOfText? cs = some bit) {value : Word} :
    expressionValue (String.ofList cs) parameters = .ok value ↔
      '+' ∉ cs ∧ value = BitVec.ofNat 128 bit.toNat := by
  obtain ⟨n, hread, rfl⟩ := Option.map_eq_some_iff.mp hbit
  obtain ⟨hsigned, hlt⟩ := (Literal.ofUnsigned?_eq_some_iff (by omega)).mp hread
  have hsmall : n < 2 ^ 32 := hlt
  rw [← Text.mem_trim_iff (c := '+') (by decide), UInt32.toNat_ofNat_of_lt' hlt]
  -- A bit number is digits alone, or digits behind the sign that starts no expression.
  rcases hsigned with hdigits | ⟨-, digits, hplus, -⟩
  · have hnot : '+' ∉ Text.trim cs := Literal.notMem_of_denotes (by decide) (by omega) hdigits
    rw [← String.toList_ofList (l := cs)] at hdigits
    have hvalue : (BitVec.ofNat 128 n).toNat = n := by
      rw [BitVec.toNat_ofNat, Nat.mod_eq_of_lt (by omega)]
    rw [expressionValue_of_number (Token.scan_of_denotes (by omega) hdigits) (by omega)]
    constructor
    · intro hok
      exact ⟨hnot, (Except.ok.inj hok).symm⟩
    · rintro ⟨-, rfl⟩
      rfl
  · have htrim : Text.trim (String.ofList cs).toList = '+' :: digits := by
      rw [String.toList_ofList, hplus]
    constructor
    · intro hok
      exact absurd hok (expressionValue_ne_ok_of_plus htrim value)
    · rintro ⟨hnot, -⟩
      rw [hplus] at hnot
      exact absurd List.mem_cons_self hnot

/-- An entry stands for the range between its bounds. -/
theorem BitsEntry.resolve_of_bounds {entry : BitsEntry} {high low : UInt32} {range : BitRange}
    (hbounds : entry.bounds parameters =
      .ok (BitVec.ofNat 128 high.toNat, BitVec.ofNat 128 low.toNat))
    (hrange : BitRange.ofBounds high low = .ok range) : entry.resolve parameters = .ok range := by
  have hword (bit : UInt32) : (BitVec.ofNat 128 bit.toNat).toNat = bit.toNat := by
    have hlt := bit.toNat_lt
    rw [BitVec.toNat_ofNat, Nat.mod_eq_of_lt (by omega)]
  have hlimit (bit : UInt32) : decide (bit.toNat < bitLimit) = true :=
    decide_eq_true bit.toNat_lt_size
  refine bind_eq_ok_iff.mpr ⟨_, hbounds, ?_⟩
  simp only [hword, hlimit, Bool.and_self, if_true, UInt32.ofNat_toNat, hrange]

end Document

namespace BitRange

open Document

variable {text : String} {range : BitRange} {parameters : Parameters}

/-- The text between the brackets of a range, if it has any. -/
def inside (text : String) : List Char :=
  Text.unbracket '[' ']' (Text.trim text.toList)

theorem plus_mem_inside_iff : '+' ∈ inside text ↔ '+' ∈ text.toList := by
  rw [inside, Text.mem_unbracket_iff (by decide) (by decide), Text.mem_trim_iff (by decide)]

/-- A text that was read has the bit numbers of its range, two of them or one. -/
theorem bits_of_ofText (hread : ofText text = .ok range) :
    (∃ highChars lowChars high low,
      Text.splitOnce ':' (inside text) = some (highChars, lowChars) ∧
        bitOfText? highChars = some high ∧ bitOfText? lowChars = some low ∧
        ofBounds high low = .ok range) ∨
      Text.splitOnce ':' (inside text) = none ∧
        ∃ n, bitOfText? (inside text) = some n ∧ range = bit n := by
  unfold ofText at hread
  dsimp only at hread
  rw [← inside] at hread
  cases hsplit : Text.splitOnce ':' (inside text) with
  | some sides =>
    cases hhigh : bitOfText? sides.1 with
    | none =>
      simp only [hsplit, hhigh] at hread
      cases hread
    | some high =>
      cases hlow : bitOfText? sides.2 with
      | none =>
        simp only [hsplit, hhigh, hlow] at hread
        cases hread
      | some low =>
        simp only [hsplit, hhigh, hlow] at hread
        exact Or.inl ⟨sides.1, sides.2, high, low, rfl, hhigh, hlow, hread⟩
  | none =>
    cases hbit : bitOfText? (inside text) with
    | none =>
      simp only [hsplit, hbit] at hread
      cases hread
    | some n =>
      simp only [hsplit, hbit] at hread
      exact Or.inr ⟨rfl, n, rfl, (Except.ok.inj hread).symm⟩

/-- A document finds the same bounds in a text that was read, unless there is a sign in it. -/
theorem exists_bounds_of_ofText (hread : ofText text = .ok range) :
    ∃ high low, ofBounds high low = .ok range ∧ ∀ parameters values,
      (BitsEntry.text text).bounds parameters = .ok values ↔ '+' ∉ text.toList ∧
        values = (BitVec.ofNat 128 high.toNat, BitVec.ofNat 128 low.toNat) := by
  rcases bits_of_ofText hread with ⟨highChars, lowChars, high, low, hsplit, hhigh, hlow, hrange⟩ |
    ⟨hsplit, n, hbit, rfl⟩
  · refine ⟨high, low, hrange, fun parameters values => ?_⟩
    obtain ⟨hinside, -⟩ := Text.splitOnce_eq_some hsplit
    have hplus : '+' ∈ text.toList ↔ '+' ∈ highChars ∨ '+' ∈ lowChars := by
      rw [← plus_mem_inside_iff, hinside]
      simp
    rw [BitsEntry.bounds, ← inside, hsplit, hplus, not_or]
    constructor
    · intro hok
      obtain ⟨highValue, hhighValue, hrest⟩ := bind_eq_ok_iff.mp hok
      obtain ⟨lowValue, hlowValue, hvalues⟩ := bind_eq_ok_iff.mp hrest
      obtain ⟨hhighPlus, rfl⟩ := (expressionValue_bit_iff hhigh).mp hhighValue
      obtain ⟨hlowPlus, rfl⟩ := (expressionValue_bit_iff hlow).mp hlowValue
      exact ⟨⟨hhighPlus, hlowPlus⟩, (Except.ok.inj hvalues).symm⟩
    · rintro ⟨⟨hhighPlus, hlowPlus⟩, rfl⟩
      exact bind_eq_ok_iff.mpr ⟨_, (expressionValue_bit_iff hhigh).mpr ⟨hhighPlus, rfl⟩,
        bind_eq_ok_iff.mpr ⟨_, (expressionValue_bit_iff hlow).mpr ⟨hlowPlus, rfl⟩, rfl⟩⟩
  · refine ⟨n, n, dif_pos (Nat.le_refl _), fun parameters values => ?_⟩
    rw [BitsEntry.bounds, ← inside, hsplit, ← plus_mem_inside_iff]
    constructor
    · intro hok
      obtain ⟨value, hvalue, hvalues⟩ := bind_eq_ok_iff.mp hok
      obtain ⟨hplus, rfl⟩ := (expressionValue_bit_iff hbit).mp hvalue
      exact ⟨hplus, (Except.ok.inj hvalues).symm⟩
    · rintro ⟨hplus, rfl⟩
      exact bind_eq_ok_iff.mpr ⟨_, (expressionValue_bit_iff hbit).mpr ⟨hplus, rfl⟩, rfl⟩

/-- A document takes the text of a range as that range, unless there is a sign in it. -/
theorem resolve_text_iff (hread : ofText text = .ok range) :
    (BitsEntry.text text).resolve parameters = .ok range ↔ '+' ∉ text.toList := by
  obtain ⟨high, low, hrange, hbounds⟩ := exists_bounds_of_ofText hread
  constructor
  · intro hresolve
    obtain ⟨values, hvalues, -⟩ := bind_eq_ok_iff.mp hresolve
    exact ((hbounds parameters values).mp hvalues).1
  · intro hplus
    exact BitsEntry.resolve_of_bounds ((hbounds parameters _).mpr ⟨hplus, rfl⟩) hrange

theorem toList_select (r : BitRange) : r.select.toList = '[' :: (r.text.toList ++ [']']) := by
  simp [select]

theorem ofText_select (r : BitRange) : ofText r.select = .ok r := by
  apply ofText_of_inner
  have hblank : ∀ c ∈ r.select.toList, Text.isBlank c = false := by
    intro c hc
    rw [toList_select, List.mem_cons, List.mem_append, List.mem_singleton] at hc
    rcases hc with rfl | hc | rfl
    · decide
    · exact isBlank_of_mem_text hc
    · decide
  rw [Text.trim_of_forall hblank, toList_select, Text.unbracket_append]

/-- The bounds of a range as numbers stand for it. -/
theorem resolve_pair (parameters : Parameters) (r : BitRange) :
    (BitsEntry.pair (.number (.ofNat r.high)) (.number (.ofNat r.low))).resolve parameters =
      .ok r := by
  have hhigh : r.high < 2 ^ 32 := r.high_lt
  have hlow : r.low < 2 ^ 32 := Nat.lt_of_le_of_lt r.low_le_high hhigh
  have hwide {n : Nat} (hn : n < 2 ^ 32) : (UInt64.ofNat n).toNat = (UInt32.ofNat n).toNat := by
    have hlt : n < UInt64.size := Nat.lt_trans hn (by decide)
    rw [UInt64.toNat_ofNat_of_lt' hlt, UInt32.toNat_ofNat_of_lt' hn]
  have hbounds : (BitsEntry.pair (.number (.ofNat r.high)) (.number (.ofNat r.low))).bounds
      parameters = .ok (BitVec.ofNat 128 (UInt32.ofNat r.high).toNat,
        BitVec.ofNat 128 (UInt32.ofNat r.low).toNat) := by
    rw [← hwide hhigh, ← hwide hlow]
    rfl
  exact BitsEntry.resolve_of_bounds hbounds
    (ofBounds_of_toNat (UInt32.toNat_ofNat_of_lt' hhigh) (UInt32.toNat_ofNat_of_lt' hlow))

/-- All the forms in which a range can be written are read as that range: its text with and without
    brackets, whether it stands in a register file or in a document, and its bounds as a pair. What
    a register file takes for a range, a document takes for the same one exactly if there is no plus
    sign in it. -/
theorem readings_agree (parameters : Parameters) :
    (∀ r : BitRange,
      ofText r.text = .ok r ∧ ofText r.select = .ok r ∧
        (BitsEntry.text r.text).resolve parameters = .ok r ∧
        (BitsEntry.text r.select).resolve parameters = .ok r ∧
        (BitsEntry.pair (.number (.ofNat r.high)) (.number (.ofNat r.low))).resolve parameters =
          .ok r) ∧
      ∀ text r, ofText text = .ok r →
        ((BitsEntry.text text).resolve parameters = .ok r ↔ '+' ∉ text.toList) := by
  refine ⟨fun r => ?_, fun text r hread => resolve_text_iff hread⟩
  have hplus : '+' ∉ r.text.toList := notMem_text r (by decide) (by decide)
  have hselectPlus : '+' ∉ r.select.toList := by
    rw [toList_select]
    simp [hplus]
  exact ⟨ofText_text r, ofText_select r, (resolve_text_iff (ofText_text r)).mpr hplus,
    (resolve_text_iff (ofText_select r)).mpr hselectPlus, resolve_pair parameters r⟩

/-- Blanks and leading zeros make no difference, but a sign does. -/
theorem readings_agree_spaced :
    ofText " [ 007 :3]" = .ok ⟨7, 3, by decide, by decide⟩ ∧
      (BitsEntry.text " [ 007 :3]").resolve [("W", 8)] = .ok ⟨7, 3, by decide, by decide⟩ ∧
      ofText "+5" = .ok (bit 5) ∧
      (BitsEntry.text "+5").resolve [("W", 8)] ≠ .ok (bit 5) := by
  have hspaced : ofText " [ 007 :3]" = .ok ⟨7, 3, by decide, by decide⟩ := by decide +kernel
  have hsigned : ofText "+5" = .ok (bit 5) := by decide +kernel
  obtain ⟨-, hagree⟩ := readings_agree [("W", 8)]
  exact ⟨hspaced, (hagree _ _ hspaced).mpr (by decide), hsigned,
    (hagree _ _ hsigned).not.mpr (by decide)⟩

end BitRange

end RegisterFile
