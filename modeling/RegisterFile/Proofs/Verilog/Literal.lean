import Mathlib
import RegisterFile.Proofs.Document.Literal
import RegisterFile.Proofs.Numbers.Reading
import RegisterFile.Verilog.Printer

/-!
Sized literals of a Verilog module, read back. A literal in hexadecimal says its size, and so it is
a literal of a document as well; it stands for its value there, unless that does not fit the size.
-/

namespace RegisterFile

namespace Numeral

variable {width n : Nat}

theorem ofUnsigned?_padded {bound : Nat} (hn : n < bound) (count : Nat) :
    ofUnsigned? 16 bound (padded count (HEX n)) = some n := by
  rw [ofUnsigned?, dropPlus_of_notMem (notMem_padded (by decide) count n),
    ofDigits?_padded (ofDigits?_HEX n), Option.filter_some, if_pos (decide_eq_true hn)]

theorem denotes_padded (count n : Nat) : Denotes 16 (padded count (HEX n)) n :=
  (ofDigits?_eq_some_iff (by omega)).mp (ofDigits?_padded (ofDigits?_HEX n) count)

/-- A number has no more digits than the bits that it fits in need. -/
theorem length_HEX_le (hn : n < 2 ^ width) : (HEX n).length ≤ hexDigitCount width := by
  have hcount : width ≤ 4 * hexDigitCount width := by
    rw [hexDigitCount]
    omega
  have hpos : 0 < hexDigitCount width := by
    rw [hexDigitCount]
    omega
  rw [HEX, List.length_map, Nat.length_toDigits_le_iff (by omega) hpos]
  calc n < 2 ^ width := hn
    _ ≤ 2 ^ (4 * hexDigitCount width) := Nat.pow_le_pow_right (by omega) hcount
    _ = 16 ^ hexDigitCount width := Nat.pow_mul 2 4 _

/-- Four bits go to a digit. -/
theorem length_padded_HEX (hpos : 1 ≤ width) (hn : n < 2 ^ width) :
    (padded (hexDigitCount width) (HEX n)).length = width ⌈/⌉ 4 := by
  have hle := length_HEX_le hn
  rw [padded, List.length_leftpad, Nat.max_eq_left hle, hexDigitCount, Nat.ceilDiv_eq_add_pred_div]
  omega

end Numeral

namespace Document.Literal

variable {width value : Nat}

/-- A size in decimal is that of the values below its power of two. -/
theorem sized_decimal_iff (hlt : width < 2 ^ 32) :
    Sized true (Numeral.decimal width) value ↔ 1 ≤ width ∧ value < 2 ^ width := by
  have hread : Numeral.ofUnsigned? 10 (2 ^ 32) (Numeral.decimal width) = some width :=
    Numeral.ofUnsigned?_decimal hlt
  constructor
  · rintro (hempty | ⟨bits, hbits, hpos, hbitsLt, hfits⟩)
    · exact absurd hempty (Numeral.decimal_ne_nil width)
    · rw [(ofUnsigned?_eq_some_iff (by omega)).mpr ⟨hbits, hbitsLt⟩] at hread
      obtain rfl := Option.some.inj hread
      exact ⟨hpos, hfits⟩
  · rintro ⟨hpos, hvalue⟩
    obtain ⟨hsigned, -⟩ := (ofUnsigned?_eq_some_iff (by omega)).mp hread
    exact Or.inr ⟨width, hsigned, hpos, hlt, hvalue⟩

/-- What is behind the quote is read by its letter, and kept if it fits the size in front. -/
theorem ofCleaned?_hex (hlt : width < 2 ^ 32) (hvalue : value < 2 ^ 128) (count : Nat) :
    ofCleaned? (Numeral.decimal width ++
        '\'' :: 'h' :: Numeral.padded count (Numeral.HEX value)) =
      if 1 ≤ width ∧ value < 2 ^ width then some value else none := by
  have hquote : '\'' ∉ Numeral.decimal width := Numeral.notMem_decimal (by decide)
  have hradix : sizedRadix? 'h' = some 16 := rfl
  have hdigits : Numeral.ofUnsigned? 16 Word.limit (Numeral.padded count (Numeral.HEX value)) =
      some value := Numeral.ofUnsigned?_padded hvalue count
  have hfits := (fitsSize_iff hvalue).trans (sized_decimal_iff hlt)
  rw [ofCleaned?, Text.splitOnce_append _ hquote]
  simp only [ofSized?, hradix, hdigits, hfits, Option.bind_eq_bind, Option.bind_some]

end Document.Literal

namespace Verilog

open Document

theorem toList_literalText_hex (width value : Nat) :
    (literalText .hex width value).toList = Numeral.decimal width ++
      '\'' :: 'h' :: Numeral.padded (Numeral.hexDigitCount width) (Numeral.HEX value) := by
  rw [literalText, String.toList_ofList]
  rfl

theorem cleaned_literalText (width value : Nat) :
    Literal.cleaned (literalText .hex width value).toList =
      (literalText .hex width value).toList := by
  refine Literal.cleaned_of_forall fun c hc => ?_
  rw [toList_literalText_hex, List.mem_append, List.mem_cons, List.mem_cons] at hc
  rcases hc with hsize | rfl | rfl | hdigits
  · exact Or.inl (by simp [Char.isAlphanum, Numeral.isDigit_of_mem_decimal hsize])
  · exact Or.inr rfl
  · exact Or.inl rfl
  · exact Or.inl ((Numeral.denotes_padded _ _).isAlphanum (by omega) hdigits)

/-- A sized hexadecimal literal is read back as its value, if the size can hold that, and refused
    as it stands if not. Behind its mark are as many digits as the size has groups of four bits. -/
theorem literalValue_literalText (width : UInt32) (value : Word) :
    literalValue (literalText .hex width.toNat value.toNat).toList =
        (if 1 ≤ width.toNat ∧ value.toNat < 2 ^ width.toNat then .ok value
        else .error (.invalidLiteral (literalText .hex width.toNat value.toNat))) ∧
      (1 ≤ width.toNat → value.toNat < 2 ^ width.toNat →
        ∃ digits, (literalText .hex width.toNat value.toNat).toList =
            Numeral.decimal width.toNat ++ '\'' :: 'h' :: digits ∧
          Numeral.Denotes 16 digits value.toNat ∧ digits.length = width.toNat ⌈/⌉ 4) := by
  refine ⟨?_, fun hpos hfits => ⟨_, toList_literalText_hex _ _, Numeral.denotes_padded _ _,
    Numeral.length_padded_HEX hpos hfits⟩⟩
  have hread := Literal.ofCleaned?_hex width.toNat_lt value.isLt
    (Numeral.hexDigitCount width.toNat)
  rw [← toList_literalText_hex, ← cleaned_literalText] at hread
  rw [literalValue, ← Literal.cleaned, hread]
  by_cases hfits : 1 ≤ width.toNat ∧ value.toNat < 2 ^ width.toNat
  · rw [if_pos hfits, if_pos hfits]
    dsimp only
    rw [BitVec.ofNat_toNat, BitVec.setWidth_eq]
  · rw [if_neg hfits, if_neg hfits]
    dsimp only
    rw [String.ofList_toList]

/-- A size of 13 bits asks for four digits, of which the first one has a single bit. -/
theorem literalValue_literalText_padded :
    (1 ≤ (13 : UInt32).toNat ∧ (0xABC : Word).toNat < 2 ^ (13 : UInt32).toNat) ∧
      literalText .hex 13 0xABC = "13'h0ABC" ∧
      literalValue "13'h0ABC".toList = .ok 0xABC ∧
      ∃ digits, "13'h0ABC".toList = ['1', '3', '\'', 'h'] ++ digits ∧
        Numeral.Denotes 16 digits 0xABC ∧ digits.length = 13 ⌈/⌉ 4 := by
  have hfits : 1 ≤ (13 : UInt32).toNat ∧ (0xABC : Word).toNat < 2 ^ (13 : UInt32).toNat := by
    decide
  have htext : literalText .hex 13 0xABC = "13'h0ABC" := by decide +kernel
  obtain ⟨hread, hdigits⟩ := literalValue_literalText 13 0xABC
  obtain ⟨digits, hform, hdenotes, hlength⟩ := hdigits hfits.1 hfits.2
  rw [if_pos hfits] at hread
  change literalValue (literalText .hex 13 0xABC).toList = .ok 0xABC at hread
  change (literalText .hex 13 0xABC).toList = ['1', '3'] ++ '\'' :: 'h' :: digits at hform
  rw [htext] at hread hform
  exact ⟨hfits, htext, hread, digits, hform, hdenotes, hlength⟩

end Verilog

end RegisterFile
