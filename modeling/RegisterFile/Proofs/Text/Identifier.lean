import Mathlib
import RegisterFile.Layout
import RegisterFile.Proofs.Text.Numeral
import RegisterFile.Proofs.WellFormed
import RegisterFile.Text.LowerCase

/-!
The characters of identifiers, and their lower case. Identifiers are in ASCII, where the case
mappings of Unicode agree with those of single letters.
-/

namespace RegisterFile

namespace Text

theorem bounds_of_isAlphanum {c : Char} (hc : c.isAlphanum = true) :
    48 ≤ c.toNat ∧ c.toNat ≤ 122 := by
  simp only [Char.isAlphanum, Char.isAlpha, Char.isUpper, Char.isLower, Char.isDigit,
    Bool.or_eq_true, Bool.and_eq_true, decide_eq_true_eq, UInt32.le_iff_toNat_le, ge_iff_le] at hc
  have htoNat : c.toNat = c.val.toNat := rfl
  simp at hc
  omega

theorem isBlank_of_isAlphanum {c : Char} (hc : c.isAlphanum = true) : isBlank c = false := by
  obtain ⟨hlow, hhigh⟩ := bounds_of_isAlphanum hc
  exact isBlank_of_ascii (by omega) (by omega)

/-- A character without cases comes from itself alone. -/
theorem toLower_eq_iff {c other : Char} (hother : other.isAlpha = false) :
    c.toLower = other ↔ c = other := by
  have hsame : ∀ {d : Char}, d.isAlpha = false → d.toLower = d := by
    intro d hd
    rw [Char.isAlpha, Bool.or_eq_false_iff] at hd
    exact Char.toLower_eq_of_not_isUpper (by simp [hd.1])
  constructor
  · intro heq
    rwa [hsame (by rwa [← Char.isAlpha_toLower_eq_isAlpha, heq])] at heq
  · rintro rfl
    exact hsame hother

theorem toUpper_eq_iff {c other : Char} (hother : other.isAlpha = false) :
    c.toUpper = other ↔ c = other := by
  have hsame : ∀ {d : Char}, d.isAlpha = false → d.toUpper = d := by
    intro d hd
    rw [Char.isAlpha, Bool.or_eq_false_iff] at hd
    exact Char.toUpper_eq_of_not_isLower (by simp [hd.2])
  constructor
  · intro heq
    rwa [hsame (by rwa [← Char.isAlpha_toUpper_eq_isAlpha, heq])] at heq
  · rintro rfl
    exact hsame hother

end Text

namespace IsIdentifier

variable {name : String} {c : Char}

theorem form (hname : IsIdentifier name) (hc : c ∈ name.toList) :
    c.isAlphanum = true ∨ c = '_' := by
  obtain ⟨first, rest, heq, hfirst, hrest⟩ := hname
  rw [heq] at hc
  rcases List.mem_cons.mp hc with rfl | hmem
  · exact hfirst.imp_left fun halpha => by simp [Char.isAlphanum, halpha]
  · exact hrest c hmem

theorem notMem (hname : IsIdentifier name) (hc : c.isAlphanum = false) (hunderscore : c ≠ '_') :
    c ∉ name.toList := by
  intro hmem
  rcases hname.form hmem with halphanum | heq
  · rw [halphanum] at hc
    cases hc
  · exact hunderscore heq

theorem notMem_toUpper (hname : IsIdentifier name) (hc : c.isAlphanum = false)
    (hunderscore : c ≠ '_') : c ∉ name.toUpper.toList := by
  rw [String.toUpper, String.toList_map, List.mem_map]
  rintro ⟨d, hd, heq⟩
  rw [Text.toUpper_eq_iff (Bool.or_eq_false_iff.mp hc).1] at heq
  exact hname.notMem hc hunderscore (heq ▸ hd)

theorem notMem_ident (hname : IsIdentifier name) (hc : c.isAlphanum = false)
    (hunderscore : c ≠ '_') : c ∉ (ident name).toList := by
  rw [ident, String.toLower, String.toList_map, List.mem_map]
  rintro ⟨d, hd, heq⟩
  rw [Text.toLower_eq_iff (Bool.or_eq_false_iff.mp hc).1] at heq
  exact hname.notMem hc hunderscore (heq ▸ hd)

theorem ne_hash (hname : IsIdentifier name) : '#' ∉ name.toList :=
  hname.notMem (by decide) (by decide)

theorem toList_ne_nil (hname : IsIdentifier name) : name.toList ≠ [] := by
  obtain ⟨first, rest, heq, -, -⟩ := hname
  rw [heq]
  exact List.cons_ne_nil first rest

theorem ascii (hname : IsIdentifier name) : ∀ c ∈ name.toList, c.toNat < 128 := by
  intro c hc
  rcases hname.form hc with halphanum | rfl
  · have hbounds := Text.bounds_of_isAlphanum halphanum
    omega
  · decide

theorem isBlank (hname : IsIdentifier name) : ∀ c ∈ name.toList, Text.isBlank c = false := by
  intro c hc
  rcases hname.form hc with halphanum | rfl
  · exact Text.isBlank_of_isAlphanum halphanum
  · decide

end IsIdentifier

namespace Text

theorem lowerCaseOf_of_ascii {c : Char} (hc : c.toNat < 128) : lowerCaseOf c = c.toLower := by
  have hcodes : ∀ n < 128, lowerCaseOf (Char.ofNat n) = (Char.ofNat n).toLower := by
    decide +kernel
  have h := hcodes c.toNat hc
  rwa [Char.ofNat_toNat] at h

theorem lowerCaseFrom_of_ascii {chars : List Char} (hchars : ∀ c ∈ chars, c.toNat < 128)
    (afterCased : Bool) : lowerCaseFrom afterCased chars = chars.map Char.toLower := by
  induction chars generalizing afterCased with
  | nil => rfl
  | cons c rest ih =>
    have hc := hchars c List.mem_cons_self
    have hdotted : c ≠ 'İ' := by
      rintro rfl
      exact absurd hc (by decide)
    have hsigma : c ≠ 'Σ' := by
      rintro rfl
      exact absurd hc (by decide)
    rw [lowerCaseFrom, if_neg hdotted, if_neg hsigma, lowerCaseOf_of_ascii hc,
      ih fun d hd => hchars d (List.mem_cons_of_mem _ hd)]
    rfl

theorem lowerCase_eq_ident {name : String} (hname : IsIdentifier name) :
    lowerCase name = ident name := by
  rw [lowerCase, lowerCaseFrom_of_ascii hname.ascii, ident, String.toLower]
  exact String.toList_inj.mp (by rw [String.toList_ofList, String.toList_map])

end Text

end RegisterFile
