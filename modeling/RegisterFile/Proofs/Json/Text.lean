import Mathlib.Data.List.TakeDrop
import RegisterFile.Json.Reader
import RegisterFile.Json.Writer
import RegisterFile.Proofs.Text.Numeral
import RegisterFile.Word

/-!
The parts of JSON text read back: the characters of strings, and natural numbers. What follows a
value in a text is a comma or a closing bracket, so that a number ends where its digits do.
-/

namespace RegisterFile.Json

/-! ### Strings -/

/-- The characters with one-letter escapes. -/
def shortEscapes : List Char :=
  ['"', '\\', '\x08', '\t', '\n', '\x0c', '\r']

/-- The piece that a written character is read as. -/
def pieceOf (c : Char) : Piece :=
  if c.toNat < 0x20 ∧ c ∉ shortEscapes then .unit c.toNat else .char c

theorem pieces?_plain {c : Char} (hquote : c ≠ '"') (hbackslash : c ≠ '\\')
    (hcontrol : ¬ c.toNat < 0x20) (rest : List Char) :
    pieces? (c :: rest) = (pieces? rest).map (Prod.map (.char c :: ·) id) := by
  have hskip : (decide (c.toNat < 0x20) || c == '\\') = false := by
    simp [hbackslash, hcontrol]
  rw [pieces?]
  · rw [hskip]
    cases pieces? rest <;> rfl
  · exact hquote
  · exact fun _ _ _ _ _ heq _ => hbackslash heq
  · exact fun _ _ heq _ => hbackslash heq

theorem pieces?_short {letter c : Char} (hletter : letter ≠ 'u')
    (hescaped : escaped? letter = some c) (rest : List Char) :
    pieces? ('\\' :: letter :: rest) = (pieces? rest).map (Prod.map (.char c :: ·) id) := by
  rw [pieces?]
  · rw [hescaped]
    cases pieces? rest <;> rfl
  · rintro a b d e more rfl
    exact absurd rfl hletter

theorem pieces?_unit {a b c d : Char} {n : Nat}
    (hdigits : Numeral.ofDigits? 16 [a, b, c, d] = some n) (rest : List Char) :
    pieces? ('\\' :: 'u' :: a :: b :: c :: d :: rest) =
      (pieces? rest).map (Prod.map (.unit n :: ·) id) := by
  rw [pieces?, hdigits]
  cases pieces? rest <;> rfl

theorem escape_of_notMem {c : Char} (hc : c ∉ shortEscapes) :
    escape c =
      if c.toNat < 0x20 then ['\\', 'u', '0', '0'] ++ Numeral.padded 2 (Numeral.hex c.toNat)
      else [c] := by
  simp only [shortEscapes, List.mem_cons, not_or, List.not_mem_nil, not_false_eq_true,
    and_true] at hc
  obtain ⟨h1, h2, h3, h4, h5, h6, h7⟩ := hc
  rw [escape, if_neg h1, if_neg h2, if_neg h3, if_neg h4, if_neg h5, if_neg h6, if_neg h7]

/-- A control character is written with four digits. -/
theorem digits_control :
    ∀ n < 0x20, (Numeral.padded 2 (Numeral.hex n)).length = 2 ∧
      Numeral.ofDigits? 16 (['0', '0'] ++ Numeral.padded 2 (Numeral.hex n)) = some n := by
  decide

/-- A written character is read as one piece. -/
theorem pieces?_escape (c : Char) (rest : List Char) :
    pieces? (escape c ++ rest) = (pieces? rest).map (Prod.map (pieceOf c :: ·) id) := by
  by_cases hshort : c ∈ shortEscapes
  · simp only [shortEscapes, List.mem_cons, List.not_mem_nil, or_false] at hshort
    rcases hshort with rfl | rfl | rfl | rfl | rfl | rfl | rfl <;>
      exact pieces?_short (by decide) rfl rest
  rw [escape_of_notMem hshort]
  by_cases hcontrol : c.toNat < 0x20
  · obtain ⟨hlength, hdigits⟩ := digits_control c.toNat hcontrol
    obtain ⟨a, b, hpair⟩ := List.length_eq_two.mp hlength
    have hpiece : pieceOf c = .unit c.toNat := by
      rw [pieceOf, if_pos ⟨hcontrol, hshort⟩]
    rw [hpair] at hdigits
    rw [if_pos hcontrol, hpair, hpiece]
    exact pieces?_unit hdigits rest
  · have hpiece : pieceOf c = .char c := by
      rw [pieceOf, if_neg fun h => hcontrol h.1]
    rw [if_neg hcontrol, hpiece]
    refine pieces?_plain ?_ ?_ hcontrol rest
    · rintro rfl
      exact hshort (by decide)
    · rintro rfl
      exact hshort (by decide)

theorem pieces?_flatMap_escape (cs rest : List Char) :
    pieces? (cs.flatMap escape ++ '"' :: rest) = some (cs.map pieceOf, rest) := by
  induction cs with
  | nil => rw [List.flatMap_nil, List.nil_append, pieces?, List.map_nil]
  | cons c cs ih =>
    rw [List.flatMap_cons, List.append_assoc, pieces?_escape, ih]
    rfl

theorem characters?_map_pieceOf (cs : List Char) : characters? (cs.map pieceOf) = some cs := by
  induction cs with
  | nil => rfl
  | cons c cs ih =>
    rw [List.map_cons, pieceOf]
    split
    · next hcontrol =>
      have htrailing : isTrailing c.toNat = false := by
        rw [isTrailing, Bool.and_eq_false_iff]
        exact .inl (by simpa using Nat.lt_trans hcontrol.1 (by decide))
      have hleading : isLeading c.toNat = false := by
        rw [isLeading, Bool.and_eq_false_iff]
        exact .inl (by simpa using Nat.lt_trans hcontrol.1 (by decide))
      unfold characters?
      simp only [htrailing, hleading, Bool.false_eq_true, if_false, ih, Char.ofNat_toNat,
        Option.map_some]
    · rw [characters?, ih]
      rfl

/-- A string is read as what was written. -/
theorem pieces?_quoted (s : String) (rest : List Char) :
    pieces? (s.toList.flatMap escape ++ '"' :: rest) = some (s.toList.map pieceOf, rest) ∧
      ofPieces (s.toList.map pieceOf) = .ofKind .text (some s) := by
  refine ⟨pieces?_flatMap_escape s.toList rest, ?_⟩
  rw [ofPieces, characters?_map_pieceOf]
  simp only [String.ofList_toList]

/-! ### Numbers -/

/-- What may follow a value: nothing, a comma or a closing bracket. -/
def Ends (rest : List Char) : Prop :=
  ∀ c ∈ rest.head?, c = ',' ∨ c = ']' ∨ c = '\x7d'

theorem Ends.ne {c : Char} {rest : List Char} (hrest : Ends (c :: rest)) (other : Char)
    (hother : other ∉ [',', ']', '\x7d']) : c ≠ other := by
  rintro rfl
  exact hother (by simpa using hrest c rfl)

theorem span_decimal (n : Nat) {rest : List Char} (hrest : Ends rest) :
    (Numeral.decimal n ++ rest).span Char.isDigit = (Numeral.decimal n, rest) := by
  have hdigits : ∀ c ∈ Numeral.decimal n, c.isDigit = true := fun _ =>
    Numeral.isDigit_of_mem_decimal
  have htake : rest.takeWhile Char.isDigit = [] := by
    cases rest with
    | nil => rfl
    | cons c rest =>
      rcases hrest c rfl with rfl | rfl | rfl <;> rfl
  have hdrop : rest.dropWhile Char.isDigit = rest := by
    cases rest with
    | nil => rfl
    | cons c rest =>
      rcases hrest c rfl with rfl | rfl | rfl <;> rfl
  rw [List.span_eq_takeWhile_dropWhile, List.takeWhile_append_of_pos hdigits,
    List.dropWhile_append_of_pos hdigits, htake, hdrop, List.append_nil]

theorem isWhole_decimal (n : Nat) : isWhole (Numeral.decimal n) = true := by
  rcases Nat.eq_zero_or_pos n with rfl | hpos
  · rfl
  · have hhead := Numeral.head_decimal_ne_zero hpos
    have hne := Numeral.decimal_ne_nil n
    unfold isWhole
    split
    · next heq => exact absurd heq hne
    · next heq =>
      rw [heq] at hhead
      exact absurd rfl hhead
    · rfl

theorem splitFraction?_of_ends {rest : List Char} (hrest : Ends rest) :
    splitFraction? rest = some ([], rest) := by
  unfold splitFraction?
  split
  · exact absurd rfl (hrest.ne '.' (by decide))
  · rfl

theorem splitExponent?_of_ends {rest : List Char} (hrest : Ends rest) :
    Decimal.splitExponent? rest = some (0, rest) := by
  cases rest with
  | nil => rfl
  | cons c rest =>
    have hsmall := hrest.ne 'e' (by decide)
    have hcapital := hrest.ne 'E' (by decide)
    unfold Decimal.splitExponent?
    exact if_pos (by simp [hsmall, hcapital])

theorem ofParts_decimal (n : Nat) : Decimal.ofParts (Numeral.decimal n) [] 0 = ⟨n, 0⟩ := by
  rw [Decimal.ofParts, List.append_nil, Numeral.ofDigits?_decimal]
  rfl

/-- Numbers of 128 bits are doubles. -/
theorem isDouble_of_lt_limit {n : Nat} (hn : n < Word.limit) :
    (Decimal.mk n 0).isDouble = true := by
  have hlength : (Numeral.decimal n).length ≤ 39 :=
    (Nat.length_toDigits_le_iff (by decide) (by decide)).mpr (Nat.lt_of_lt_of_le hn (by decide))
  have hlead : ((Numeral.decimal n).length : Int) < 309 := by omega
  simp only [Decimal.isDouble, Int.zero_add]
  rw [if_pos (by simp [hlead])]

/-- A natural number is read up to where its digits end. -/
theorem number?_decimal {n : Nat} (hn : (Decimal.mk n 0).isDouble = true) {rest : List Char}
    (hrest : Ends rest) :
    number? (Numeral.decimal n ++ rest) = some (.natural n, rest) := by
  have hspan := span_decimal n hrest
  have hminus : '-' ∉ Numeral.decimal n := Numeral.notMem_decimal (by decide)
  obtain ⟨c, digits, hdigits⟩ := List.exists_cons_of_ne_nil (Numeral.decimal_ne_nil n)
  unfold number?
  split
  next negative cs heq =>
    split at heq
    · next hsign =>
      rw [hdigits] at hminus hsign
      obtain ⟨rfl, -⟩ := List.cons.inj hsign
      exact absurd List.mem_cons_self hminus
    · obtain ⟨rfl, rfl⟩ := Prod.mk.inj heq
      simp only [hspan, isWhole_decimal, splitFraction?_of_ends hrest]
      simp [splitExponent?_of_ends hrest, ofParts_decimal, hn, Numeral.ofDigits?_decimal]

end RegisterFile.Json
