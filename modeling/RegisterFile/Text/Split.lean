/-!
Cutting a text at a character. `splitOnce` gives the two sides of the first occurrence;
`unbracket` removes one pair of enclosing characters when both are there.
-/

namespace RegisterFile.Text

/-- The parts before and after the first `sep`, if there is one. -/
def splitOnce (sep : Char) : List Char → Option (List Char × List Char)
  | [] => none
  | c :: rest =>
    if c = sep then some ([], rest)
    else (splitOnce sep rest).map fun (before, after) => (c :: before, after)

/-- A text without its last character, which must be `last`. -/
def dropLast? (last : Char) (cs : List Char) : Option (List Char) :=
  if cs.getLast? = some last then some cs.dropLast else none

/-- The inside of a text that starts with `opening` and ends with `closing`; any other text is
    left as it is. -/
def unbracket (opening closing : Char) (cs : List Char) : List Char :=
  match cs with
  | [] => []
  | c :: rest => if c = opening then (dropLast? closing rest).getD cs else cs

theorem splitOnce_eq_some {sep : Char} {cs before after : List Char}
    (h : splitOnce sep cs = some (before, after)) :
    cs = before ++ sep :: after ∧ sep ∉ before := by
  induction cs generalizing before with
  | nil => simp [splitOnce] at h
  | cons c rest ih =>
    by_cases hc : c = sep
    · simp only [splitOnce, hc, if_true, Option.some.injEq, Prod.mk.injEq] at h
      obtain ⟨rfl, rfl⟩ := h
      simp [hc]
    · simp only [splitOnce, hc, if_false, Option.map_eq_some_iff] at h
      obtain ⟨⟨front, back⟩, hsplit, hpair⟩ := h
      simp only [Prod.mk.injEq] at hpair
      obtain ⟨rfl, rfl⟩ := hpair
      obtain ⟨hcs, hnot⟩ := ih hsplit
      exact ⟨by simp [hcs], by simp [hnot, Ne.symm hc]⟩

theorem splitOnce_append {sep : Char} {before : List Char} (after : List Char)
    (hnot : sep ∉ before) : splitOnce sep (before ++ sep :: after) = some (before, after) := by
  induction before with
  | nil => simp [splitOnce]
  | cons c rest ih =>
    simp only [List.mem_cons, not_or] at hnot
    simp [splitOnce, Ne.symm hnot.1, ih hnot.2]

end RegisterFile.Text
