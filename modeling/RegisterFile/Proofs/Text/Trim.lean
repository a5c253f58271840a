import Mathlib.Data.List.DropRight
import RegisterFile.Text.Blank

/-!
Texts without blanks at their ends. Trimming leaves such a text, drops nothing but blanks, and
changes no text that is one already.
-/

namespace RegisterFile.Text

/-- A text neither starts nor ends with a blank. -/
structure IsTrimmed (cs : List Char) : Prop where
  first : ∀ c ∈ cs.head?, isBlank c = false
  last : ∀ c ∈ cs.getLast?, isBlank c = false

variable {cs front back : List Char} {c : Char}

theorem trim_eq_rdropWhile (cs : List Char) :
    trim cs = (cs.dropWhile isBlank).rdropWhile isBlank :=
  rfl

theorem isTrimmed_trim (cs : List Char) : IsTrimmed (trim cs) where
  first := by
    intro c hc
    obtain ⟨rest, htrim⟩ := List.head?_eq_some_iff.mp hc
    obtain ⟨dropped, hprefix⟩ := List.rdropWhile_prefix isBlank (cs.dropWhile isBlank)
    rw [← trim_eq_rdropWhile, htrim] at hprefix
    have hhead := List.head?_dropWhile_not isBlank cs
    rw [← hprefix] at hhead
    exact hhead
  last := by
    intro c hc
    obtain ⟨hne, rfl⟩ := List.mem_getLast?_eq_getLast hc
    exact Bool.eq_false_iff.mpr (List.rdropWhile_last_not isBlank _ hne)

theorem IsTrimmed.trim_eq (htrimmed : IsTrimmed cs) : trim cs = cs := by
  have hdrop : cs.dropWhile isBlank = cs := by
    cases cs with
    | nil => rfl
    | cons c rest => rw [List.dropWhile_cons_of_neg (by simp [htrimmed.first c rfl])]
  rw [trim_eq_rdropWhile, hdrop, List.rdropWhile_eq_self_iff]
  intro hne
  rw [htrimmed.last _ (List.getLast?_eq_some_getLast hne)]
  exact Bool.false_ne_true

theorem isTrimmed_of_forall (hcs : ∀ c ∈ cs, isBlank c = false) : IsTrimmed cs where
  first := fun c hc => hcs c (List.mem_of_head? hc)
  last := fun c hc => hcs c (List.mem_of_getLast? hc)

/-- Between an end of one text and an end of another there may be anything. -/
theorem IsTrimmed.append (hfront : IsTrimmed front) (hfrontNe : front ≠ [])
    (hback : IsTrimmed back) (hbackNe : back ≠ []) : IsTrimmed (front ++ back) where
  first := by
    rw [List.head?_append_of_ne_nil _ hfrontNe]
    exact hfront.first
  last := by
    rw [List.getLast?_append_of_ne_nil _ hbackNe]
    exact hback.last

/-- Trimming drops blanks only. -/
theorem mem_trim_iff (hc : isBlank c = false) : c ∈ trim cs ↔ c ∈ cs := by
  have hdrop {cs : List Char} : c ∈ cs.dropWhile isBlank ↔ c ∈ cs := by
    refine ⟨fun hmem => (List.dropWhile_suffix isBlank).subset hmem, fun hmem => ?_⟩
    rw [← List.takeWhile_append_dropWhile (p := isBlank) (l := cs)] at hmem
    refine (List.mem_append.mp hmem).resolve_left fun htake => ?_
    rw [List.mem_takeWhile_imp htake] at hc
    cases hc
  rw [trim, List.mem_reverse, hdrop, List.mem_reverse, hdrop]

/-- What is trimmed off are blanks in front and blanks behind. -/
theorem exists_append_trim (cs : List Char) :
    ∃ front back, (∀ c ∈ front, isBlank c = true) ∧ (∀ c ∈ back, isBlank c = true) ∧
      cs = front ++ (trim cs ++ back) := by
  let rest := cs.dropWhile isBlank
  have hfront : cs.takeWhile isBlank ++ rest = cs := List.takeWhile_append_dropWhile
  have hback : trim cs ++ (rest.reverse.takeWhile isBlank).reverse = rest := by
    rw [trim, ← List.reverse_append, List.takeWhile_append_dropWhile, List.reverse_reverse]
  refine ⟨cs.takeWhile isBlank, (rest.reverse.takeWhile isBlank).reverse, fun c hc =>
    List.mem_takeWhile_imp hc, fun c hc => List.mem_takeWhile_imp (List.mem_reverse.mp hc), ?_⟩
  rw [hback, hfront]

end RegisterFile.Text
