import RegisterFile.Proofs.Config.Texts

/-!
Lock references, read and written again. Whatever a lock was read from, its own text stands for it,
with one exception: bit 0 is written without an index, so a register with a point in its name is
then read as one of a field.
-/

namespace RegisterFile.Lock

variable {text : String} {lock : Lock}

/-- A text with a bracket is a register and an index. -/
theorem readable_of_index {cs register rest : List Char}
    (hsplit : Text.splitOnce '[' cs = some (register, rest)) {index : UInt32}
    (hne : Text.trim register ≠ []) :
    Readable ⟨String.ofList (Text.trim register), .bit index⟩ := by
  obtain ⟨-, hbracket⟩ := Text.splitOnce_eq_some hsplit
  refine .bit ?_ ?_ ?_
  · rwa [String.toList_ofList]
  · rw [String.toList_ofList]
    exact Text.isTrimmed_trim register
  · rwa [String.toList_ofList, Text.mem_trim_iff (by decide)]

/-- A text with a point and no bracket is a register and a field. -/
theorem readable_of_point {cs register field : List Char} (hbracket : '[' ∉ cs)
    (htrimmed : Text.IsTrimmed cs) (hsplit : Text.splitOnce '.' cs = some (register, field))
    (hregister : register ≠ []) (hfield : field ≠ []) :
    Readable ⟨String.ofList register, .field (String.ofList field)⟩ := by
  obtain ⟨rfl, hpoint⟩ := Text.splitOnce_eq_some hsplit
  apply Readable.field <;> simpa only [String.toList_ofList]

/-- A lock that was read is one that a text can hold. -/
theorem readable_of_ofText? (hread : ofText? text = some lock) : lock.Readable := by
  have htrimmed := Text.isTrimmed_trim text.toList
  unfold ofText? at hread
  dsimp only at hread
  generalize Text.trim text.toList = cs at hread htrimmed
  cases hindex : Text.splitOnce '[' cs with
  | some sides =>
    simp only [hindex, Option.bind_eq_bind, Option.bind_eq_some_iff, Option.ite_none_left_eq_some,
      List.isEmpty_iff, Option.some.injEq] at hread
    obtain ⟨-, -, index, -, hne, rfl⟩ := hread
    exact readable_of_index hindex hne
  | none =>
    have hbracket := Text.notMem_of_splitOnce hindex
    cases hpoint : Text.splitOnce '.' cs with
    | some sides =>
      simp only [hindex, hpoint, Option.ite_none_left_eq_some, Bool.or_eq_true, List.isEmpty_iff,
        not_or, Option.some.injEq] at hread
      obtain ⟨⟨hregister, hfield⟩, rfl⟩ := hread
      exact readable_of_point hbracket htrimmed hpoint hregister hfield
    | none =>
      simp only [hindex, hpoint, Option.ite_none_left_eq_some, List.isEmpty_iff,
        Option.some.injEq] at hread
      obtain ⟨hne, rfl⟩ := hread
      apply Readable.bit <;> rwa [String.toList_ofList]

/-- A name with a point is read as that of a field, or not at all. -/
theorem field_of_ofText? {register : String} {other : Lock} (hbracket : '[' ∉ register.toList)
    (hpoint : '.' ∈ register.toList) (hread : ofText? register = some other) :
    ∃ name, other.selector = .field name := by
  rw [← Text.mem_trim_iff (by decide)] at hbracket hpoint
  unfold ofText? at hread
  dsimp only at hread
  generalize Text.trim register.toList = cs at hread hbracket hpoint
  cases hsplit : Text.splitOnce '.' cs with
  | none => exact absurd hpoint (Text.notMem_of_splitOnce hsplit)
  | some sides =>
    simp only [Text.splitOnce_of_notMem hbracket, hsplit, Option.ite_none_left_eq_some,
      Option.some.injEq] at hread
    obtain ⟨-, rfl⟩ := hread
    exact ⟨_, rfl⟩

/-- What a text that is only a name with a point is read as. -/
theorem Readable.field_of_pointed {other : Lock} (hlock : lock.Readable) (hpointed : lock.Pointed)
    (hread : ofText? lock.text = some other) : ∃ name, other.selector = .field name := by
  obtain ⟨hzero, hpoint⟩ := hpointed
  cases hlock with
  | field => cases hzero
  | @bit register index hne htrimmed hbracket =>
    cases hzero
    exact field_of_ofText? hbracket hpoint hread

/-- A lock that was read stands in its own text, unless it locks by bit 0 of a register with a
    point in its name: such a text is read as a field's, or not at all. -/
theorem ofText?_text_iff (text : String) (lock : Lock) (hread : ofText? text = some lock) :
    (ofText? lock.text = some lock ↔ ¬ lock.Pointed) ∧
      (lock.Pointed → ∀ other, ofText? lock.text = some other →
        ∃ name, other.selector = .field name) := by
  have hlock := readable_of_ofText? hread
  refine ⟨⟨fun hagain hpointed => ?_, hlock.ofText?_text⟩, fun hpointed other =>
    hlock.field_of_pointed hpointed⟩
  obtain ⟨name, hfield⟩ := hlock.field_of_pointed hpointed hagain
  rw [hpointed.1] at hfield
  cases hfield

/-- An index other than 0 is written, and keeps the name of the register whole. -/
theorem ofText?_text_indexed :
    ofText? "A.B [3]" = some ⟨"A.B", .bit 3⟩ ∧ (⟨"A.B", .bit 3⟩ : Lock).text = "A.B[3]" ∧
      ofText? "A.B[3]" = some ⟨"A.B", .bit 3⟩ := by
  have hread : ofText? "A.B [3]" = some ⟨"A.B", .bit 3⟩ := by decide +kernel
  have htext : (⟨"A.B", .bit 3⟩ : Lock).text = "A.B[3]" := by decide +kernel
  refine ⟨hread, htext, ?_⟩
  rw [← htext]
  exact (ofText?_text_iff _ _ hread).1.mpr fun hpointed => by cases hpointed.1

/-- The lock by bit 0 of `A.B` is written as the lock by field `B` of `A`. -/
theorem ofText?_text_pointed :
    ofText? "A.B[0]" = some ⟨"A.B", .bit 0⟩ ∧ (⟨"A.B", .bit 0⟩ : Lock).text = "A.B" ∧
      ofText? "A.B" = some ⟨"A", .field "B"⟩ := by
  decide +kernel

end RegisterFile.Lock
