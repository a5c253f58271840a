import Mathlib.Data.Fintype.Card
import Mathlib.Data.List.GetD
import Mathlib.Data.List.Nodup
import Mathlib.Data.Set.Finite.List
import Mathlib.Logic.Relation
import Mathlib.Order.WellFounded
import RegisterFile.Graph

/-!
The elimination of positions. It cuts no arrow that is not there, so it comes to its end, and the
positions to which arrows are left then are those that a cycle leads to.
-/

namespace RegisterFile

/-- An element of a cycle, or one that a cycle leads to. -/
def BehindCycle {α : Type} (r : α → α → Prop) (a : α) : Prop :=
  ∃ start, Relation.TransGen r start start ∧ Relation.ReflTransGen r start a

namespace BehindCycle

variable {α β : Type} {r : α → α → Prop}

theorem of_cycle {a : α} (hcycle : Relation.TransGen r a a) : BehindCycle r a :=
  ⟨a, hcycle, .refl⟩

/-- What is behind a cycle has something in front of it that is behind the cycle too. -/
theorem exists_before {a : α} (hbehind : BehindCycle r a) : ∃ b, BehindCycle r b ∧ r b a := by
  obtain ⟨start, hcycle, hpath⟩ := hbehind
  obtain ⟨b, hb, hstep⟩ := Relation.TransGen.tail'_iff.mp (hcycle.trans_left hpath)
  exact ⟨b, ⟨start, hcycle, hb⟩, hstep⟩

theorem lift {p : β → β → Prop} (f : α → β) (hstep : ∀ a b, r a b → p (f a) (f b)) {a : α}
    (hbehind : BehindCycle r a) : BehindCycle p (f a) := by
  obtain ⟨start, hcycle, hpath⟩ := hbehind
  exact ⟨f start, hcycle.lift f hstep, hpath.lift f hstep⟩

/-- In a finite set in which each element has another one in front of it, every element is behind
    a cycle. -/
theorem of_forall_before {left : List α} (hbefore : ∀ a ∈ left, ∃ b ∈ left, r b a) :
    ∀ a ∈ left, BehindCycle r a := by
  intro a ha
  by_contra hnone
  -- What leads to the element without being behind a cycle is strictly ordered by the steps, and
  -- the least of these finitely many elements would have nothing in front of it.
  let Front := { b // b ∈ left ∧ Relation.ReflTransGen r b a }
  let before (b c : Front) : Prop := Relation.TransGen r b c
  have hfinite : Finite Front := (left.finite_toSet.subset fun b hb => hb.1).to_subtype
  have htrans : IsTrans Front before := ⟨fun _ _ _ => Relation.TransGen.trans⟩
  have hirrefl : Std.Irrefl before := ⟨fun b hcycle => hnone ⟨b, hcycle, b.property.2⟩⟩
  have hwf : WellFounded before := Finite.wellFounded_of_trans_of_irrefl before
  obtain ⟨least, _, hleast⟩ := hwf.has_min Set.univ ⟨⟨a, ha, .refl⟩, trivial⟩
  obtain ⟨b, hb, hstep⟩ := hbefore least least.property.1
  exact hleast ⟨b, hb, .head hstep least.property.2⟩ trivial (.single hstep)

end BehindCycle

namespace Graph

/-- An arrow from one position to another. -/
def Edge (graph : Graph) (i j : Nat) : Prop :=
  j ∈ graph.targets i

/-- All arrows of a graph lead to positions of its own. -/
def Closed (graph : Graph) : Prop :=
  ∀ i, ∀ j ∈ graph.targets i, j < graph.length

variable {graph : Graph}

theorem lt_of_edge {i j : Nat} (hedge : graph.Edge i j) : i < graph.length := by
  by_contra hlength
  rw [Edge, targets, List.getD_eq_default _ _ (Nat.le_of_not_lt hlength)] at hedge
  exact List.not_mem_nil hedge

theorem targets_perm {other : Graph} (hperm : List.Forall₂ List.Perm graph other) (i : Nat) :
    (graph.targets i).Perm (other.targets i) := by
  induction hperm generalizing i with
  | nil => exact .refl _
  | cons hfirst _ ih =>
    cases i with
    | zero => exact hfirst
    | succ i => exact ih i

namespace Elimination

/-- Where an elimination stands: `left` are the positions that have not been taken, `pending` the
    targets of the arrows that are still to be cut for the position taken last. -/
structure Stands (graph : Graph) (left pending : List Nat) (state : Elimination) : Prop where
  nodup : left.Nodup
  inside : ∀ i ∈ left, i < graph.length
  taken : state.taken + left.length = graph.length
  /-- The arrows to a position are those that are left and those that are still to be cut. -/
  inDegree : ∀ i < graph.length, state.inDegrees[i]? =
    some ((left.flatMap graph.targets).count i + pending.count i)
  /-- A position that was taken has no more arrows to it. -/
  settled : ∀ i < graph.length, i ∉ left → state.inDegrees[i]? = some 0
  queue_nodup : state.queue.Nodup
  mem_queue : ∀ i, i ∈ state.queue ↔ i ∈ left ∧ state.inDegrees[i]? = some 0
  /-- What is behind a cycle is never taken. -/
  kept : ∀ i, BehindCycle graph.Edge i → i ∈ left

variable {left pending : List Nat} {state : Elimination}

theorem count_flatten (graph : Graph) (i : Nat) :
    graph.flatten.count i = ((List.range graph.length).flatMap graph.targets).count i := by
  have hgraph : (List.range graph.length).map graph.targets = graph := by
    apply List.ext_getElem (by simp)
    intro n _ hn
    rw [List.getElem_map, List.getElem_range, targets, List.getD_eq_getElem _ _ hn]
  rw [List.flatMap_def, hgraph]

theorem stands_start (hclosed : graph.Closed) :
    Stands graph (List.range graph.length) [] (start graph) := by
  have hdegree : ∀ i < graph.length, (start graph).inDegrees[i]? =
      some (((List.range graph.length).flatMap graph.targets).count i) := by
    intro i hi
    simp [start, Graph.inDegrees, hi, count_flatten]
  refine ⟨List.nodup_range, by simp, by simp [start], by simpa using hdegree, by simp +contextual,
    List.nodup_range.filter _, fun i => ?_, ?_⟩
  · simp only [start, List.mem_filter, List.mem_range]
    refine and_congr_right fun hi => ?_
    rw [List.getD_eq_getElem?_getD, show graph.inDegrees[i]? = _ from hdegree i hi]
    simp
  · intro i hbehind
    obtain ⟨k, -, hedge⟩ := hbehind.exists_before
    exact List.mem_range.mpr (hclosed k i hedge)

/-- A cut finds an arrow. -/
theorem Stands.cut {j : Nat} (h : Stands graph left (j :: pending) state) (hj : j < graph.length) :
    ∃ next, state.cut j = some next ∧ Stands graph left pending next := by
  have hdegree := h.inDegree j hj
  rw [List.count_cons_self, ← Nat.add_assoc] at hdegree
  generalize harrows : (left.flatMap graph.targets).count j + pending.count j = arrows at hdegree
  have hlength : j < state.inDegrees.length := (List.getElem?_eq_some_iff.mp hdegree).1
  have hleft : j ∈ left := by
    by_contra hnot
    have hzero := hdegree.symm.trans (h.settled j hj hnot)
    simp at hzero
  have hqueue : j ∉ state.queue := by
    intro hmem
    have hzero := hdegree.symm.trans ((h.mem_queue j).mp hmem).2
    simp at hzero
  have hself : (state.inDegrees.set j arrows)[j]? = some arrows :=
    List.getElem?_set_self hlength
  have hother {i : Nat} (hi : i ≠ j) : (state.inDegrees.set j arrows)[i]? = state.inDegrees[i]? :=
    List.getElem?_set_ne hi.symm
  simp only [Elimination.cut, hdegree, Option.some.injEq, exists_eq_left']
  refine ⟨h.nodup, h.inside, h.taken, ?_, ?_, ?_, ?_, h.kept⟩
  · intro i hi
    by_cases hij : i = j
    · subst hij
      rw [hself, harrows]
    · rw [hother hij, h.inDegree i hi, List.count_cons_of_ne (Ne.symm hij)]
  · intro i hi hnot
    have hij : i ≠ j := fun hij => hnot (hij ▸ hleft)
    rw [hother hij, h.settled i hi hnot]
  · dsimp only
    split
    · exact List.nodup_append.mpr ⟨h.queue_nodup, List.nodup_singleton j, by
        rintro a ha b hb rfl
        exact hqueue (List.mem_singleton.mp hb ▸ ha)⟩
    · exact h.queue_nodup
  · intro i
    by_cases hij : i = j
    · subst hij
      rw [hself]
      split <;> simp_all
    · rw [hother hij, ← h.mem_queue i]
      split <;> simp [hij]

theorem Stands.cuts (h : Stands graph left pending state) (hin : ∀ j ∈ pending, j < graph.length) :
    ∃ next, pending.foldlM Elimination.cut state = some next ∧ Stands graph left [] next := by
  induction pending generalizing state with
  | nil => exact ⟨state, rfl, h⟩
  | cons j pending ih =>
    obtain ⟨next, hcut, hnext⟩ := h.cut (hin j List.mem_cons_self)
    obtain ⟨last, hcuts, hlast⟩ := ih hnext fun k hk => hin k (List.mem_cons_of_mem _ hk)
    exact ⟨last, by rw [List.foldlM_cons, hcut]; exact hcuts, hlast⟩

/-- The first position in the queue is taken. -/
theorem Stands.take {i : Nat} {rest : List Nat} (hclosed : graph.Closed)
    (h : Stands graph left [] state) (hqueue : state.queue = i :: rest) :
    ∃ next, state.take graph i rest = some next ∧ Stands graph (left.erase i) [] next := by
  have hmem := h.mem_queue i
  rw [hqueue] at hmem
  obtain ⟨hi, hzero⟩ := hmem.mp List.mem_cons_self
  have hnodup := h.queue_nodup
  rw [hqueue, List.nodup_cons] at hnodup
  have hperm := List.perm_cons_erase hi
  have hcount (j : Nat) : (left.flatMap graph.targets).count j =
      ((left.erase i).flatMap graph.targets).count j + (graph.targets i).count j := by
    rw [(hperm.flatMap_right _).count_eq, List.flatMap_cons, List.count_append, Nat.add_comm]
  have hsame {j : Nat} : j ∈ left.erase i ↔ j ≠ i ∧ j ∈ left := h.nodup.mem_erase_iff
  have hopen : Stands graph (left.erase i) (graph.targets i)
      { state with queue := rest, taken := state.taken + 1 } := by
    refine ⟨h.nodup.erase i, fun j hj => h.inside j (hsame.mp hj).2, ?_, ?_, ?_, hnodup.2, ?_, ?_⟩
    · have htaken := h.taken
      have hlength := List.length_erase_add_one hi
      dsimp only
      omega
    · intro j hj
      rw [h.inDegree j hj, hcount]
      simp
    · intro j hj hnot
      by_cases hji : j = i
      · exact hji ▸ hzero
      · exact h.settled j hj fun hleft => hnot (hsame.mpr ⟨hji, hleft⟩)
    · intro j
      have hj := h.mem_queue j
      rw [hqueue, List.mem_cons] at hj
      rw [hsame]
      constructor
      · intro hrest
        have hboth := hj.mp (Or.inr hrest)
        exact ⟨⟨fun hji => hnodup.1 (hji ▸ hrest), hboth.1⟩, hboth.2⟩
      · rintro ⟨⟨hji, hleft⟩, hdegree⟩
        exact (hj.mpr ⟨hleft, hdegree⟩).resolve_left hji
    · intro j hbehind
      refine hsame.mpr ⟨?_, h.kept j hbehind⟩
      rintro rfl
      obtain ⟨k, hk, hedge⟩ := hbehind.exists_before
      have hdegree := (h.inDegree j (h.inside j hi)).symm.trans hzero
      simp only [List.count_nil, Nat.add_zero, Option.some.injEq, List.count_eq_zero,
        List.mem_flatMap, not_exists, not_and] at hdegree
      exact hdegree k (h.kept k hk) hedge
  exact hopen.cuts (hclosed i)

theorem Stands.run (hclosed : graph.Closed) {rounds : Nat} (hrounds : left.length ≤ rounds)
    (h : Stands graph left [] state) :
    ∃ remaining last, state.run graph rounds = some last ∧ last.queue = [] ∧
      Stands graph remaining [] last := by
  induction rounds generalizing left state with
  | zero =>
    obtain rfl := List.length_eq_zero_iff.mp (Nat.le_zero.mp hrounds)
    refine ⟨[], state, rfl, List.eq_nil_iff_forall_not_mem.mpr fun i hi => ?_, h⟩
    exact List.not_mem_nil ((h.mem_queue i).mp hi).1
  | succ rounds ih =>
    cases hqueue : state.queue with
    | nil => exact ⟨left, state, by simp [Elimination.run, hqueue], hqueue, h⟩
    | cons i rest =>
      obtain ⟨next, htake, hnext⟩ := h.take hclosed hqueue
      have hi : i ∈ left := ((h.mem_queue i).mp (hqueue ▸ List.mem_cons_self)).1
      have hshorter := List.length_erase_add_one hi
      obtain ⟨remaining, last, hrun, hend, hlast⟩ := ih (by omega) hnext
      exact ⟨remaining, last, by simp [Elimination.run, hqueue, htake, hrun], hend, hlast⟩

end Elimination

/-- The elimination comes to its end without cutting an arrow that is not there, and the positions
    to which arrows are left are those behind a cycle. -/
theorem eliminate_spec (hclosed : graph.Closed) :
    ∃ rest, graph.eliminate = some rest ∧ rest.queue = [] ∧
      (∀ i < graph.length, ∃ arrows, rest.inDegrees[i]? = some arrows ∧
        (0 < arrows ↔ BehindCycle graph.Edge i)) ∧
      (rest.taken < graph.length ↔ ∃ i, BehindCycle graph.Edge i) := by
  obtain ⟨left, rest, hrun, hqueue, hstands⟩ :=
    (Elimination.stands_start hclosed).run hclosed List.length_range.le
  have hpositive : ∀ i ∈ left, rest.inDegrees[i]? ≠ some 0 := by
    intro i hi hzero
    have hmem := (hstands.mem_queue i).mpr ⟨hi, hzero⟩
    rw [hqueue] at hmem
    exact List.not_mem_nil hmem
  have hneeded : ∀ i ∈ left, ∃ k ∈ left, graph.Edge k i := by
    intro i hi
    have hne := hpositive i hi
    rw [hstands.inDegree i (hstands.inside i hi), List.count_nil, Nat.add_zero, ne_eq,
      Option.some.injEq, List.count_eq_zero, not_not] at hne
    exact List.mem_flatMap.mp hne
  have hleft (i : Nat) : i ∈ left ↔ BehindCycle graph.Edge i :=
    ⟨BehindCycle.of_forall_before hneeded i, hstands.kept i⟩
  refine ⟨rest, hrun, hqueue, fun i hi => ⟨_, hstands.inDegree i hi, ?_⟩, ?_⟩
  · rw [← hleft, Nat.pos_iff_ne_zero]
    constructor
    · intro hne
      by_contra hnot
      exact hne (Option.some.inj ((hstands.inDegree i hi).symm.trans (hstands.settled i hi hnot)))
    · intro hi' hzero
      exact hpositive i hi' ((hstands.inDegree i hi).trans (congrArg some hzero))
  · have htaken := hstands.taken
    have hlength : rest.taken < graph.length ↔ 0 < left.length := by omega
    rw [hlength, List.length_pos_iff_exists_mem]
    exact exists_congr hleft

end Graph

end RegisterFile
