import RegisterFile.Proofs.Graph.Elimination
import RegisterFile.Proofs.Validate.Structure

/-!
Dependency cycles. A graph that lists what registers depend on has a cycle where registers depend
on themselves, so the elimination leaves the registers that such a cycle leads to.
-/

namespace RegisterFile.Validate

/-! ### Positions and names -/

theorem mem_zip_range_iff {registers : List Register} {entry : Nat × Register} :
    entry ∈ (List.range registers.length).zip registers ↔
      registers[entry.1]? = some entry.2 := by
  simp only [List.mem_iff_getElem?, List.getElem?_zip_eq_some]
  constructor
  · rintro ⟨n, hindex, hregister⟩
    obtain ⟨_, hn⟩ := List.getElem?_eq_some_iff.mp hindex
    rw [List.getElem_range] at hn
    exact hn ▸ hregister
  · intro hregister
    obtain ⟨hlt, _⟩ := List.getElem?_eq_some_iff.mp hregister
    exact ⟨entry.1, by simp [hlt], hregister⟩

theorem lastPosition?_mem {registers : List Register} {name : String} {i : Nat}
    (hfound : lastPosition? registers name = some i) :
    ∃ register, registers[i]? = some register ∧ register.name = name := by
  -- The position found so far is part of the induction.
  suffices hfold : ∀ (entries : List (Nat × Register)) (found : Option Nat),
      entries.foldl (fun found entry =>
        if entry.2.name == name then some entry.1 else found) found = some i →
      found = some i ∨ ∃ entry ∈ entries, entry.1 = i ∧ entry.2.name = name by
    obtain hnone | ⟨entry, hentry, rfl, hname⟩ := hfold _ none hfound
    · cases hnone
    · exact ⟨entry.2, mem_zip_range_iff.mp hentry, hname⟩
  intro entries
  induction entries with
  | nil => exact fun found h => Or.inl h
  | cons entry rest ih =>
    intro found hfold
    obtain hhead | ⟨other, hother, hrest⟩ := ih _ hfold
    · by_cases hname : entry.2.name = name
      · simp only [hname, beq_self_eq_true, if_true, Option.some.injEq] at hhead
        exact Or.inr ⟨entry, List.mem_cons_self, hhead, hname⟩
      · simp only [beq_iff_eq, hname, if_false] at hhead
        exact Or.inl hhead
    · exact Or.inr ⟨other, List.mem_cons_of_mem _ hother, hrest⟩

theorem lastPosition?_isSome {registers : List Register} {name : String}
    (hmem : ∃ register ∈ registers, register.name = name) :
    (lastPosition? registers name).isSome = true := by
  suffices hfold : ∀ (entries : List (Nat × Register)) (found : Option Nat),
      (found.isSome = true ∨ ∃ entry ∈ entries, entry.2.name = name) →
      (entries.foldl (fun found entry =>
        if entry.2.name == name then some entry.1 else found) found).isSome = true by
    obtain ⟨register, hregister, hname⟩ := hmem
    obtain ⟨i, hi⟩ := List.mem_iff_getElem?.mp hregister
    exact hfold _ none (Or.inr ⟨(i, register), mem_zip_range_iff.mpr hi, hname⟩)
  intro entries
  induction entries with
  | nil => simp
  | cons entry rest ih =>
    intro found hor
    apply ih
    by_cases hname : entry.2.name = name
    · simp [hname]
    · simp only [List.mem_cons, exists_eq_or_imp, hname, false_or] at hor
      simpa [hname] using hor

theorem mem_dependencies_iff {register : Register} {target : String} :
    target ∈ dependencies register ↔ register.Names target := by
  simp only [dependencies, List.mem_append, List.mem_map, Register.Names, Register.allLocks,
    Register.allMagic]

/-- Positions of equal names are equal where names are distinct. -/
theorem position_unique {registers : List Register} (hnames : (registers.map Register.name).Nodup)
    {i j : Nat} {a b : Register} (ha : registers[i]? = some a) (hb : registers[j]? = some b)
    (hname : a.name = b.name) : i = j := by
  obtain ⟨hi, rfl⟩ := List.getElem?_eq_some_iff.mp ha
  obtain ⟨hj, rfl⟩ := List.getElem?_eq_some_iff.mp hb
  have hinj := List.nodup_iff_injective_getElem.mp hnames
  have hfin := @hinj ⟨i, by simpa using hi⟩ ⟨j, by simpa using hj⟩ (by simpa using hname)
  simpa using hfin

/-- The name of the register at a position. -/
def nameAt (registers : List Register) (i : Nat) : String :=
  (registers[i]?.map Register.name).getD ""

/-- The position that a name stands for; names that stand for none are of no interest. -/
def positionOf (registers : List Register) (name : String) : Nat :=
  (lastPosition? registers name).getD 0

theorem nameAt_of_getElem? {registers : List Register} {i : Nat} {register : Register}
    (hregister : registers[i]? = some register) : nameAt registers i = register.name := by
  rw [nameAt, hregister]
  rfl

theorem positionOf_name {registers : List Register} (hnames : (registers.map Register.name).Nodup)
    {i : Nat} {register : Register} (hregister : registers[i]? = some register) :
    positionOf registers register.name = i := by
  obtain ⟨k, hk⟩ := Option.isSome_iff_exists.mp
    (lastPosition?_isSome ⟨register, List.mem_of_getElem? hregister, rfl⟩)
  obtain ⟨other, hother, hname⟩ := lastPosition?_mem hk
  rw [positionOf, hk, Option.getD_some]
  exact position_unique hnames hother hregister hname

/-! ### Graphs that list dependencies -/

/-- A graph lists what registers depend on: each existing register that one names, once and in any
    order. -/
structure ListsDependencies (graph : Graph) (registers : List Register) : Prop where
  length : graph.length = registers.length
  nodup : ∀ i, (graph.targets i).Nodup
  mem_targets : ∀ i register, registers[i]? = some register → ∀ j,
    j ∈ graph.targets i ↔ ∃ other, registers[j]? = some other ∧ register.Names other.name

theorem nodup_eraseDups (positions : List Nat) : positions.eraseDups.Nodup := by
  cases positions with
  | nil => simp
  | cons i rest =>
    rw [List.eraseDups_cons, List.nodup_cons]
    exact ⟨by simp [List.mem_eraseDups], nodup_eraseDups (rest.filter fun j => !j == i)⟩
termination_by positions.length
decreasing_by
  exact Nat.lt_succ_of_le (List.length_filter_le _ _)

theorem lists_dependencyGraph {registers : List Register}
    (hnames : (registers.map Register.name).Nodup) :
    ListsDependencies (dependencyGraph registers) registers := by
  have htargets (i : Nat) : (dependencyGraph registers).targets i =
      (registers[i]?.map fun register =>
        ((dependencies register).filterMap (lastPosition? registers)).eraseDups).getD [] := by
    rw [Graph.targets, dependencyGraph, List.getD_eq_getElem?_getD, List.getElem?_map]
  refine ⟨by simp [dependencyGraph], fun i => ?_, fun i register hregister j => ?_⟩
  · rw [htargets]
    cases registers[i]? with
    | none => exact List.nodup_nil
    | some register => exact nodup_eraseDups _
  · rw [htargets, hregister, Option.map_some, Option.getD_some, List.mem_eraseDups]
    simp only [List.mem_filterMap, mem_dependencies_iff]
    constructor
    · rintro ⟨target, hnamed, hlast⟩
      obtain ⟨other, hother, rfl⟩ := lastPosition?_mem hlast
      exact ⟨other, hother, hnamed⟩
    · rintro ⟨other, hother, hnamed⟩
      obtain ⟨k, hk⟩ := Option.isSome_iff_exists.mp
        (lastPosition?_isSome ⟨other, List.mem_of_getElem? hother, rfl⟩)
      obtain ⟨last, hlast, hname⟩ := lastPosition?_mem hk
      obtain rfl := position_unique hnames hlast hother hname
      exact ⟨other.name, hnamed, hk⟩

namespace ListsDependencies

variable {config : Config} {graph : Graph}

theorem closed {registers : List Register} (hlists : ListsDependencies graph registers) :
    graph.Closed := by
  intro i j hedge
  have hi : i < registers.length := hlists.length ▸ Graph.lt_of_edge hedge
  obtain ⟨other, hother, -⟩ :=
    (hlists.mem_targets i _ (List.getElem?_eq_getElem hi) j).mp hedge
  exact hlists.length ▸ (List.getElem?_eq_some_iff.mp hother).1

/-- The order in which the dependencies of each register are listed does not count. -/
theorem of_perm {registers : List Register} {other : Graph}
    (hlists : ListsDependencies graph registers) (hperm : List.Forall₂ List.Perm graph other) :
    ListsDependencies other registers := by
  have htargets := Graph.targets_perm hperm
  exact ⟨hperm.length_eq ▸ hlists.length, fun i => (htargets i).nodup_iff.mp (hlists.nodup i),
    fun i register hregister j => (htargets i).mem_iff.symm.trans
      (hlists.mem_targets i register hregister j)⟩

theorem dependsOn_of_edge (hlists : ListsDependencies graph config.registers) {i j : Nat}
    (hedge : graph.Edge i j) :
    config.DependsOn (nameAt config.registers i) (nameAt config.registers j) := by
  have hi : i < config.registers.length := hlists.length ▸ Graph.lt_of_edge hedge
  have hregister := List.getElem?_eq_getElem hi
  obtain ⟨other, hother, hnamed⟩ := (hlists.mem_targets i _ hregister j).mp hedge
  rw [nameAt_of_getElem? hregister, nameAt_of_getElem? hother]
  exact ⟨_, List.mem_of_getElem? hregister, rfl, hnamed, other, List.mem_of_getElem? hother, rfl⟩

theorem edge_of_dependsOn (hlists : ListsDependencies graph config.registers)
    (hnames : (config.registers.map Register.name).Nodup) {name target : String}
    (hdepends : config.DependsOn name target) :
    graph.Edge (positionOf config.registers name) (positionOf config.registers target) := by
  obtain ⟨register, hmem, rfl, hnamed, other, hmem', rfl⟩ := hdepends
  obtain ⟨i, hregister⟩ := List.mem_iff_getElem?.mp hmem
  obtain ⟨j, hother⟩ := List.mem_iff_getElem?.mp hmem'
  rw [positionOf_name hnames hregister, positionOf_name hnames hother]
  exact (hlists.mem_targets i register hregister j).mpr ⟨other, hother, hnamed⟩

/-- A position is behind a cycle of the graph exactly if its register is behind a cycle of
    dependencies. -/
theorem behindCycle_iff (hlists : ListsDependencies graph config.registers)
    (hnames : (config.registers.map Register.name).Nodup) {i : Nat} {register : Register}
    (hregister : config.registers[i]? = some register) :
    BehindCycle graph.Edge i ↔ BehindCycle config.DependsOn register.name := by
  constructor
  · intro hbehind
    rw [← nameAt_of_getElem? hregister]
    exact hbehind.lift (nameAt config.registers) fun _ _ => hlists.dependsOn_of_edge
  · intro hbehind
    rw [← positionOf_name hnames hregister]
    exact hbehind.lift (positionOf config.registers) fun _ _ => hlists.edge_of_dependsOn hnames

/-- A cycle of dependencies leads through registers. -/
theorem exists_register {name : String} (hbehind : BehindCycle config.DependsOn name) :
    ∃ register ∈ config.registers, register.name = name := by
  obtain ⟨_, -, _, -, -, -, hexists⟩ := hbehind.exists_before
  exact hexists

theorem exists_behindCycle_iff (hlists : ListsDependencies graph config.registers)
    (hnames : (config.registers.map Register.name).Nodup) :
    (∃ i, BehindCycle graph.Edge i) ↔ ∃ name, BehindCycle config.DependsOn name :=
  ⟨fun ⟨_, hbehind⟩ => ⟨_, hbehind.lift (nameAt config.registers) fun _ _ =>
      hlists.dependsOn_of_edge⟩,
    fun ⟨_, hbehind⟩ => ⟨_, hbehind.lift (positionOf config.registers) fun _ _ =>
      hlists.edge_of_dependsOn hnames⟩⟩

open Classical in
/-- The registers left by the elimination are those behind a cycle, in the order of declaration. -/
theorem cyclic_eq (hlists : ListsDependencies graph config.registers)
    (hnames : (config.registers.map Register.name).Nodup) :
    cyclic graph config.registers =
      config.registers.filter fun register => BehindCycle config.DependsOn register.name := by
  obtain ⟨rest, heliminate, -, hdegrees, htaken⟩ := Graph.eliminate_spec hlists.closed
  simp only [cyclic, heliminate]
  rw [hlists.length] at hdegrees htaken
  split
  · have hzip : ∀ entry ∈ config.registers.zip rest.inDegrees,
        decide (0 < entry.2) = decide (BehindCycle config.DependsOn entry.1.name) := by
      intro entry hentry
      obtain ⟨i, hi⟩ := List.mem_iff_getElem?.mp hentry
      obtain ⟨hregister, harrows⟩ := List.getElem?_zip_eq_some.mp hi
      obtain ⟨arrows, hsome, hpositive⟩ :=
        hdegrees i (List.getElem?_eq_some_iff.mp hregister).1
      obtain rfl := Option.some.inj (hsome.symm.trans harrows)
      rw [decide_eq_decide, hpositive, hlists.behindCycle_iff hnames hregister]
    have hlength : config.registers.length ≤ rest.inDegrees.length := by
      by_contra hshort
      obtain ⟨arrows, hsome, -⟩ := hdegrees rest.inDegrees.length (by omega)
      simp at hsome
    rw [List.filter_congr hzip]
    nth_rewrite 2 [← List.map_fst_zip hlength]
    rw [List.filter_map]
    rfl
  · next hall =>
    have hnone : ¬ ∃ name, BehindCycle config.DependsOn name := fun hsome =>
      hall (htaken.mpr ((hlists.exists_behindCycle_iff hnames).mpr hsome))
    exact (List.filter_eq_nil_iff.mpr fun register _ hbehind =>
      hnone ⟨register.name, of_decide_eq_true hbehind⟩).symm

end ListsDependencies

/-- Something is left by the elimination exactly if a register depends on itself. -/
theorem cyclic_eq_nil_iff {config : Config} {graph : Graph}
    (hlists : ListsDependencies graph config.registers)
    (hnames : (config.registers.map Register.name).Nodup) :
    cyclic graph config.registers = [] ↔
      ∀ name, ¬ Relation.TransGen config.DependsOn name name := by
  classical
  rw [hlists.cyclic_eq hnames, List.filter_eq_nil_iff]
  constructor
  · intro hnone name hcycle
    obtain ⟨register, hregister, rfl⟩ :=
      ListsDependencies.exists_register (BehindCycle.of_cycle hcycle)
    exact hnone register hregister (decide_eq_true (BehindCycle.of_cycle hcycle))
  · intro hacyclic register _ hbehind
    obtain ⟨start, hcycle, -⟩ := of_decide_eq_true hbehind
    exact hacyclic start hcycle

theorem isValid_cycles_iff {config : Config}
    (hnames : (config.registers.map Register.name).Nodup) :
    (cycles config).isValid = true ↔
      ∀ name, ¬ Relation.TransGen config.DependsOn name name := by
  rw [← cyclic_eq_nil_iff (lists_dependencyGraph hnames) hnames]
  unfold cycles cyclesAlong
  cases cyclic (dependencyGraph config.registers) config.registers <;> simp

end RegisterFile.Validate
