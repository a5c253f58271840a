import RegisterFile.Proofs.Validate.Cycles

/-!
The finding about dependency cycles. It is made exactly if a register depends on itself, in
whatever order the dependencies are gone through. The registers that it lists are those behind a
cycle, which may be more than those on one.
-/

namespace RegisterFile

/-- Everything behind a cycle is on one exactly if no step leads from the cycles to elsewhere. -/
theorem BehindCycle.forall_cycle_iff {α : Type} {r : α → α → Prop} :
    (∀ a, BehindCycle r a → Relation.TransGen r a a) ↔
      ∀ a b, Relation.TransGen r a a → r a b → Relation.TransGen r b b := by
  constructor
  · exact fun hall a b hcycle hstep => hall b ⟨a, hcycle, .single hstep⟩
  · rintro hstays a ⟨start, hcycle, hpath⟩
    induction hpath with
    | refl => exact hcycle
    | tail _ hstep ih => exact hstays _ _ ih hstep

namespace Validate

variable {config : Config}

/-- The names in the finding about a cycle. -/
theorem mem_cyclic_iff {graph : Graph} (hlists : ListsDependencies graph config.registers)
    (hnames : (config.registers.map Register.name).Nodup) (name : String) :
    name ∈ (cyclic graph config.registers).map Register.name ↔
      BehindCycle config.DependsOn name := by
  classical
  rw [hlists.cyclic_eq hnames]
  simp only [List.mem_map, List.mem_filter, decide_eq_true_eq]
  constructor
  · rintro ⟨register, ⟨-, hbehind⟩, rfl⟩
    exact hbehind
  · intro hbehind
    obtain ⟨register, hregister, rfl⟩ := ListsDependencies.exists_register hbehind
    exact ⟨register, ⟨hregister, hbehind⟩, rfl⟩

theorem exists_mem_cyclesAlong_iff {graph : Graph} {registers : List Register} :
    (∃ finding ∈ cyclesAlong graph registers, finding.kind = .cyclicDependency) ↔
      cyclic graph registers ≠ [] := by
  unfold cyclesAlong
  cases cyclic graph registers with
  | nil => simp
  | cons first rest => simp [Diagnostic.error]

/-- Whatever the order in which the dependencies of each register are gone through, no arrow is cut
    that is not there, the elimination comes to its end, arrows are left exactly to the registers
    behind a cycle, and the finding is made exactly if there is a cycle and is the same. -/
theorem cyclesAlong_of_lists (hnames : (config.registers.map Register.name).Nodup) {graph : Graph}
    (hlists : ListsDependencies graph config.registers) :
    ((∃ finding ∈ cyclesAlong graph config.registers, finding.kind = .cyclicDependency) ↔
      ∃ name, Relation.TransGen config.DependsOn name name) ∧
    (∃ rest, graph.eliminate = some rest ∧ rest.queue = [] ∧
      ∀ (i : Nat) (register : Register), config.registers[i]? = some register →
        ∃ arrows, rest.inDegrees[i]? = some arrows ∧
          (0 < arrows ↔ BehindCycle config.DependsOn register.name)) ∧
    ListsDependencies (dependencyGraph config.registers) config.registers ∧
    cyclesAlong graph config.registers = cycles config := by
  have hrun := lists_dependencyGraph hnames
  refine ⟨?_, ?_, hrun, ?_⟩
  · rw [exists_mem_cyclesAlong_iff, ne_eq, cyclic_eq_nil_iff hlists hnames, not_forall]
    simp only [not_not]
  · obtain ⟨rest, heliminate, hend, hdegrees, -⟩ := Graph.eliminate_spec hlists.closed
    refine ⟨rest, heliminate, hend, fun i register hregister => ?_⟩
    have hi := hlists.length ▸ (List.getElem?_eq_some_iff.mp hregister).1
    obtain ⟨arrows, harrows, hpositive⟩ := hdegrees i hi
    exact ⟨arrows, harrows, hpositive.trans (hlists.behindCycle_iff hnames hregister)⟩
  · rw [cycles, cyclesAlong, cyclesAlong, hlists.cyclic_eq hnames, hrun.cyclic_eq hnames]

/-- A register that depends on itself, and on another one that depends on nothing. -/
def trailing : Config where
  moduleName := "regs"
  registers := [
    { name := "SRC", address := some 0 },
    { name := "LOOP", address := some 4, magic := some { source := "LOOP", value := 1 },
      fields := [{ name := "F", bits := .bit 0, magic := some { source := "SRC", value := 1 } }] }]

theorem nodup_trailing : (trailing.registers.map Register.name).Nodup := by
  decide

/-- The dependencies of the second register, the other way round than it names them. -/
theorem lists_trailing : ListsDependencies [[], [0, 1]] trailing.registers := by
  have hperm : List.Forall₂ List.Perm (dependencyGraph trailing.registers) [[], [0, 1]] := by
    decide
  exact (lists_dependencyGraph nodup_trailing).of_perm hperm

theorem cyclesAlong_of_lists_trailing :
    (trailing.registers.map Register.name).Nodup ∧
      ListsDependencies [[], [0, 1]] trailing.registers ∧
      cyclesAlong [[], [0, 1]] trailing.registers = cycles trailing :=
  ⟨nodup_trailing, lists_trailing, (cyclesAlong_of_lists nodup_trailing lists_trailing).2.2.2⟩

/-- The finding lists the registers behind a cycle, in the order of declaration, and is located at
    the first of them. One of them is on a cycle, and all are exactly if no register on a cycle
    depends on one that is on none. -/
theorem cycles_listed (hnames : (config.registers.map Register.name).Nodup) {finding : Diagnostic}
    (hfinding : finding ∈ cycles config) :
    ∃ first rest members, members = ", ".intercalate (first :: rest) ∧
      finding = .error .cyclicDependency (.register first)
        s!"lock/magic dependencies form a cycle through {members}" ∧
      (first :: rest).Sublist (config.registers.map Register.name) ∧
      (∀ name, name ∈ first :: rest ↔ BehindCycle config.DependsOn name) ∧
      (∃ name ∈ first :: rest, Relation.TransGen config.DependsOn name name) ∧
      ((∀ name ∈ first :: rest, Relation.TransGen config.DependsOn name name) ↔
        ∀ name target, Relation.TransGen config.DependsOn name name →
          config.DependsOn name target → Relation.TransGen config.DependsOn target target) := by
  classical
  have hlists := lists_dependencyGraph hnames
  have hmem := mem_cyclic_iff hlists hnames
  have hsublist : ((cyclic (dependencyGraph config.registers) config.registers).map
      Register.name).Sublist (config.registers.map Register.name) := by
    rw [hlists.cyclic_eq hnames]
    exact List.filter_sublist.map _
  unfold cycles cyclesAlong at hfinding
  cases hcyclic : cyclic (dependencyGraph config.registers) config.registers with
  | nil =>
    rw [hcyclic] at hfinding
    exact absurd hfinding List.not_mem_nil
  | cons first rest =>
    rw [hcyclic, List.mem_singleton] at hfinding
    rw [hcyclic, List.map_cons] at hmem hsublist
    refine ⟨first.name, rest.map Register.name, _, rfl, hfinding, hsublist, hmem, ?_, ?_⟩
    · obtain ⟨start, hcycle, -⟩ := (hmem first.name).mp List.mem_cons_self
      exact ⟨start, (hmem start).mpr (.of_cycle hcycle), hcycle⟩
    · simp only [hmem]
      exact BehindCycle.forall_cycle_iff

theorem cycles_trailing : cycles trailing = [.error .cyclicDependency (.register "SRC")
    "lock/magic dependencies form a cycle through SRC, LOOP"] := by
  decide +kernel

theorem cycles_listed_trailing :
    (trailing.registers.map Register.name).Nodup ∧
      ∃ finding ∈ cycles trailing, ∃ first rest,
        finding.location = .register first ∧
          ∃ name ∈ first :: rest, Relation.TransGen trailing.DependsOn name name := by
  have hfinding := cycles_trailing ▸ List.mem_singleton_self _
  obtain ⟨first, rest, _, -, hshape, -, -, hcycle, -⟩ := cycles_listed nodup_trailing hfinding
  exact ⟨nodup_trailing, _, hfinding, first, rest, by rw [hshape]; rfl, hcycle⟩

/-- The register at which the finding is located, and which it lists first, depends on nothing. -/
theorem cycles_listed_off_cycle :
    (trailing.registers.map Register.name).Nodup ∧
      cycles trailing = [.error .cyclicDependency (.register "SRC")
        "lock/magic dependencies form a cycle through SRC, LOOP"] ∧
      ¬ Relation.TransGen trailing.DependsOn "SRC" "SRC" := by
  refine ⟨nodup_trailing, cycles_trailing, fun hcycle => ?_⟩
  obtain ⟨target, ⟨register, hregister, hname, hnamed, -⟩, -⟩ :=
    Relation.TransGen.head'_iff.mp hcycle
  rw [← mem_dependencies_iff] at hnamed
  simp only [trailing, List.mem_cons, List.not_mem_nil, or_false] at hregister
  rcases hregister with rfl | rfl
  · simp [dependencies] at hnamed
  · simp at hname

end Validate

end RegisterFile
