import RegisterFile.Document.Reader
import RegisterFile.Document.Resolve
import RegisterFile.Proofs.Document.Evaluation

/-!
The parameters of a document. Each is evaluated under the parameters in front of it, in the order
of their names, and under the built-in names. What it gets is what its expression has in the end,
unless the expression mentions a built-in name that a later parameter hides.
-/

namespace RegisterFile

open Document

namespace Document

/-- The names of the parameters. -/
def parameterNames (document : Document) : List String :=
  document.parameters.map Prod.fst

/-- The names that are known without a parameter. -/
def builtinNames (document : Document) : List String :=
  document.builtins.map Prod.fst

/-- Parameters come in strictly increasing order of their names. -/
def Ordered (document : Document) : Prop :=
  document.parameterNames.Pairwise (· < ·)

/-- What the parameter of a name sees: the values of those in front of it, and the built-in
    names. -/
def visibleTo (document : Document) (table : Parameters) (name : String) : Parameters :=
  (table.filter fun entry => entry.1 < name) ++ document.builtins

/-- A built-in name that the parameter of a name, or one behind it, hides. -/
def HiddenFrom (document : Document) (name builtin : String) : Prop :=
  builtin ∈ document.builtinNames ∧ builtin ∈ document.parameterNames ∧ ¬ builtin < name

/-! ### Order -/

theorem mem_insertParameter {known : List (String × Literal)} {entry other : String × Literal}
    (hother : other ∈ insertParameter known entry) : other = entry ∨ other ∈ known := by
  induction known with
  | nil => exact .inl (List.mem_singleton.mp hother)
  | cons first rest ih =>
    rw [insertParameter] at hother
    split at hother
    · exact List.mem_cons.mp hother
    · split at hother
      · exact (List.mem_cons.mp hother).imp_right (List.mem_cons_of_mem _)
      · rcases List.mem_cons.mp hother with rfl | hother
        · exact .inr List.mem_cons_self
        · exact (ih hother).imp_right (List.mem_cons_of_mem _)

theorem pairwise_insertParameter {known : List (String × Literal)}
    (hknown : known.Pairwise (·.1 < ·.1)) (entry : String × Literal) :
    (insertParameter known entry).Pairwise (·.1 < ·.1) := by
  induction known with
  | nil => exact List.pairwise_singleton _ _
  | cons first rest ih =>
    obtain ⟨hfirst, hrest⟩ := List.pairwise_cons.mp hknown
    rw [insertParameter]
    split
    · next hbefore =>
      refine List.pairwise_cons.mpr ⟨fun other hother => ?_, hknown⟩
      rcases List.mem_cons.mp hother with rfl | hother
      · exact hbefore
      · exact hbefore.trans (hfirst other hother)
    · next hbefore =>
      split
      · next hsame =>
        exact List.pairwise_cons.mpr ⟨fun other hother => hsame ▸ hfirst other hother, hrest⟩
      · next hne =>
        refine List.pairwise_cons.mpr ⟨fun other hother => ?_, ih hrest⟩
        rcases mem_insertParameter hother with rfl | hother
        · exact (lt_or_gt_of_ne hne).resolve_left hbefore
        · exact hfirst other hother

theorem pairwise_of_parametersOfNode? {node : Node} {parameters : List (String × Literal)}
    (hread : parametersOfNode? node = some parameters) :
    parameters.Pairwise (·.1 < ·.1) := by
  have hfold : ∀ (entries known : List (String × Literal)), known.Pairwise (·.1 < ·.1) →
      (entries.foldl insertParameter known).Pairwise (·.1 < ·.1) := by
    intro entries
    induction entries with
    | nil => exact fun _ hknown => hknown
    | cons entry rest ih => exact fun known hknown => ih _ (pairwise_insertParameter hknown entry)
  unfold parametersOfNode? at hread
  split at hread
  · obtain ⟨entries, -, hparameters⟩ := Option.bind_eq_some_iff.mp hread
    cases hparameters
    exact hfold entries [] List.Pairwise.nil
  · split at hread
    · cases hread
      exact List.Pairwise.nil
    · cases hread

/-- Documents that are read have their parameters in order. -/
theorem ordered_of_ofNode? {format : Format} {node : Node} {document : Document}
    (hread : ofNode? format node = some document) : document.Ordered := by
  obtain ⟨values, -, hread⟩ := Option.bind_eq_some_iff.mp hread
  split at hread
  · iterate 11 obtain ⟨_, -, hread⟩ := Option.bind_eq_some_iff.mp hread
    obtain ⟨parameters, hparameters, hread⟩ := Option.bind_eq_some_iff.mp hread
    iterate 4 obtain ⟨_, -, hread⟩ := Option.bind_eq_some_iff.mp hread
    cases hread
    rw [Ordered, parameterNames, List.pairwise_map]
    unfold defaulting at hparameters
    split at hparameters
    · cases hparameters
      exact List.Pairwise.nil
    · exact pairwise_of_parametersOfNode? hparameters
  · cases hread

/-! ### Evaluation -/

variable {document : Document} {known between table : Parameters}
  {entries : List (String × Literal)}

theorem addParameter_eq_ok {entry : String × Literal}
    (hadd : addParameter known entry = .ok table) :
    ∃ value, entry.2.evaluate known = .ok value ∧ table = (entry.1, value) :: known := by
  obtain ⟨value, hvalue, htable⟩ := bind_eq_ok_iff.mp hadd
  cases htable
  exact ⟨value, hvalue, rfl⟩

theorem foldlM_cons_eq_ok {entry : String × Literal}
    (hfold : (entry :: entries).foldlM addParameter known = .ok table) :
    ∃ value, entry.2.evaluate known = .ok value ∧
      entries.foldlM addParameter ((entry.1, value) :: known) = .ok table := by
  rw [List.foldlM_cons] at hfold
  obtain ⟨between, hadd, hrest⟩ := bind_eq_ok_iff.mp hfold
  obtain ⟨value, hvalue, rfl⟩ := addParameter_eq_ok hadd
  exact ⟨value, hvalue, hrest⟩

/-- Parameters put their values in front of what is known, the last one first. -/
theorem exists_values_of_foldlM (hfold : entries.foldlM addParameter known = .ok table) :
    ∃ values : Parameters, table = values ++ known ∧
      values.map Prod.fst = (entries.map Prod.fst).reverse := by
  induction entries generalizing known with
  | nil =>
    cases hfold
    exact ⟨[], rfl, rfl⟩
  | cons entry rest ih =>
    obtain ⟨value, -, hrest⟩ := foldlM_cons_eq_ok hfold
    obtain ⟨values, rfl, hnames⟩ := ih hrest
    exact ⟨values ++ [(entry.1, value)], by simp, by simp [hnames]⟩

/-- A parameter is evaluated between those in front of it and those behind it. -/
theorem exists_values_of_mem {name : String} {literal : Literal}
    (htable : document.parameterTable = .ok table) (hmem : (name, literal) ∈ document.parameters) :
    ∃ (front back : List (String × Literal)) (before after : Parameters) (value : Word),
      document.parameters = front ++ (name, literal) :: back ∧
      before.map Prod.fst = (front.map Prod.fst).reverse ∧
      after.map Prod.fst = (back.map Prod.fst).reverse ∧
      literal.evaluate (before ++ document.builtins) = .ok value ∧
      table = after ++ (name, value) :: (before ++ document.builtins) := by
  obtain ⟨front, back, hparameters⟩ := List.append_of_mem hmem
  rw [parameterTable, hparameters, List.foldlM_append] at htable
  obtain ⟨known, hfront, htable⟩ := bind_eq_ok_iff.mp htable
  obtain ⟨value, hvalue, hback⟩ := foldlM_cons_eq_ok htable
  obtain ⟨before, rfl, hbefore⟩ := exists_values_of_foldlM hfront
  obtain ⟨after, rfl, hafter⟩ := exists_values_of_foldlM hback
  exact ⟨front, back, before, after, value, hparameters, hbefore, hafter, hvalue, rfl⟩

/-! ### Names -/

theorem lookup_eq_none {name : String} (hname : name ∉ known.map Prod.fst) :
    known.lookup name = none := by
  refine List.lookup_eq_none_iff.mpr fun entry hentry => ?_
  rw [bne_iff_ne]
  rintro rfl
  exact hname (List.mem_map_of_mem hentry)

theorem lookup_filter (keep : String → Bool) (name : String) :
    (known.filter fun entry => keep entry.1).lookup name =
      if keep name then known.lookup name else none := by
  induction known with
  | nil => simp
  | cons entry rest ih =>
    obtain ⟨key, bits⟩ := entry
    by_cases hname : name = key
    · subst hname
      cases hkeep : keep name with
      | false =>
        rw [List.filter_cons_of_neg (by simp [hkeep]), ih, hkeep]
        rfl
      | true => simp [hkeep]
    · have hskip (more : Parameters) : ((key, bits) :: more).lookup name = more.lookup name := by
        rw [List.lookup_cons, beq_eq_false_iff_ne.mpr hname]
      rw [List.filter_cons]
      split <;> simp only [hskip, ih]

section

variable {before after : Parameters} {name other : String} {value : Word}

/-- What a parameter sees is what it was evaluated under. -/
theorem lookup_visibleTo (hbefore : ∀ entry ∈ before, entry.1 < name)
    (hafter : ∀ entry ∈ after, name < entry.1) :
    (document.visibleTo (after ++ (name, value) :: (before ++ document.builtins)) name).lookup
        other = (before ++ document.builtins).lookup other := by
  have hdropped : (after.filter fun entry => entry.1 < name) = [] :=
    List.filter_eq_nil_iff.mpr fun entry hentry => by
      rw [decide_eq_true_eq]
      exact (hafter entry hentry).not_gt
  have hkept : (before.filter fun entry => entry.1 < name) = before :=
    List.filter_eq_self.mpr fun entry hentry => decide_eq_true (hbefore entry hentry)
  rw [visibleTo, List.filter_append, hdropped, List.nil_append,
    List.filter_cons_of_neg (by simp), List.filter_append, hkept, List.append_assoc,
    List.lookup_append, List.lookup_append, List.lookup_append,
    lookup_filter fun shown => shown < name]
  congr 1
  split
  · exact Option.or_self
  · rfl

/-- A name that a parameter sees keeps its value, unless it is hidden from the parameter. -/
theorem lookup_of_not_hidden (hbefore : ∀ entry ∈ before, entry.1 < name)
    (hlater : ∀ later ∈ name :: after.map Prod.fst,
      later ∈ document.parameterNames ∧ ¬ later < name)
    (hknown : ((before ++ document.builtins).lookup other).isSome = true)
    (hshown : ¬ document.HiddenFrom name other) :
    (after ++ (name, value) :: (before ++ document.builtins)).lookup other =
      (before ++ document.builtins).lookup other := by
  have hother : other ∉ name :: after.map Prod.fst := by
    intro hother
    obtain ⟨hparameter, hnot⟩ := hlater other hother
    have hbuiltin : other ∉ document.builtinNames := fun hbuiltin =>
      hshown ⟨hbuiltin, hparameter, hnot⟩
    have hunknown : (before ++ document.builtins).lookup other = none := by
      apply lookup_eq_none
      rw [List.map_append, List.mem_append, not_or]
      refine ⟨fun hmem => ?_, hbuiltin⟩
      obtain ⟨entry, hentry, rfl⟩ := List.mem_map.mp hmem
      exact hnot (hbefore entry hentry)
    rw [hunknown] at hknown
    cases hknown
  obtain ⟨hne, hafter⟩ := not_or.mp (mt List.mem_cons.mpr hother)
  rw [List.lookup_append, lookup_eq_none hafter, Option.none_or, List.lookup_cons,
    beq_eq_false_iff_ne.mpr hne]

end

/-- A parameter has the value that its expression has under what it sees; and that is its value
    under all parameters, unless it mentions a built-in name that is hidden from it only later. -/
theorem evaluate_of_parameterTable (hordered : document.Ordered)
    (htable : document.parameterTable = .ok table) {name : String} {literal : Literal}
    (hmem : (name, literal) ∈ document.parameters) :
    ∃ value, table.lookup name = some value ∧
      literal.evaluate (document.visibleTo table name) = .ok value ∧
      ((∀ mention ∈ literal.mentions, ¬ document.HiddenFrom name mention) →
        literal.evaluate table = .ok value) := by
  obtain ⟨front, back, before, after, value, hparameters, hbefore, hafter, hvalue, rfl⟩ :=
    exists_values_of_mem htable hmem
  obtain ⟨hknown, hsame⟩ := literal.evaluate_eq_ok hvalue
  have hnames : document.parameterNames =
      front.map Prod.fst ++ name :: back.map Prod.fst := by
    rw [parameterNames, hparameters, List.map_append, List.map_cons]
  rw [Ordered, hnames, List.pairwise_append, List.pairwise_cons] at hordered
  obtain ⟨-, ⟨hback, -⟩, hfront⟩ := hordered
  have hbeforeLt : ∀ entry ∈ before, entry.1 < name := by
    intro entry hentry
    have hmem := List.mem_map_of_mem (f := Prod.fst) hentry
    rw [hbefore, List.mem_reverse] at hmem
    exact hfront entry.1 hmem name List.mem_cons_self
  have hafterMem : ∀ later ∈ after.map Prod.fst, later ∈ back.map Prod.fst := by
    intro later hlater
    rwa [hafter, List.mem_reverse] at hlater
  have hafterLt : ∀ entry ∈ after, name < entry.1 := fun entry hentry =>
    hback entry.1 (hafterMem entry.1 (List.mem_map_of_mem hentry))
  have hlater : ∀ later ∈ name :: after.map Prod.fst,
      later ∈ document.parameterNames ∧ ¬ later < name := by
    intro later hlater
    rw [hnames]
    rcases List.mem_cons.mp hlater with rfl | hlater
    · exact ⟨by simp, lt_irrefl later⟩
    · have hmem := hafterMem later hlater
      exact ⟨by simp [hmem], (hback later hmem).not_gt⟩
  refine ⟨value, ?_, hsame _ fun mention _ => lookup_visibleTo hbeforeLt hafterLt,
    fun hshown => hsame _ fun mention hmention => ?_⟩
  · have hname : name ∉ after.map Prod.fst := fun hmem =>
      lt_irrefl name (hback name (hafterMem name hmem))
    rw [List.lookup_append, lookup_eq_none hname, Option.none_or, List.lookup_cons,
      beq_self_eq_true]
  · exact lookup_of_not_hidden hbeforeLt hlater (hknown mention hmention) (hshown mention hmention)

/-- The data width as a parameter of eight bits, between other parameters. -/
def eightBits (front back : List (String × Literal)) : Document where
  moduleName := "regs"
  parameters := front ++ ("DATA_WIDTH", .number 8) :: back

theorem evaluate_dataWidth {value : Word} (hlookup : known.lookup "DATA_WIDTH" = some value)
    (hvalue : value.toNat < 2 ^ 127) : (Literal.text "DATA_WIDTH").evaluate known = .ok value :=
  expressionValue_of_symbol (by decide +kernel) hlookup hvalue

theorem addParameter_dataWidth (name : String) {value : Word}
    (hlookup : known.lookup "DATA_WIDTH" = some value) (hvalue : value.toNat < 2 ^ 127) :
    addParameter known (name, .text "DATA_WIDTH") = .ok ((name, value) :: known) := by
  rw [addParameter, evaluate_dataWidth hlookup hvalue]
  rfl

/-- Behind the parameter that it mentions, a name has its value. -/
theorem evaluate_of_parameterTable_behind :
    (eightBits [] [("W", .text "DATA_WIDTH")]).Ordered ∧
      ∃ table, (eightBits [] [("W", .text "DATA_WIDTH")]).parameterTable = .ok table ∧
        ("W", .text "DATA_WIDTH") ∈ (eightBits [] [("W", .text "DATA_WIDTH")]).parameters ∧
        ∃ value, table.lookup "W" = some value ∧
          (Literal.text "DATA_WIDTH").evaluate table = .ok value := by
  have hordered : (eightBits [] [("W", .text "DATA_WIDTH")]).Ordered := by
    unfold Ordered
    decide +kernel
  have htable : (eightBits [] [("W", .text "DATA_WIDTH")]).parameterTable =
      .ok (("W", 8) :: ("DATA_WIDTH", 8) :: (eightBits [] []).builtins) := by
    have hsecond : addParameter (("DATA_WIDTH", 8) :: (eightBits [] []).builtins)
        ("W", .text "DATA_WIDTH") =
          .ok (("W", 8) :: ("DATA_WIDTH", 8) :: (eightBits [] []).builtins) :=
      addParameter_dataWidth "W" rfl (by decide)
    exact congrArg (· >>= pure) hsecond
  have hmem : ("W", .text "DATA_WIDTH") ∈
      (eightBits [] [("W", .text "DATA_WIDTH")]).parameters := by decide
  obtain ⟨value, hlookup, -, hvalue⟩ := evaluate_of_parameterTable hordered htable hmem
  refine ⟨hordered, _, htable, hmem, value, hlookup, hvalue fun mention hmention => ?_⟩
  have hname : (Literal.text "DATA_WIDTH").mentions = ["DATA_WIDTH"] := by decide +kernel
  obtain rfl : mention = "DATA_WIDTH" := by simpa [hname] using hmention
  exact fun hhidden => hhidden.2.2 (by decide +kernel)

/-- In front of the parameter that it mentions, a built-in name has another value than in the
    end. -/
theorem evaluate_ne_of_parameterTable_before :
    (eightBits [("A", .text "DATA_WIDTH")] []).Ordered ∧
      ∃ table, (eightBits [("A", .text "DATA_WIDTH")] []).parameterTable = .ok table ∧
        ("A", .text "DATA_WIDTH") ∈ (eightBits [("A", .text "DATA_WIDTH")] []).parameters ∧
        table.lookup "A" = some 32 ∧ (Literal.text "DATA_WIDTH").evaluate table = .ok 8 := by
  have hordered : (eightBits [("A", .text "DATA_WIDTH")] []).Ordered := by
    unfold Ordered
    decide +kernel
  have hfirst : addParameter (eightBits [] []).builtins ("A", .text "DATA_WIDTH") =
      .ok (("A", 32) :: (eightBits [] []).builtins) :=
    addParameter_dataWidth "A" (by decide +kernel) (by decide)
  have htable : (eightBits [("A", .text "DATA_WIDTH")] []).parameterTable =
      .ok (("DATA_WIDTH", 8) :: ("A", 32) :: (eightBits [] []).builtins) := by
    show ([("A", .text "DATA_WIDTH"), ("DATA_WIDTH", .number 8)].foldlM addParameter
      (eightBits [] []).builtins) = _
    rw [List.foldlM_cons, hfirst]
    rfl
  exact ⟨hordered, _, htable, by decide, by decide +kernel,
    evaluate_dataWidth (by decide +kernel) (by decide)⟩

end Document

end RegisterFile
