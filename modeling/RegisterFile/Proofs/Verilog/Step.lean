import RegisterFile.Proofs.Verilog.Semantics

/-!
Steps bit by bit. What a step of nonblocking assignments does to a bit is the value of the last
assignment that covers it; statements that assign other signals or other bits do not matter.
-/

namespace RegisterFile.Verilog

variable {widths : Widths} {e : Env} {name : String} {i : Nat}

/-- The bit that assignments leave behind, if some of them covers it. -/
def lastBit (widths : Widths) (updates : List (Ref × Word)) (name : String) (i : Nat) :
    Option Bool :=
  match updates with
  | [] => none
  | update :: rest =>
    (lastBit widths rest name i).or
      (if name = update.1.name ∧ update.1.covers widths i = true then
        some (update.2.getLsbD (i - update.1.low))
      else none)

theorem lastBit_append (first second : List (Ref × Word)) :
    lastBit widths (first ++ second) name i =
      (lastBit widths second name i).or (lastBit widths first name i) := by
  induction first with
  | nil => exact (Option.or_none).symm
  | cons update rest ih =>
    rw [List.cons_append, lastBit, ih, Option.or_assoc]
    rfl

theorem lastBit_eq_none {updates : List (Ref × Word)}
    (hother : ∀ update ∈ updates, update.1.name ≠ name) :
    lastBit widths updates name i = none := by
  induction updates with
  | nil => rfl
  | cons update rest ih =>
    obtain ⟨hhere, hrest⟩ := List.forall_mem_cons.mp hother
    rw [lastBit, ih hrest, if_neg fun h => hhere h.1.symm]
    rfl

theorem getLsbD_foldl_assign (updates : List (Ref × Word)) (e : Env) (hi : i < 128) :
    (updates.foldl (Env.assign widths) e name).getLsbD i =
      (lastBit widths updates name i).getD ((e name).getLsbD i) := by
  induction updates generalizing e with
  | nil => rfl
  | cons update rest ih =>
    rw [List.foldl_cons, ih, lastBit, Env.getLsbD_assign hi]
    cases lastBit widths rest name i with
    | some b => rfl
    | none => split <;> rfl

namespace Stmt

/-- What a statement does to a bit, if it does anything. -/
def effect (widths : Widths) (e : Env) (s : Stmt) (name : String) (i : Nat) : Option Bool :=
  lastBit widths (s.pending widths e) name i

/-- What statements one after another do to a bit. -/
def effects (widths : Widths) (e : Env) (stmts : List Stmt) (name : String) (i : Nat) :
    Option Bool :=
  match stmts with
  | [] => none
  | s :: rest => (effects widths e rest name i).or (s.effect widths e name i)

theorem blocked_of_isClocked {s : Stmt} (hclocked : s.isClocked = true) :
    s.blocked widths e = e := by
  induction s with
  | seq first second ihf ihs =>
    simp only [isClocked, Bool.and_eq_true] at hclocked
    rw [blocked, ihf hclocked.1, ihs hclocked.2]
  | branch condition yes no ihy ihn =>
    simp only [isClocked, Bool.and_eq_true] at hclocked
    rw [blocked, ihy hclocked.1, ihn hclocked.2, ite_self]
  | block body ih => exact ih hclocked
  | blocking target value => cases hclocked
  | select subject arms default => cases hclocked
  | _ => rfl

/-- A bit after a step of nonblocking assignments. -/
theorem getLsbD_step {s : Stmt} (hclocked : s.isClocked = true) (hi : i < 128) :
    (s.step widths e name).getLsbD i =
      (s.effect widths e name i).getD ((e name).getLsbD i) := by
  rw [step, getLsbD_foldl_assign _ _ hi, blocked_of_isClocked hclocked]
  rfl

theorem mem_targets_of_mem_pending {s : Stmt} {update : Ref × Word}
    (hupdate : update ∈ s.pending widths e) : update.1.name ∈ s.targets := by
  induction s generalizing e with
  | seq first second ihf ihs =>
    rcases List.mem_append.mp hupdate with hfirst | hsecond
    · exact List.mem_append_left _ (ihf hfirst)
    · exact List.mem_append_right _ (ihs hsecond)
  | branch condition yes no ihy ihn =>
    simp only [pending] at hupdate
    split at hupdate
    · exact List.mem_append_left _ (ihy hupdate)
    · exact List.mem_append_right _ (ihn hupdate)
  | block body ih => exact ih hupdate
  | nonblocking column target value =>
    rw [List.mem_singleton.mp hupdate]
    exact List.mem_singleton_self _
  | _ => cases hupdate

/-- A statement leaves signals alone that it does not assign. -/
theorem effect_eq_none_of_not_mem_targets {s : Stmt} (htarget : name ∉ s.targets) :
    s.effect widths e name i = none := by
  apply lastBit_eq_none
  rintro update hupdate rfl
  exact htarget (mem_targets_of_mem_pending hupdate)

@[simp] theorem effect_skip : skip.effect widths e name i = none :=
  rfl

@[simp] theorem effect_comment (text : String) :
    (comment text).effect widths e name i = none :=
  rfl

@[simp] theorem effect_block (body : Stmt) :
    (block body).effect widths e name i = body.effect widths e name i :=
  rfl

theorem effect_seq {first second : Stmt} (hclocked : first.isClocked = true) :
    (seq first second).effect widths e name i =
      (second.effect widths e name i).or (first.effect widths e name i) := by
  rw [effect, pending, lastBit_append, blocked_of_isClocked hclocked]
  rfl

theorem effect_branch (condition : Expr) (yes no : Stmt) :
    (branch condition yes no).effect widths e name i =
      if condition.holds widths e then yes.effect widths e name i
      else no.effect widths e name i := by
  rw [effect, pending]
  split <;> rfl

theorem effect_nonblocking (column : Nat) (target : Ref) (value : Expr) :
    (nonblocking column target value).effect widths e name i =
      if name = target.name ∧ target.covers widths i = true then
        some ((value.evalFor widths e target).getLsbD (i - target.low))
      else none :=
  rfl

theorem effect_store {value : Expr} (hi : i < widths name) :
    (store name value).effect widths e name i =
      some ((value.evalFor widths e ⟨name, .whole⟩).getLsbD i) := by
  have hcovers : (Ref.mk name .whole).covers widths i = true := by
    simp [Ref.covers, Ref.low, Ref.width, hi]
  rw [store, effect_nonblocking, if_pos ⟨rfl, hcovers⟩]
  rfl

theorem effect_part {column high low width : Nat} {value : Expr} (hwidth : widths name = width)
    (hle : low ≤ high) (hhigh : high < width) :
    (nonblocking column (.part name high low width) value).effect widths e name i =
      if low ≤ i ∧ i ≤ high then
        some ((value.evalFor widths e (.part name high low width)).getLsbD (i - low))
      else none := by
  rw [effect_nonblocking, Ref.low_part]
  simp only [Ref.name_part, Ref.covers_part hwidth hle hhigh, true_and]

theorem isClocked_ofList {stmts : List Stmt} (hclocked : ∀ s ∈ stmts, s.isClocked = true) :
    (ofList stmts).isClocked = true := by
  induction stmts with
  | nil => rfl
  | cons s rest ih =>
    obtain ⟨hhere, hrest⟩ := List.forall_mem_cons.mp hclocked
    cases rest with
    | nil => exact hhere
    | cons next rest => exact Bool.and_eq_true_iff.mpr ⟨hhere, ih hrest⟩

theorem targets_ofList (stmts : List Stmt) : (ofList stmts).targets = stmts.flatMap targets := by
  induction stmts with
  | nil => rfl
  | cons s rest ih =>
    cases rest with
    | nil => exact (List.append_nil _).symm
    | cons next rest => exact congrArg (s.targets ++ ·) ih

theorem effect_ofList {stmts : List Stmt} (hclocked : ∀ s ∈ stmts, s.isClocked = true) :
    (ofList stmts).effect widths e name i = effects widths e stmts name i := by
  induction stmts with
  | nil => rfl
  | cons s rest ih =>
    obtain ⟨hhere, hrest⟩ := List.forall_mem_cons.mp hclocked
    cases rest with
    | nil => rfl
    | cons next rest =>
      rw [ofList, effect_seq hhere, ih hrest]
      · rfl
      · exact List.cons_ne_nil _ _

theorem effects_append (first second : List Stmt) :
    effects widths e (first ++ second) name i =
      (effects widths e second name i).or (effects widths e first name i) := by
  induction first with
  | nil => exact (Option.or_none).symm
  | cons s rest ih =>
    rw [List.cons_append, effects, ih, Option.or_assoc]
    rfl

@[simp] theorem effects_singleton (s : Stmt) :
    effects widths e [s] name i = s.effect widths e name i :=
  rfl

theorem effects_eq_none {stmts : List Stmt}
    (hnone : ∀ s ∈ stmts, s.effect widths e name i = none) :
    effects widths e stmts name i = none := by
  induction stmts with
  | nil => rfl
  | cons s rest ih =>
    obtain ⟨hhere, hrest⟩ := List.forall_mem_cons.mp hnone
    rw [effects, ih hrest, hhere]
    rfl

theorem effects_flatMap_eq_none {α : Type} {items : List α} {stmts : α → List Stmt}
    (hnone : ∀ item ∈ items, effects widths e (stmts item) name i = none) :
    effects widths e (items.flatMap stmts) name i = none := by
  induction items with
  | nil => rfl
  | cons item rest ih =>
    obtain ⟨hhere, hrest⟩ := List.forall_mem_cons.mp hnone
    rw [List.flatMap_cons, effects_append, ih hrest, hhere]
    rfl

/-- Of statements that come in groups, only those of one group matter if the others leave the bit
    alone. -/
theorem effects_flatMap {α : Type} {items : List α} {stmts : α → List Stmt} {hit : α}
    (hmem : hit ∈ items)
    (hother : ∀ item ∈ items, item ≠ hit → effects widths e (stmts item) name i = none) :
    effects widths e (items.flatMap stmts) name i = effects widths e (stmts hit) name i := by
  induction items with
  | nil => cases hmem
  | cons item rest ih =>
    obtain ⟨hhere, hrest⟩ := List.forall_mem_cons.mp hother
    rw [List.flatMap_cons, effects_append]
    -- The group may come again later; it then does the same to the bit once more.
    by_cases hlater : hit ∈ rest
    · rw [ih hlater hrest]
      by_cases heq : item = hit
      · rw [heq]
        cases effects widths e (stmts hit) name i <;> rfl
      · rw [hhere heq, Option.or_none]
    · have hnone : effects widths e (rest.flatMap stmts) name i = none :=
        effects_flatMap_eq_none fun other hmem =>
          hrest other hmem fun heq => hlater (heq ▸ hmem)
      rcases List.mem_cons.mp hmem with rfl | hmem
      · rw [hnone]
        rfl
      · exact absurd hmem hlater

/-! ### What statements update -/

/-- A statement that makes nonblocking assignments to some signals and no others. -/
structure Updates (names : List String) (s : Stmt) : Prop where
  clocked : s.isClocked = true
  targets : s.targets ⊆ names

variable {names more : List String} {s first second : Stmt} {stmts : List Stmt}

theorem updates_skip : skip.Updates names :=
  ⟨rfl, List.nil_subset _⟩

theorem updates_comment (text : String) : (comment text).Updates names :=
  ⟨rfl, List.nil_subset _⟩

theorem updates_nonblocking {column : Nat} {target : Ref} {value : Expr}
    (hname : target.name ∈ names) : (nonblocking column target value).Updates names :=
  ⟨rfl, List.cons_subset.mpr ⟨hname, List.nil_subset _⟩⟩

theorem updates_store {value : Expr} (hname : name ∈ names) : (store name value).Updates names :=
  updates_nonblocking hname

theorem Updates.mono (hs : s.Updates names) (hsub : names ⊆ more) : s.Updates more :=
  ⟨hs.clocked, List.Subset.trans hs.targets hsub⟩

theorem Updates.seq (hfirst : first.Updates names) (hsecond : second.Updates names) :
    (seq first second).Updates names :=
  ⟨Bool.and_eq_true_iff.mpr ⟨hfirst.clocked, hsecond.clocked⟩,
    List.append_subset.mpr ⟨hfirst.targets, hsecond.targets⟩⟩

theorem Updates.branch (condition : Expr) (hfirst : first.Updates names)
    (hsecond : second.Updates names) : (branch condition first second).Updates names :=
  ⟨Bool.and_eq_true_iff.mpr ⟨hfirst.clocked, hsecond.clocked⟩,
    List.append_subset.mpr ⟨hfirst.targets, hsecond.targets⟩⟩

theorem Updates.when (condition : Expr) (hs : s.Updates names) :
    (when condition s).Updates names :=
  hs.branch condition updates_skip

theorem Updates.block (hs : s.Updates names) : (block s).Updates names :=
  ⟨hs.clocked, hs.targets⟩

theorem Updates.ofList (hstmts : ∀ s ∈ stmts, s.Updates names) : (ofList stmts).Updates names := by
  refine ⟨isClocked_ofList fun s hs => (hstmts s hs).clocked, ?_⟩
  rw [targets_ofList]
  intro target htarget
  obtain ⟨s, hs, htarget⟩ := List.mem_flatMap.mp htarget
  exact (hstmts s hs).targets htarget

theorem Updates.effect_eq_none (hs : s.Updates names) (hname : name ∉ names) :
    s.effect widths e name i = none :=
  effect_eq_none_of_not_mem_targets fun htarget => hname (hs.targets htarget)

theorem effects_eq_none_of_updates (hstmts : ∀ s ∈ stmts, s.Updates names) (hname : name ∉ names) :
    effects widths e stmts name i = none :=
  effects_eq_none fun s hs => (hstmts s hs).effect_eq_none hname

end Stmt

end RegisterFile.Verilog
