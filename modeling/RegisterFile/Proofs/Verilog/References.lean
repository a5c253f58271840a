import Mathlib.Tactic.Tauto
import RegisterFile.Proofs.Verilog.Declarations

/-!
The signals that a module mentions: in expressions, as the targets of assignments, as the subjects
and arms of choices, and in the events that start a block.
-/

namespace RegisterFile.Verilog

/-- What an expression reads. -/
def Expr.refs : Expr → List Ref
  | ref r => [r]
  | literal _ _ _ => []
  | invert e | negate e | any e | group e => e.refs
  | and left right | or left right | equal left right | add left right => left.refs ++ right.refs
  | choose condition yes no => condition.refs ++ yes.refs ++ no.refs

/-- The assignments of a statement, each a target and a value. -/
def Stmt.assignments : Stmt → List (Ref × Expr)
  | skip | comment _ => []
  | seq first second => first.assignments ++ second.assignments
  | nonblocking _ target value | blocking target value => [(target, value)]
  | branch _ yes no => yes.assignments ++ no.assignments
  | block body => body.assignments
  | select _ arms default => arms.map Prod.snd ++ default.toList

/-- What a statement decides by: conditions, subjects and the constants of arms. -/
def Stmt.decisions : Stmt → List Ref
  | skip | comment _ | nonblocking _ _ _ | blocking _ _ => []
  | seq first second => first.decisions ++ second.decisions
  | branch condition yes no => condition.refs ++ yes.decisions ++ no.decisions
  | block body => body.decisions
  | select subject arms _ => subject :: arms.map fun arm => ⟨arm.1, .whole⟩

/-- What an assignment mentions. -/
def refsOfAssignment (assignment : Ref × Expr) : List Ref :=
  assignment.1 :: assignment.2.refs

/-- What a statement mentions. -/
def Stmt.refs (s : Stmt) : List Ref :=
  s.decisions ++ s.assignments.flatMap refsOfAssignment

/-- The signals whose edges start a block. -/
def Event.refs : Event → List Ref
  | clock => [⟨"clk", .whole⟩]
  | clockOrReset => [⟨"clk", .whole⟩, ⟨"rst_n", .whole⟩]
  | change => []

/-- What an item mentions. The names that it declares are not among it. -/
def Item.refs : Item → List Ref
  | blank | comment _ | reg _ _ _ => []
  | localparam _ _ value | wire _ _ value => value.refs
  | assign _ name value => refsOfAssignment (⟨name, .whole⟩, value)
  | always event body => event.refs ++ body.refs

/-- What a module mentions. -/
def Module.refs (m : Module) : List Ref :=
  m.items.flatMap Item.refs

/-- The assignments of a block. -/
def Item.assignments : Item → List (Ref × Expr)
  | always _ body => body.assignments
  | _ => []

variable {P : Ref → Prop}

/-! ### Expressions -/

/-- All that an expression mentions has a property. -/
def Expr.Uses (P : Ref → Prop) (e : Expr) : Prop :=
  ∀ ref ∈ e.refs, P ref

namespace Expr

@[simp] theorem uses_ref {r : Ref} : (Expr.ref r).Uses P ↔ P r :=
  List.forall_mem_singleton

@[simp] theorem uses_signal {name : String} : (signal name).Uses P ↔ P ⟨name, .whole⟩ :=
  uses_ref

@[simp] theorem uses_literal {radix : Radix} {width : Nat} {value : Word} :
    (literal radix width value).Uses P :=
  List.forall_mem_nil _

@[simp] theorem uses_hex {width : Nat} {value : Word} : (hex width value).Uses P :=
  uses_literal

@[simp] theorem uses_bit {value : Bool} : (bit value).Uses P :=
  uses_literal

@[simp] theorem uses_invert {e : Expr} : (invert e).Uses P ↔ e.Uses P :=
  Iff.rfl

@[simp] theorem uses_negate {e : Expr} : (negate e).Uses P ↔ e.Uses P :=
  Iff.rfl

@[simp] theorem uses_any {e : Expr} : (any e).Uses P ↔ e.Uses P :=
  Iff.rfl

@[simp] theorem uses_group {e : Expr} : (group e).Uses P ↔ e.Uses P :=
  Iff.rfl

@[simp] theorem uses_and {left right : Expr} :
    (Expr.and left right).Uses P ↔ left.Uses P ∧ right.Uses P :=
  List.forall_mem_append

@[simp] theorem uses_or {left right : Expr} :
    (Expr.or left right).Uses P ↔ left.Uses P ∧ right.Uses P :=
  List.forall_mem_append

@[simp] theorem uses_isEqual {left right : Expr} :
    (isEqual left right).Uses P ↔ left.Uses P ∧ right.Uses P :=
  List.forall_mem_append

/-- Expressions joined from the left mention what each of them does. -/
theorem uses_foldl {α : Type} {join : Expr → α → Expr} (part : α → Expr)
    (hjoin : ∀ e a, (join e a).Uses P ↔ e.Uses P ∧ (part a).Uses P) {first : Expr} {rest : List α} :
    (rest.foldl join first).Uses P ↔ first.Uses P ∧ ∀ a ∈ rest, (part a).Uses P := by
  induction rest generalizing first with
  | nil => simp
  | cons a rest ih => rw [List.foldl_cons, ih, hjoin, List.forall_mem_cons, and_assoc]

@[simp] theorem uses_ands {first : Expr} {rest : List Expr} :
    (ands first rest).Uses P ↔ first.Uses P ∧ ∀ e ∈ rest, e.Uses P :=
  uses_foldl id fun _ _ => uses_and

/-- Alternatives mention what each of them does. -/
theorem uses_join?_or {alternatives : List Expr}
    (hall : ∀ e ∈ alternatives, e.Uses P) {joined : Expr}
    (hjoined : join? .or alternatives = some joined) : joined.Uses P := by
  cases alternatives with
  | nil => cases hjoined
  | cons first rest =>
    cases hjoined
    exact (uses_foldl id fun _ _ => uses_or).mpr (List.forall_mem_cons.mp hall)

end Expr

/-! ### Statements -/

/-- All that a statement mentions has a property. -/
def Stmt.Uses (P : Ref → Prop) (s : Stmt) : Prop :=
  ∀ ref ∈ s.refs, P ref

namespace Stmt

@[simp] theorem uses_skip : skip.Uses P :=
  List.forall_mem_nil _

@[simp] theorem uses_comment {text : String} : (comment text).Uses P :=
  List.forall_mem_nil _

@[simp] theorem uses_seq {first second : Stmt} :
    (seq first second).Uses P ↔ first.Uses P ∧ second.Uses P := by
  simp only [Uses, refs, decisions, assignments, List.flatMap_append, List.forall_mem_append]
  tauto

theorem uses_assignment {target : Ref} {value : Expr} :
    (∀ ref ∈ refsOfAssignment (target, value), P ref) ↔ P target ∧ value.Uses P :=
  List.forall_mem_cons

@[simp] theorem uses_nonblocking {column : Nat} {target : Ref} {value : Expr} :
    (nonblocking column target value).Uses P ↔ P target ∧ value.Uses P := by
  rw [← uses_assignment]
  simp only [Uses, refs, decisions, assignments, List.nil_append, List.flatMap_singleton]

@[simp] theorem uses_blocking {target : Ref} {value : Expr} :
    (blocking target value).Uses P ↔ P target ∧ value.Uses P := by
  rw [← uses_assignment]
  simp only [Uses, refs, decisions, assignments, List.nil_append, List.flatMap_singleton]

@[simp] theorem uses_store {name : String} {value : Expr} {column : Nat} :
    (store name value column).Uses P ↔ P ⟨name, .whole⟩ ∧ value.Uses P :=
  uses_nonblocking

@[simp] theorem uses_branch {condition : Expr} {yes no : Stmt} :
    (branch condition yes no).Uses P ↔ condition.Uses P ∧ yes.Uses P ∧ no.Uses P := by
  simp only [Uses, Expr.Uses, refs, decisions, assignments, List.flatMap_append,
    List.forall_mem_append]
  tauto

@[simp] theorem uses_when {condition : Expr} {body : Stmt} :
    (Stmt.when condition body).Uses P ↔ condition.Uses P ∧ body.Uses P := by
  simp only [Stmt.when, uses_branch, uses_skip, and_true]

@[simp] theorem uses_block {body : Stmt} : (block body).Uses P ↔ body.Uses P :=
  Iff.rfl

@[simp] theorem uses_ofList {stmts : List Stmt} :
    (ofList stmts).Uses P ↔ ∀ s ∈ stmts, s.Uses P := by
  induction stmts with
  | nil => simp [ofList]
  | cons s rest ih =>
    cases rest with
    | nil => simp [ofList]
    | cons next rest => rw [ofList.eq_3 _ _ (by simp), uses_seq, ih, ← List.forall_mem_cons]

theorem uses_select {subject : Ref} {arms : List (String × Ref × Expr)}
    {default : Option (Ref × Expr)} :
    (select subject arms default).Uses P ↔
      P subject ∧ (∀ arm ∈ arms, P ⟨arm.1, .whole⟩ ∧ P arm.2.1 ∧ arm.2.2.Uses P) ∧
        ∀ assignment ∈ default, P assignment.1 ∧ assignment.2.Uses P := by
  simp only [Uses, refs, decisions, assignments, List.flatMap_append, List.forall_mem_append,
    List.forall_mem_cons, List.forall_mem_map, List.forall_mem_flatMap, Option.mem_toList,
    refsOfAssignment, Expr.Uses, forall_and]
  tauto

end Stmt

/-! ### Items -/

/-- All that an item mentions has a property. -/
def Item.Uses (P : Ref → Prop) (item : Item) : Prop :=
  ∀ ref ∈ item.refs, P ref

namespace Item

@[simp] theorem uses_wire {gap : Nat} {name : String} {value : Expr} :
    (wire gap name value).Uses P ↔ value.Uses P :=
  Iff.rfl

@[simp] theorem uses_assign {column : Nat} {name : String} {value : Expr} :
    (assign column name value).Uses P ↔ P ⟨name, .whole⟩ ∧ value.Uses P :=
  Stmt.uses_assignment

@[simp] theorem uses_always {event : Event} {body : Stmt} :
    (always event body).Uses P ↔ (∀ ref ∈ event.refs, P ref) ∧ body.Uses P :=
  List.forall_mem_append

theorem uses_sequential {reset : Reset} {onReset otherwise : Stmt} (hclock : P ⟨"clk", .whole⟩)
    (hreset : P ⟨reset.port, .whole⟩) (hon : onReset.Uses P) (hotherwise : otherwise.Uses P) :
    (reset.sequential onReset otherwise).Uses P := by
  rw [Reset.sequential, uses_always, Stmt.uses_branch]
  cases reset with
  | synchronous =>
    exact ⟨List.forall_mem_singleton.mpr hclock, Expr.uses_signal.mpr hreset, hon, hotherwise⟩
  | asynchronous =>
    exact ⟨List.forall_mem_cons.mpr ⟨hclock, List.forall_mem_singleton.mpr hreset⟩,
      Expr.uses_negate.mpr (Expr.uses_signal.mpr hreset), hon, hotherwise⟩

end Item

end RegisterFile.Verilog
