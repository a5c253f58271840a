import RegisterFile.Proofs.Verilog.References
import RegisterFile.Proofs.Verilog.Semantics

/-!
Widths without extension or truncation. A bit or part select needs a declaration with a range that
it lies in, an operator needs operands of one width, and a literal holds its value. What has such a
width by the declarations has it under every choice of widths that agrees with them.
-/

namespace RegisterFile.Verilog

/-- The range that a port is declared with. -/
def Port.range? (port : Port) : Option (String × Nat) :=
  port.width.map fun width => (port.name, width)

/-- The range that an item declares a register with. -/
def Item.range? : Item → Option (String × Nat)
  | reg _ width name => width.map fun width => (name, width)
  | _ => none

/-- The declarations of a module that have a range, each with its number of bits. -/
def Module.ranges (m : Module) : List (String × Nat) :=
  m.ports.filterMap Port.range? ++ m.items.filterMap Item.range?

/-- Widths that every declaration of a module bears out. There are none if two declarations give
    one name different widths. -/
def Module.Respects (m : Module) (widths : Widths) : Prop :=
  ∀ declaration ∈ m.declarations, widths declaration.1 = declaration.2

/-- A signal that is declared with a width, or bits of a range that one is declared with. -/
def Ref.HasWidth (m : Module) (ref : Ref) (width : Nat) : Prop :=
  match ref.select with
  | .whole => (ref.name, width) ∈ m.declarations
  | .bit index => (∃ size, (ref.name, size) ∈ m.ranges ∧ index < size) ∧ width = 1
  | .bits high low =>
    (∃ size, (ref.name, size) ∈ m.ranges ∧ low ≤ high ∧ high < size) ∧ width = high - low + 1

/-- A select of bits that the signal has. -/
def Ref.InRange (widths : Widths) (ref : Ref) : Prop :=
  match ref.select with
  | .whole => True
  | .bit index => index < widths ref.name
  | .bits high low => low ≤ high ∧ high < widths ref.name

/-- An expression of one width throughout. -/
inductive Expr.HasWidth (m : Module) : Expr → Nat → Prop
  | ref {r : Ref} {width : Nat} (hr : r.HasWidth m width) : HasWidth m (.ref r) width
  | literal {radix : Radix} {width : Nat} {value : Word} (hvalue : Word.FitsIn value width) :
    HasWidth m (.literal radix width value) width
  | invert {e : Expr} {width : Nat} (he : HasWidth m e width) : HasWidth m (.invert e) width
  | negate {e : Expr} (he : HasWidth m e 1) : HasWidth m (.negate e) 1
  | any {e : Expr} {width : Nat} (he : HasWidth m e width) : HasWidth m (.any e) 1
  | and {left right : Expr} {width : Nat} (hleft : HasWidth m left width)
    (hright : HasWidth m right width) : HasWidth m (.and left right) width
  | or {left right : Expr} {width : Nat} (hleft : HasWidth m left width)
    (hright : HasWidth m right width) : HasWidth m (.or left right) width
  | equal {left right : Expr} {width : Nat} (hleft : HasWidth m left width)
    (hright : HasWidth m right width) : HasWidth m (.equal left right) 1
  | add {left right : Expr} {width : Nat} (hleft : HasWidth m left width)
    (hright : HasWidth m right width) : HasWidth m (.add left right) width
  | choose {condition yes no : Expr} {width : Nat} (hcondition : HasWidth m condition 1)
    (hyes : HasWidth m yes width) (hno : HasWidth m no width) :
    HasWidth m (.choose condition yes no) width
  | group {e : Expr} {width : Nat} (he : HasWidth m e width) : HasWidth m (.group e) width

/-- A target and a value of one width. -/
def ExactAssignment (m : Module) (assignment : Ref × Expr) : Prop :=
  ∃ width, assignment.1.HasWidth m width ∧ Expr.HasWidth m assignment.2 width

/-- A statement whose assignments are exact. -/
def Stmt.Exact (m : Module) (s : Stmt) : Prop :=
  ∀ assignment ∈ s.assignments, ExactAssignment m assignment

variable {m : Module} {widths : Widths} {ref : Ref} {e : Expr} {name : String}
  {size high low width : Nat}

/-! ### Declarations -/

theorem Module.ranges_subset (m : Module) : m.ranges ⊆ m.declarations := by
  intro range hrange
  rcases List.mem_append.mp hrange with hport | hitem
  · obtain ⟨port, hmem, hsome⟩ := List.mem_filterMap.mp hport
    obtain ⟨width, hwidth, rfl⟩ := Option.map_eq_some_iff.mp hsome
    refine List.mem_append_left _ (List.mem_map.mpr ⟨port, hmem, ?_⟩)
    rw [Port.declares, hwidth, Option.getD_some]
  · obtain ⟨item, hmem, hsome⟩ := List.mem_filterMap.mp hitem
    refine List.mem_append_right _ (List.mem_filterMap.mpr ⟨item, hmem, ?_⟩)
    cases item with
    | reg gap width name =>
      obtain ⟨width, rfl, rfl⟩ := Option.map_eq_some_iff.mp hsome
      rfl
    | _ => cases hsome

/-- The width of a declared name is that of one of its declarations. -/
theorem Module.widths_mem (hmem : (name, width) ∈ m.declarations) :
    (name, m.widths name) ∈ m.declarations := by
  cases hlookup : m.declarations.lookup name with
  | none =>
    have hne := List.lookup_eq_none_iff.mp hlookup _ hmem
    simp at hne
  | some found =>
    obtain ⟨before, after, hsplit, -⟩ := List.lookup_eq_some_iff.mp hlookup
    rw [Module.widths, hlookup, Option.getD_some, hsplit]
    exact List.mem_append_right _ List.mem_cons_self

/-- Bits of a declared range are as many as their numbers say, however they are written. -/
theorem Ref.hasWidth_part (hrange : (name, size) ∈ m.ranges) (hle : low ≤ high)
    (hhigh : high < size) : (Ref.part name high low size).HasWidth m (high - low + 1) := by
  unfold Ref.part
  split
  · next hall =>
    obtain ⟨rfl, rfl⟩ := hall
    exact m.ranges_subset hrange
  · split
    · next hsingle =>
      subst hsingle
      exact ⟨⟨size, hrange, hhigh⟩, by omega⟩
    · exact ⟨⟨size, hrange, hle, hhigh⟩, rfl⟩

theorem Expr.hasWidth_signal (hmem : (name, width) ∈ m.declarations) :
    (Expr.signal name).HasWidth m width :=
  .ref hmem

theorem Expr.hasWidth_bit (value : Bool) : (Expr.bit value).HasWidth m 1 := by
  refine .literal fun i hi => ?_
  cases value with
  | false => exact Word.getLsbD_zero i
  | true => exact Word.fitsIn_ofNat (by decide : 1 < 2 ^ 1) i hi

/-! ### Widths that agree with the declarations -/

theorem Ref.HasWidth.width_eq (hwidths : m.Respects widths) (href : ref.HasWidth m width) :
    ref.width widths = width := by
  obtain ⟨name, select⟩ := ref
  cases select with
  | whole => exact hwidths _ href
  | bit index => exact href.2.symm
  | bits high low => exact href.2.symm

theorem Ref.HasWidth.inRange (hwidths : m.Respects widths) (href : ref.HasWidth m width) :
    ref.InRange widths := by
  obtain ⟨name, select⟩ := ref
  cases select with
  | whole => trivial
  | bit index =>
    obtain ⟨⟨size, hrange, hindex⟩, -⟩ := href
    exact Nat.lt_of_lt_of_eq hindex (hwidths _ (m.ranges_subset hrange)).symm
  | bits high low =>
    obtain ⟨⟨size, hrange, hle, hhigh⟩, -⟩ := href
    exact ⟨hle, Nat.lt_of_lt_of_eq hhigh (hwidths _ (m.ranges_subset hrange)).symm⟩

theorem Expr.HasWidth.width_eq (hwidths : m.Respects widths) (he : e.HasWidth m width) :
    e.width widths = width := by
  induction he with
  | ref hr => exact hr.width_eq hwidths
  | literal | negate | any | equal => rfl
  | invert _ ih | group _ ih => exact ih
  | and _ _ ihleft ihright | or _ _ ihleft ihright | add _ _ ihleft ihright =>
    rw [Expr.width, ihleft, ihright, Nat.max_self]
  | choose _ _ _ _ ihyes ihno => rw [Expr.width, ihyes, ihno, Nat.max_self]

theorem ExactAssignment.width_eq (hwidths : m.Respects widths) {assignment : Ref × Expr}
    (hexact : ExactAssignment m assignment) :
    assignment.1.width widths = assignment.2.width widths := by
  obtain ⟨width, htarget, hvalue⟩ := hexact
  rw [htarget.width_eq hwidths, hvalue.width_eq hwidths]

/-! ### Statements -/

namespace Stmt

@[simp] theorem exact_skip : skip.Exact m :=
  List.forall_mem_nil _

@[simp] theorem exact_comment {text : String} : (comment text).Exact m :=
  List.forall_mem_nil _

@[simp] theorem exact_seq {first second : Stmt} :
    (seq first second).Exact m ↔ first.Exact m ∧ second.Exact m :=
  List.forall_mem_append

@[simp] theorem exact_branch {condition : Expr} {yes no : Stmt} :
    (branch condition yes no).Exact m ↔ yes.Exact m ∧ no.Exact m :=
  List.forall_mem_append

@[simp] theorem exact_when {condition : Expr} {body : Stmt} :
    (Stmt.when condition body).Exact m ↔ body.Exact m := by
  simp only [Stmt.when, exact_branch, exact_skip, and_true]

@[simp] theorem exact_block {body : Stmt} : (block body).Exact m ↔ body.Exact m :=
  Iff.rfl

@[simp] theorem exact_nonblocking {column : Nat} {target : Ref} {value : Expr} :
    (nonblocking column target value).Exact m ↔ ExactAssignment m (target, value) :=
  List.forall_mem_singleton

@[simp] theorem exact_ofList {stmts : List Stmt} :
    (ofList stmts).Exact m ↔ ∀ s ∈ stmts, s.Exact m := by
  induction stmts with
  | nil => simp [ofList]
  | cons s rest ih =>
    cases rest with
    | nil => simp [ofList]
    | cons next rest => rw [ofList.eq_3 _ _ (by simp), exact_seq, ih, ← List.forall_mem_cons]

/-- A whole signal takes a value of its declared width. -/
theorem exact_store {value : Expr} {column : Nat} (hmem : (name, width) ∈ m.declarations)
    (hvalue : value.HasWidth m width) : (store name value column).Exact m :=
  exact_nonblocking.mpr ⟨width, hmem, hvalue⟩

end Stmt

end RegisterFile.Verilog
