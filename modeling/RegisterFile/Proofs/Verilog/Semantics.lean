import RegisterFile.Proofs.Verilog.Declarations
import RegisterFile.Proofs.Word

/-!
The meaning of Verilog trees, with two values for a bit. An expression is evaluated in a context
of some width, to which its operands are extended; an assignment gives the wider of its two sides
as the context and cuts the value to its target. A blocking assignment takes effect at once, a
nonblocking one at the end of the step, where of several assignments to one bit the last one
counts.
-/

namespace RegisterFile.Verilog

/-- The values of signals. Bits beyond the width of a signal mean nothing. -/
abbrev Env := String → Word

/-- One bit as a word. -/
def flag (b : Bool) : Word :=
  if b then 1 else 0

/-- The lowest bit that is meant. -/
def Ref.low : Ref → Nat
  | ⟨_, .whole⟩ => 0
  | ⟨_, .bit index⟩ => index
  | ⟨_, .bits _ low⟩ => low

/-- Whether a bit of the signal is meant. -/
def Ref.covers (widths : Widths) (ref : Ref) (i : Nat) : Bool :=
  ref.low ≤ i && i < ref.low + ref.width widths && i < widths ref.name

namespace Env

variable (widths : Widths)

/-- The bits that are meant, moved down to be right-aligned. -/
def read (e : Env) (ref : Ref) : Word :=
  (e ref.name &&& Word.lowMask (widths ref.name)).takeFrom ref.low &&&
    Word.lowMask (ref.width widths)

/-- The value of a whole signal. -/
def value (e : Env) (name : String) : Word :=
  e name &&& Word.lowMask (widths name)

/-- Puts a right-aligned value in the place of the bits that are meant. -/
def assign (e : Env) (update : Ref × Word) : Env := fun name =>
  if name = update.1.name then
    Word.overlay ((Word.lowMask (update.1.width widths)).placeAt update.1.low &&&
      Word.lowMask (widths name)) (e name) (update.2.placeAt update.1.low)
  else e name

end Env

namespace Expr

variable (widths : Widths) (e : Env)

/-- The value of an expression in a context of some width. -/
def eval : Nat → Expr → Word
  | _, ref r => e.read widths r
  | _, literal _ width value => value &&& Word.lowMask width
  | context, invert x => ~~~x.eval context &&& Word.lowMask context
  | _, negate x => flag (x.eval (x.width widths) == 0)
  | _, any x => flag (x.eval (x.width widths) != 0)
  | context, and left right => left.eval context &&& right.eval context
  | context, or left right => left.eval context ||| right.eval context
  | _, equal left right =>
    let context := max (left.width widths) (right.width widths)
    flag (left.eval context == right.eval context)
  | context, add left right =>
    (left.eval context + right.eval context) &&& Word.lowMask context
  | context, choose condition yes no =>
    if condition.eval (condition.width widths) = 0 then no.eval context else yes.eval context
  | context, group x => x.eval context

/-- Whether an expression counts as true. -/
def holds (x : Expr) : Bool :=
  x.eval widths e (x.width widths) != 0

/-- The value that an assignment to a target takes. -/
def evalFor (target : Ref) (x : Expr) : Word :=
  x.eval widths e (max (target.width widths) (x.width widths))

end Expr

/-- The assignment that a choice comes to. -/
def chosen (widths : Widths) (e : Env) (subject : Ref) (arms : List (String × Ref × Expr))
    (default : Option (Ref × Expr)) : Option (Ref × Expr) :=
  match arms.find? fun arm => (Expr.equal (.ref subject) (.signal arm.1)).holds widths e with
  | some arm => some arm.2
  | none => default

namespace Stmt

variable (widths : Widths)

/-- The values after the blocking assignments of a statement. -/
def blocked (e : Env) : Stmt → Env
  | seq first second => second.blocked (first.blocked e)
  | blocking target value => e.assign widths (target, value.evalFor widths e target)
  | branch condition yes no => if condition.holds widths e then yes.blocked e else no.blocked e
  | block body => body.blocked e
  | select subject arms default =>
    match chosen widths e subject arms default with
    | some (target, value) => e.assign widths (target, value.evalFor widths e target)
    | none => e
  | _ => e

/-- The nonblocking assignments that a statement leaves for the end of the step. -/
def pending (e : Env) : Stmt → List (Ref × Word)
  | seq first second => first.pending e ++ second.pending (first.blocked widths e)
  | nonblocking _ target value => [(target, value.evalFor widths e target)]
  | branch condition yes no => if condition.holds widths e then yes.pending e else no.pending e
  | block body => body.pending e
  | _ => []

/-- The values after the step of a statement. -/
def step (e : Env) (s : Stmt) : Env :=
  (s.pending widths e).foldl (Env.assign widths) (s.blocked widths e)

/-- The signals that a statement assigns. -/
def targets : Stmt → List String
  | seq first second => first.targets ++ second.targets
  | nonblocking _ target _ | blocking target _ => [target.name]
  | branch _ yes no => yes.targets ++ no.targets
  | block body => body.targets
  | select _ arms default =>
    arms.map (fun arm => arm.2.1.name) ++ default.toList.map fun assignment => assignment.1.name
  | _ => []

/-- A statement of nonblocking assignments only. -/
def isClocked : Stmt → Bool
  | seq first second => first.isClocked && second.isClocked
  | branch _ yes no => yes.isClocked && no.isClocked
  | block body => body.isClocked
  | blocking _ _ | select _ _ _ => false
  | _ => true

end Stmt

/-- Values at rest under an item: a constant, wire or output has the value of its expression, and
    running a block that follows its inputs changes nothing. -/
def Item.Holds (widths : Widths) (e : Env) : Item → Prop
  | localparam _ name value | wire _ name value | assign _ name value =>
    e.value widths name = value.evalFor widths e ⟨name, .whole⟩ &&& Word.lowMask (widths name)
  | always .change body =>
    ∀ name ∈ body.targets, (body.blocked widths e).value widths name = e.value widths name
  | _ => True

instance (widths : Widths) (e : Env) : (item : Item) → Decidable (item.Holds widths e)
  | .localparam _ name value | .wire _ name value | .assign _ name value =>
    inferInstanceAs (Decidable (e.value widths name =
      value.evalFor widths e ⟨name, .whole⟩ &&& Word.lowMask (widths name)))
  | .always .change body =>
    inferInstanceAs (Decidable (∀ name ∈ body.targets,
      (body.blocked widths e).value widths name = e.value widths name))
  | .always .clock _ | .always .clockOrReset _ | .blank | .comment _ | .reg _ _ _ =>
    inferInstanceAs (Decidable True)

/-! ### Bits of references -/

section Bits

variable {widths : Widths} {e : Env} {ref : Ref} {name : String} {i : Nat}

theorem fitsIn_flag (b : Bool) : Word.FitsIn (flag b) 1 := by
  intro i hi
  cases b with
  | false => exact BitVec.getLsbD_zero
  | true =>
    have hone : (flag true).getLsbD i = (1#128).getLsbD i := rfl
    rw [hone, BitVec.getLsbD_one]
    simp
    omega

theorem getLsbD_flag (b : Bool) : (flag b).getLsbD 0 = b := by
  cases b <;> rfl

@[simp] theorem flag_bne_zero (b : Bool) : (flag b != 0) = b := by
  cases b <;> rfl

theorem flag_ne_zero_iff (b : Bool) : flag b ≠ 0 ↔ b = true := by
  rw [← bne_iff_ne, flag_bne_zero]

theorem Env.getLsbD_value (hi : i < 128) :
    (e.value widths name).getLsbD i = ((e name).getLsbD i && decide (i < widths name)) := by
  rw [value, BitVec.getLsbD_and, Word.getLsbD_lowMask, decide_eq_true hi, Bool.true_and]

theorem Env.fitsIn_value : (e.value widths name).FitsIn (widths name) :=
  Word.fitsIn_and_lowMask _ _

theorem Env.read_whole : e.read widths ⟨name, .whole⟩ = e.value widths name := by
  have htake : (e.value widths name).takeFrom 0 = e.value widths name := by
    simp [Word.takeFrom]
  rw [read, Ref.low, Ref.width]
  exact (congrArg (· &&& _) htake).trans Env.fitsIn_value.and_lowMask

theorem Env.fitsIn_read : (e.read widths ref).FitsIn (ref.width widths) :=
  Word.fitsIn_and_lowMask _ _

theorem Env.getLsbD_read (hi : i < ref.width widths) (hword : i < 128) :
    (e.read widths ref).getLsbD i = (e.value widths ref.name).getLsbD (ref.low + i) := by
  rw [read, BitVec.getLsbD_and, Word.getLsbD_takeFrom, Word.getLsbD_lowMask,
    decide_eq_true hi, decide_eq_true hword, Bool.and_true, Bool.and_true]
  rfl

/-- An assignment changes the bits that it covers and no others. -/
theorem Env.getLsbD_assign {update : Ref × Word} (hi : i < 128) :
    (e.assign widths update name).getLsbD i =
      if name = update.1.name ∧ update.1.covers widths i = true then
        update.2.getLsbD (i - update.1.low)
      else (e name).getLsbD i := by
  unfold assign
  by_cases hname : name = update.1.name
  · subst hname
    have hmask : ((Word.lowMask (update.1.width widths)).placeAt update.1.low &&&
        Word.lowMask (widths update.1.name)).getLsbD i = update.1.covers widths i := by
      rw [BitVec.getLsbD_and, Word.getLsbD_placeAt, Word.getLsbD_lowMask, Word.getLsbD_lowMask,
        Bool.eq_iff_iff]
      simp only [Ref.covers, Bool.and_eq_true, decide_eq_true_eq]
      omega
    rw [if_pos rfl, Word.getLsbD_overlay, hmask]
    cases hcovers : update.1.covers widths i with
    | false => simp
    | true =>
      have hlow : update.1.low ≤ i := by
        simp only [Ref.covers, Bool.and_eq_true, decide_eq_true_eq] at hcovers
        exact hcovers.1.1
      rw [if_pos rfl, if_pos ⟨rfl, rfl⟩, Word.getLsbD_placeAt, decide_eq_true hi,
        decide_eq_true hlow, Bool.true_and, Bool.true_and]
  · rw [if_neg hname, if_neg fun h => hname h.1]

theorem Env.value_assign_self {value : Word} :
    (e.assign widths (⟨name, .whole⟩, value)).value widths name =
      value &&& Word.lowMask (widths name) := by
  apply Env.fitsIn_value.ext (Word.fitsIn_and_lowMask _ _)
  intro i hi hword
  have hcovers : (Ref.mk name .whole).covers widths i = true := by
    simp [Ref.covers, Ref.low, Ref.width, hi]
  rw [getLsbD_value hword, getLsbD_assign hword, if_pos ⟨rfl, hcovers⟩, BitVec.getLsbD_and,
    Word.getLsbD_lowMask, decide_eq_true hword, Bool.true_and]
  rfl

theorem Env.value_assign_other {other : String} {value : Word} (hne : other ≠ name) :
    (e.assign widths (⟨name, .whole⟩, value)).value widths other = e.value widths other := by
  rw [Env.value, Env.assign, if_neg hne, Env.value]

/-! ### Parts of signals -/

variable {high low width : Nat}

@[simp] theorem Ref.name_part : (part name high low width).name = name := by
  unfold part
  split
  · rfl
  · split <;> rfl

@[simp] theorem Ref.low_part : (part name high low width).low = low := by
  unfold part
  split
  · next hwhole => exact hwhole.1.symm
  · split <;> rfl

theorem Ref.width_part (hwidth : widths name = width) (hle : low ≤ high) :
    (part name high low width).width widths = high - low + 1 := by
  unfold part
  split
  · next hwhole =>
    simp only [Ref.width]
    omega
  · split
    · next hsingle =>
      simp only [Ref.width]
      omega
    · rfl

theorem Ref.covers_part (hwidth : widths name = width) (hle : low ≤ high) (hhigh : high < width) :
    (part name high low width).covers widths i = true ↔ low ≤ i ∧ i ≤ high := by
  simp only [covers, low_part, name_part, width_part hwidth hle, Bool.and_eq_true,
    decide_eq_true_eq]
  omega

theorem Env.getLsbD_read_part (hwidth : widths name = width) (hlow : low ≤ i) (hhigh : i ≤ high)
    (hword : i < 128) :
    (e.read widths (.part name high low width)).getLsbD (i - low) =
      (e.value widths name).getLsbD i := by
  have hin : i - low < (Ref.part name high low width).width widths := by
    rw [Ref.width_part hwidth (Nat.le_trans hlow hhigh)]
    omega
  rw [getLsbD_read hin (by omega), Ref.name_part, Ref.low_part, Nat.add_sub_cancel' hlow]

end Bits

/-! ### Widths of values -/

section Evaluation

variable {widths : Widths} {e : Env}

/-- A value is no wider than its context. -/
theorem Expr.fitsIn_eval (x : Expr) {context : Nat} (hwidth : x.width widths ≤ context) :
    (x.eval widths e context).FitsIn context := by
  induction x generalizing context with
  | ref r => exact Env.fitsIn_read.mono hwidth
  | literal radix width value => exact (Word.fitsIn_and_lowMask _ _).mono hwidth
  | invert x ih => exact Word.fitsIn_and_lowMask _ _
  | negate x ih => exact (fitsIn_flag _).mono hwidth
  | any x ih => exact (fitsIn_flag _).mono hwidth
  | and left right ihl ihr =>
    simp only [Expr.width] at hwidth
    exact (ihl (by omega)).and _
  | or left right ihl ihr =>
    simp only [Expr.width] at hwidth
    exact (ihl (by omega)).or (ihr (by omega))
  | equal left right ihl ihr => exact (fitsIn_flag _).mono hwidth
  | add left right ihl ihr => exact Word.fitsIn_and_lowMask _ _
  | choose condition yes no _ ihy ihn =>
    simp only [Expr.width] at hwidth
    simp only [Expr.eval]
    split
    · exact ihn (by omega)
    · exact ihy (by omega)
  | group x ih => exact ih hwidth

variable {x left right : Expr}

/-- A condition of one bit is told by that bit. -/
theorem Expr.holds_iff_bit (hwidth : x.width widths = 1) :
    x.holds widths e = true ↔ (x.eval widths e 1).getLsbD 0 = true := by
  rw [holds, bne_iff_ne, hwidth]
  exact (x.fitsIn_eval (by omega)).ne_zero_iff

theorem Expr.eval_eq_flag (hwidth : x.width widths = 1) :
    x.eval widths e 1 = flag (x.holds widths e) := by
  apply (x.fitsIn_eval (by omega)).ext (fitsIn_flag _)
  intro i hi _
  obtain rfl : i = 0 := by omega
  rw [getLsbD_flag, Bool.eq_iff_iff, holds_iff_bit hwidth]

/-- A wire of one bit shows whether its expression holds. -/
theorem Item.Holds.value_wire {gap : Nat} {name : String} (hname : widths name = 1)
    (hwidth : x.width widths = 1) (hwire : (Item.wire gap name x).Holds widths e) :
    e.value widths name = flag (x.holds widths e) := by
  have hcontext : max ((Ref.mk name .whole).width widths) (x.width widths) = 1 := by
    rw [Ref.width, hname, hwidth, Nat.max_self]
  simp only [Item.Holds, Expr.evalFor, hcontext, hname, Expr.eval_eq_flag hwidth] at hwire
  rw [hwire, (fitsIn_flag _).and_lowMask]

theorem Expr.holds_and (hleft : left.width widths = 1) (hright : right.width widths = 1) :
    (and left right).holds widths e = (left.holds widths e && right.holds widths e) := by
  have hwidth : (and left right).width widths = 1 := by
    simp only [width, hleft, hright, Nat.max_self]
  rw [Bool.eq_iff_iff, Bool.and_eq_true, holds_iff_bit hwidth, holds_iff_bit hleft,
    holds_iff_bit hright, eval, BitVec.getLsbD_and, Bool.and_eq_true]

theorem Expr.holds_or (hleft : left.width widths = 1) (hright : right.width widths = 1) :
    (or left right).holds widths e = (left.holds widths e || right.holds widths e) := by
  have hwidth : (or left right).width widths = 1 := by
    simp only [width, hleft, hright, Nat.max_self]
  rw [Bool.eq_iff_iff, Bool.or_eq_true, holds_iff_bit hwidth, holds_iff_bit hleft,
    holds_iff_bit hright, eval, BitVec.getLsbD_or, Bool.or_eq_true]

theorem Expr.holds_invert (hwidth : x.width widths = 1) :
    (invert x).holds widths e = !x.holds widths e := by
  have hinvert : (invert x).width widths = 1 := hwidth
  rw [Bool.eq_iff_iff, holds_iff_bit hinvert, eval, BitVec.getLsbD_and, BitVec.getLsbD_not,
    Word.getLsbD_lowMask, Bool.not_eq_true', ← Bool.not_eq_true, holds_iff_bit hwidth]
  simp

@[simp] theorem Expr.holds_group : (group x).holds widths e = x.holds widths e :=
  rfl

theorem Expr.holds_equal :
    (equal left right).holds widths e =
      (left.eval widths e (max (left.width widths) (right.width widths)) ==
        right.eval widths e (max (left.width widths) (right.width widths))) := by
  rw [Bool.eq_iff_iff, holds, bne_iff_ne]
  exact flag_ne_zero_iff _

theorem Expr.holds_any : (any x).holds widths e = x.holds widths e := by
  rw [Bool.eq_iff_iff, holds, bne_iff_ne]
  exact flag_ne_zero_iff _

theorem Expr.eval_bit (b : Bool) (context : Nat) : (Expr.bit b).eval widths e context = flag b := by
  cases b <;> rfl

@[simp] theorem Expr.holds_bit (b : Bool) : (Expr.bit b).holds widths e = b := by
  cases b <;> rfl

theorem Expr.holds_signal {name : String} :
    (signal name).holds widths e = (e.value widths name != 0) := by
  rw [holds, signal, eval, Env.read_whole]

theorem Expr.width_ands {rest : List Expr} (hfirst : x.width widths = 1)
    (hrest : ∀ term ∈ rest, term.width widths = 1) : (ands x rest).width widths = 1 := by
  induction rest generalizing x with
  | nil => exact hfirst
  | cons term rest ih =>
    obtain ⟨hterm, hrest⟩ := List.forall_mem_cons.mp hrest
    refine ih ?_ hrest
    simp only [width, hfirst, hterm, Nat.max_self]

/-- Conditions of one bit joined by a conjunction. -/
theorem Expr.holds_ands {rest : List Expr} (hfirst : x.width widths = 1)
    (hrest : ∀ term ∈ rest, term.width widths = 1) :
    (ands x rest).holds widths e =
      (x.holds widths e && rest.all fun term => term.holds widths e) := by
  induction rest generalizing x with
  | nil => exact (Bool.and_true _).symm
  | cons term rest ih =>
    obtain ⟨hterm, hrest⟩ := List.forall_mem_cons.mp hrest
    have hwidth : (and x term).width widths = 1 := by
      simp only [width, hfirst, hterm, Nat.max_self]
    have hholds := ih hwidth hrest
    rw [holds_and hfirst hterm, Bool.and_assoc] at hholds
    exact hholds

theorem Expr.width_foldl_or {rest : List Expr} (hfirst : x.width widths = 1)
    (hrest : ∀ term ∈ rest, term.width widths = 1) : (rest.foldl or x).width widths = 1 := by
  induction rest generalizing x with
  | nil => exact hfirst
  | cons term rest ih =>
    obtain ⟨hterm, hrest⟩ := List.forall_mem_cons.mp hrest
    refine ih ?_ hrest
    simp only [width, hfirst, hterm, Nat.max_self]

/-- Conditions of one bit joined by a disjunction. -/
theorem Expr.holds_foldl_or {rest : List Expr} (hfirst : x.width widths = 1)
    (hrest : ∀ term ∈ rest, term.width widths = 1) :
    (rest.foldl or x).holds widths e =
      (x.holds widths e || rest.any fun term => term.holds widths e) := by
  induction rest generalizing x with
  | nil => exact (Bool.or_false _).symm
  | cons term rest ih =>
    obtain ⟨hterm, hrest⟩ := List.forall_mem_cons.mp hrest
    have hwidth : (or x term).width widths = 1 := by
      simp only [width, hfirst, hterm, Nat.max_self]
    have hholds := ih hwidth hrest
    rw [holds_or hfirst hterm, Bool.or_assoc] at hholds
    exact hholds

theorem Expr.join?_eq_none {terms : List Expr} (hnone : join? .or terms = none) : terms = [] := by
  cases terms with
  | nil => rfl
  | cons first rest => cases hnone

theorem Expr.width_join? {terms : List Expr} (hterms : ∀ term ∈ terms, term.width widths = 1)
    {joined : Expr} (hjoined : join? .or terms = some joined) : joined.width widths = 1 := by
  cases terms with
  | nil => cases hjoined
  | cons first rest =>
    obtain ⟨hfirst, hrest⟩ := List.forall_mem_cons.mp hterms
    obtain rfl := Option.some.inj hjoined
    exact width_foldl_or hfirst hrest

theorem Expr.holds_join? {terms : List Expr} (hterms : ∀ term ∈ terms, term.width widths = 1)
    {joined : Expr} (hjoined : join? .or terms = some joined) :
    joined.holds widths e = terms.any fun term => term.holds widths e := by
  cases terms with
  | nil => cases hjoined
  | cons first rest =>
    obtain ⟨hfirst, hrest⟩ := List.forall_mem_cons.mp hterms
    obtain rfl := Option.some.inj hjoined
    exact holds_foldl_or hfirst hrest

end Evaluation

end RegisterFile.Verilog
