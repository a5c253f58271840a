import RegisterFile.Proofs.Verilog.Step

/-!
Steps signal by signal. A block that only assigns whole signals leaves for each of them the value
of the last assignment it makes, and the others as they are.
-/

namespace RegisterFile.Verilog

variable {widths : Widths} {e : Env} {name : String} {i : Nat}

/-- The value that a whole signal takes up from an expression. -/
def Expr.stored (widths : Widths) (e : Env) (name : String) (x : Expr) : Word :=
  x.evalFor widths e ⟨name, .whole⟩ &&& Word.lowMask (widths name)

theorem Expr.fitsIn_stored (x : Expr) : (x.stored widths e name).FitsIn (widths name) :=
  Word.fitsIn_and_lowMask _ _

theorem Expr.stored_bit (hbit : widths name = 1) (b : Bool) :
    (Expr.bit b).stored widths e name = flag b := by
  rw [stored, evalFor, eval_bit, hbit, (fitsIn_flag b).and_lowMask]

/-- A condition is stored as the bit that tells whether it holds. -/
theorem Expr.stored_condition {x : Expr} (hbit : widths name = 1) (hwidth : x.width widths = 1) :
    x.stored widths e name = flag (x.holds widths e) := by
  have hcontext : max ((Ref.mk name .whole).width widths) (x.width widths) = 1 := by
    rw [Ref.width, hbit, hwidth, Nat.max_self]
  rw [stored, evalFor, hcontext, eval_eq_flag hwidth, hbit, (fitsIn_flag _).and_lowMask]

/-- A signal of the same width is copied. -/
theorem Expr.stored_signal {other : String} (hwidth : widths other = widths name) :
    (Expr.signal other).stored widths e name = e.value widths other := by
  have hfits : (e.value widths other).FitsIn (widths name) := hwidth ▸ Env.fitsIn_value
  rw [stored, evalFor, signal, eval, Env.read_whole, hfits.and_lowMask]

/-- A literal of the width of the signal. -/
theorem Expr.stored_literal {radix : Radix} {width : Nat} (hwidth : widths name = width)
    (value : Word) :
    (Expr.literal radix width value).stored widths e name = value &&& Word.lowMask width := by
  rw [stored, evalFor, eval, hwidth, (Word.fitsIn_and_lowMask value width).and_lowMask]

theorem Expr.stored_choose {condition yes no : Expr} (hyes : yes.width widths ≤ widths name)
    (hno : no.width widths ≤ widths name) :
    (Expr.choose condition yes no).stored widths e name =
      if condition.holds widths e then yes.stored widths e name else no.stored widths e name := by
  have hchoose : max (widths name) (max (yes.width widths) (no.width widths)) = widths name := by
    omega
  simp only [stored, evalFor, Ref.width, width, hchoose, Nat.max_eq_left hyes,
    Nat.max_eq_left hno, eval, holds, bne_iff_ne]
  by_cases hzero : condition.eval widths e (condition.width widths) = 0
  · rw [if_pos hzero, if_neg (not_not_intro hzero)]
  · rw [if_neg hzero, if_pos hzero]

namespace Stmt

/-- The value that a statement leaves for a signal, if it assigns it. -/
def assigned (widths : Widths) (e : Env) (name : String) : Stmt → Option Word
  | seq first second => (second.assigned widths e name).or (first.assigned widths e name)
  | nonblocking _ target value =>
    if name = target.name then some (value.stored widths e name) else none
  | branch condition yes no =>
    if condition.holds widths e then yes.assigned widths e name else no.assigned widths e name
  | block body => body.assigned widths e name
  | _ => none

/-- A statement of nonblocking assignments to whole signals only. -/
def isWhole : Stmt → Bool
  | seq first second => first.isWhole && second.isWhole
  | nonblocking _ target _ => target.select == .whole
  | branch _ yes no => yes.isWhole && no.isWhole
  | block body => body.isWhole
  | blocking _ _ | select _ _ _ => false
  | _ => true

theorem isClocked_of_isWhole {s : Stmt} (hwhole : s.isWhole = true) : s.isClocked = true := by
  induction s with
  | seq first second ihf ihs =>
    simp only [isWhole, Bool.and_eq_true] at hwhole
    exact Bool.and_eq_true_iff.mpr ⟨ihf hwhole.1, ihs hwhole.2⟩
  | branch condition yes no ihy ihn =>
    simp only [isWhole, Bool.and_eq_true] at hwhole
    exact Bool.and_eq_true_iff.mpr ⟨ihy hwhole.1, ihn hwhole.2⟩
  | block body ih => exact ih hwhole
  | blocking target value => cases hwhole
  | select subject arms default => cases hwhole
  | _ => rfl

theorem fitsIn_assigned {s : Stmt} {value : Word} (hvalue : s.assigned widths e name = some value) :
    value.FitsIn (widths name) := by
  induction s with
  | seq first second ihf ihs =>
    rcases Option.or_eq_some_iff.mp hvalue with hsecond | ⟨-, hfirst⟩
    · exact ihs hsecond
    · exact ihf hfirst
  | nonblocking column target source =>
    obtain ⟨-, hsome⟩ := Option.ite_none_right_eq_some.mp hvalue
    rw [← Option.some.inj hsome]
    exact source.fitsIn_stored
  | branch condition yes no ihy ihn =>
    simp only [assigned] at hvalue
    split at hvalue
    · exact ihy hvalue
    · exact ihn hvalue
  | block body ih => exact ih hvalue
  | _ => cases hvalue

/-- Bit by bit, what is assigned is the effect of the statement. -/
theorem effect_of_isWhole {s : Stmt} (hwhole : s.isWhole = true) (hi : i < widths name)
    (hword : i < 128) :
    s.effect widths e name i = (s.assigned widths e name).map (·.getLsbD i) := by
  induction s with
  | seq first second ihf ihs =>
    simp only [isWhole, Bool.and_eq_true] at hwhole
    rw [effect_seq (isClocked_of_isWhole hwhole.1), ihf hwhole.1, ihs hwhole.2, assigned,
      Option.map_or]
  | nonblocking column target source =>
    obtain ⟨base, select⟩ := target
    obtain rfl : select = .whole := beq_iff_eq.mp hwhole
    rw [effect_nonblocking, assigned]
    by_cases hname : name = base
    · subst hname
      have hcovers : (Ref.mk name .whole).covers widths i = true := by
        simp [Ref.covers, Ref.low, Ref.width, hi]
      rw [if_pos ⟨rfl, hcovers⟩, if_pos rfl, Option.map_some, Expr.stored, BitVec.getLsbD_and,
        Word.getLsbD_lowMask, decide_eq_true hi, decide_eq_true hword, Bool.and_true,
        Bool.and_true]
      rfl
    · rw [if_neg fun h => hname h.1, if_neg hname, Option.map_none]
  | branch condition yes no ihy ihn =>
    simp only [isWhole, Bool.and_eq_true] at hwhole
    rw [effect_branch, ihy hwhole.1, ihn hwhole.2, assigned]
    split <;> rfl
  | block body ih => exact ih hwhole
  | blocking target source => cases hwhole
  | select subject arms default => cases hwhole
  | _ => rfl

/-- A signal after the step of such a statement. -/
theorem value_step {s : Stmt} (hwhole : s.isWhole = true) :
    (s.step widths e).value widths name =
      (s.assigned widths e name).getD (e.value widths name) := by
  have hfits : ((s.assigned widths e name).getD (e.value widths name)).FitsIn (widths name) := by
    cases hvalue : s.assigned widths e name with
    | none => exact Env.fitsIn_value
    | some value => exact fitsIn_assigned hvalue
  apply Env.fitsIn_value.ext hfits
  intro i hi hword
  rw [Env.getLsbD_value hword, decide_eq_true hi, Bool.and_true,
    getLsbD_step (isClocked_of_isWhole hwhole) hword, effect_of_isWhole hwhole hi hword]
  cases s.assigned widths e name with
  | none =>
    rw [Option.map_none, Option.getD_none, Option.getD_none, Env.getLsbD_value hword,
      decide_eq_true hi, Bool.and_true]
  | some value => rfl

end Stmt

/-- An assignment under a condition, over what there is otherwise. -/
@[simp] theorem getD_ite_some {condition : Prop} [Decidable condition] (now before : Word)
    (otherwise : Option Word) :
    (if condition then some now else otherwise).getD before =
      if condition then now else otherwise.getD before := by
  split <;> rfl

/-! ### Signals of one bit -/

/-- Whether a signal is high. -/
def Env.high (widths : Widths) (e : Env) (name : String) : Bool :=
  e.value widths name != 0

theorem Expr.holds_signal_eq_high : (signal name).holds widths e = e.high widths name :=
  holds_signal

theorem Expr.holds_invertSignal (hbit : widths name = 1) :
    (invertSignal name).holds widths e = !e.high widths name := by
  have hwidth : (signal name).width widths = 1 := hbit
  rw [invertSignal, holds_invert hwidth, holds_signal_eq_high]

theorem Env.high_of_value {b : Bool} (hvalue : e.value widths name = flag b) :
    e.high widths name = b := by
  rw [high, hvalue, flag_bne_zero]

/-- A constant, wire or output of one bit is high if its expression holds. -/
theorem Item.Holds.high_assign {column : Nat} {x : Expr} (hbit : widths name = 1)
    (hwidth : x.width widths = 1) (hholds : (Item.assign column name x).Holds widths e) :
    e.high widths name = x.holds widths e := by
  have hwire : (Item.wire 0 name x).Holds widths e := hholds
  exact Env.high_of_value (hwire.value_wire hbit hwidth)

/-! ### Clocked blocks -/

/-- A clock edge under an item: what a clocked block assigns has the values of its step. -/
def Item.Steps (widths : Widths) (e e' : Env) : Item → Prop
  | always .clock body | always .clockOrReset body =>
    ∀ name ∈ body.targets, e'.value widths name = (body.step widths e).value widths name
  | _ => True

instance (widths : Widths) (e e' : Env) : (item : Item) → Decidable (item.Steps widths e e')
  | .always .clock body | .always .clockOrReset body =>
    inferInstanceAs (Decidable (∀ name ∈ body.targets,
      e'.value widths name = (body.step widths e).value widths name))
  | .always .change _ | .localparam _ _ _ | .wire _ _ _ | .assign _ _ _ | .blank | .comment _
  | .reg _ _ _ => inferInstanceAs (Decidable True)

variable {e' : Env} {reset : Reset} {onReset otherwise : Stmt}

/-- What a sequential block assigns under reset, it has after an edge from the branch that runs. -/
theorem Item.Steps.value_sequential
    (hsteps : (reset.sequential onReset otherwise).Steps widths e e')
    (hreset : onReset.isWhole = true) (hotherwise : otherwise.isWhole = true)
    (hname : name ∈ onReset.targets) :
    e'.value widths name =
      (if reset.active.holds widths e then onReset.assigned widths e name
        else otherwise.assigned widths e name).getD (e.value widths name) := by
  have hblock : ∀ name ∈ (Stmt.branch reset.active onReset otherwise).targets,
      e'.value widths name =
        ((Stmt.branch reset.active onReset otherwise).step widths e).value widths name := by
    cases reset <;> exact hsteps
  have hwhole : (Stmt.branch reset.active onReset otherwise).isWhole = true :=
    Bool.and_eq_true_iff.mpr ⟨hreset, hotherwise⟩
  rw [hblock name (List.mem_append_left _ hname), Stmt.value_step hwhole]
  rfl

end RegisterFile.Verilog
