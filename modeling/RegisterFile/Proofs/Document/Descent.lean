import RegisterFile.Proofs.Document.Expression

/-!
The descent through an expression. An activation reads one level of the grammar from some tokens;
it starts other activations on tokens of which there are fewer, or on a lower level, and performs
the operations in between. An activation fails as the first of those fails that it starts.
-/

namespace RegisterFile.Document

/-- A step of arithmetic. -/
inductive Operation where
  | add (left right : Int)
  | subtract (left right : Int)
  | multiply (left right : Int)
  | divide (left right : Int)
  | negate (operand : Int)
  deriving DecidableEq, Repr

/-- The numbers of 128 bits with a sign. -/
def InRange (value : Int) : Prop :=
  -2 ^ 127 ≤ value ∧ value < 2 ^ 127

instance (value : Int) : Decidable (InRange value) :=
  inferInstanceAs (Decidable (_ ∧ _))

namespace Operation

/-- What comes out of an operation in a scope. -/
def result (scope : Scope) : Operation → Except Error Int
  | add left right => scope.checked (left + right)
  | subtract left right => scope.checked (left - right)
  | multiply left right => scope.checked (left * right)
  | divide left right => scope.quotient left right
  | negate operand => .ok (Scope.opposite operand)

/-- The exact result, with quotients rounded toward zero. -/
def exact : Operation → Int
  | add left right => left + right
  | subtract left right => left - right
  | multiply left right => left * right
  | divide left right => left.tdiv right
  | negate operand => -operand

/-- What a division divides by. -/
def divisor? : Operation → Option Int
  | divide _ right => some right
  | _ => none

/-- The operation is no division by zero, and its exact result is in range. -/
def Fits (operation : Operation) : Prop :=
  operation.divisor? ≠ some 0 ∧ InRange operation.exact

instance (operation : Operation) : Decidable operation.Fits :=
  inferInstanceAs (Decidable (_ ∧ _))

end Operation

namespace Scope

theorem inRange_iff {value : Int} : InRange value ↔ minValue ≤ value ∧ value < valueBound := by
  rw [InRange, minValue, show valueBound = 2 ^ 127 from rfl]

theorem checked_of_inRange (scope : Scope) {value : Int} (hrange : InRange value) :
    scope.checked value = .ok value :=
  if_pos (inRange_iff.mp hrange)

theorem lookup_of_inRange {scope : Scope} {name : String} {value : Word}
    (hlookup : scope.parameters.lookup name = some value) (hrange : InRange value.toNat) :
    scope.lookup name = .ok value.toNat := by
  rw [lookup, hlookup]
  exact scope.checked_of_inRange hrange

theorem checked_eq_ok {scope : Scope} {value result : Int}
    (hok : scope.checked value = .ok result) : result = value ∧ InRange value := by
  unfold checked at hok
  split at hok
  · next hrange =>
    cases hok
    exact ⟨rfl, inRange_iff.mpr hrange⟩
  · cases hok

theorem inRange_opposite {operand : Int} (hrange : InRange operand) :
    InRange (opposite operand) := by
  unfold opposite
  rw [inRange_iff, minValue] at *
  split <;> omega

theorem opposite_eq_neg {operand : Int} (hrange : InRange (-operand)) :
    opposite operand = -operand := by
  rw [inRange_iff, minValue] at hrange
  rw [opposite, if_neg]
  rw [minValue]
  omega

end Scope

namespace Operation

variable {scope : Scope}

/-- An operation that fits has its exact result. -/
theorem Fits.result {operation : Operation} (hfits : operation.Fits) :
    operation.result scope = .ok operation.exact := by
  obtain ⟨hdivides, hrange⟩ := hfits
  cases operation with
  | add | subtract | multiply => exact scope.checked_of_inRange hrange
  | divide left right =>
    have hdivisor : right ≠ 0 := fun hzero => hdivides (congrArg some hzero)
    rw [Operation.result, Scope.quotient, if_neg hdivisor]
    exact scope.checked_of_inRange hrange
  | negate operand => rw [Operation.result, Scope.opposite_eq_neg hrange, exact]

/-- Every result is in range. -/
theorem inRange_of_result {operation : Operation} {value : Int}
    (hoperand : ∀ operand, operation = .negate operand → InRange operand)
    (hresult : operation.result scope = .ok value) : InRange value := by
  cases operation with
  | add | subtract | multiply =>
    obtain ⟨rfl, hrange⟩ := Scope.checked_eq_ok hresult
    exact hrange
  | divide left right =>
    rw [result, Scope.quotient] at hresult
    split at hresult
    · cases hresult
    · obtain ⟨rfl, hrange⟩ := Scope.checked_eq_ok hresult
      exact hrange
  | negate operand =>
    cases hresult
    exact Scope.inRange_opposite (hoperand operand rfl)

end Operation

/-- The levels of the grammar. A product joins atoms and a sum joins products. -/
inductive Level where
  | atom
  | product
  | sum

namespace Level

/-- The level of the parts that a level joins. -/
def below : Level → Level
  | atom | product => atom
  | sum => product

/-- How many levels are below. -/
def rank : Level → Nat
  | atom => 0
  | product => 1
  | sum => 2

theorem rank_below_lt {level : Level} (hlevel : level ≠ atom) : level.below.rank < level.rank := by
  cases level
  · exact absurd rfl hlevel
  all_goals decide

end Level

/-- The signs that join the parts of a level. -/
inductive Sign : Level → Type where
  | times : Sign .product
  | slash : Sign .product
  | plus : Sign .sum
  | minus : Sign .sum

namespace Sign

def token {level : Level} : Sign level → Token
  | times => .times
  | slash => .slash
  | plus => .plus
  | minus => .minus

/-- The operation that a sign stands for. -/
def operation {level : Level} : Sign level → Int → Int → Operation
  | times => .multiply
  | slash => .divide
  | plus => .add
  | minus => .subtract

end Sign

/-- None of the signs of a level comes next. -/
def Level.Ends (level : Level) (tokens : List Token) : Prop :=
  ∀ sign : Sign level, tokens.head? ≠ some sign.token

theorem Level.ends_or (level : Level) (tokens : List Token) :
    level.Ends tokens ∨ ∃ (sign : Sign level) (more : List Token), tokens = sign.token :: more := by
  refine or_iff_not_imp_left.mpr fun hends => ?_
  obtain ⟨sign, hsign⟩ := not_forall_not.mp hends
  obtain ⟨more, hmore⟩ := List.head?_eq_some_iff.mp hsign
  exact ⟨sign, more, hmore⟩

/-- A step of the descent. -/
inductive Activation where
  /-- Some tokens are read at a level. -/
  | read (level : Level) (tokens : List Token)
  /-- What was read at a level so far has a value, and the reading goes on. -/
  | goOn (level : Level) (value : Int) (tokens : List Token)

/-- The value and the tokens behind it, without the proof that they are fewer. -/
def Scope.Reading.plain {bound : Nat} (reading : Scope.Reading bound) : Int × List Token :=
  (reading.1, reading.2.1)

namespace Scope.Reading

variable {bound wider : Nat}

/-- What is read behind a first reading does not need the proofs. -/
theorem map_plain_bind (first : Except Error (Scope.Reading bound))
    {next : Scope.Reading bound → Except Error (Scope.Reading wider)}
    {follow : Int × List Token → Except Error (Int × List Token)}
    (hnext : ∀ reading, (next reading).map plain = follow reading.plain) :
    (first >>= next).map plain = first.map plain >>= follow := by
  cases first with
  | error e => rfl
  | ok reading => exact hnext reading

theorem map_plain_step (step : Except Error Int)
    (next : Int → Except Error (Scope.Reading bound)) :
    (step >>= next).map plain = step >>= fun value => (next value).map plain := by
  cases step <;> rfl

theorem map_plain_weaken (reading : Except Error (Scope.Reading bound)) (hwider : bound ≤ wider) :
    (reading >>= fun reading => pure (reading.weaken hwider)).map plain = reading.map plain := by
  cases reading <;> rfl

end Scope.Reading

namespace Activation

open Scope.Reading

/-- The value that an activation reads and the tokens behind it. -/
def run (scope : Scope) : Activation → Except Error (Int × List Token)
  | read .sum tokens => (scope.sum tokens).map plain
  | read .product tokens => (scope.product tokens).map plain
  | read .atom tokens => (scope.atom tokens).map plain
  | goOn .sum value tokens => (scope.moreSum value tokens).map plain
  | goOn .product value tokens => (scope.moreProduct value tokens).map plain
  | goOn .atom value tokens => .ok (value, tokens)

variable {scope : Scope} {level : Level}

/-- A reading starts with a part from the level below. -/
theorem run_read (hlevel : level ≠ .atom) (tokens : List Token) :
    run scope (.read level tokens) =
      (run scope (.read level.below tokens) >>= fun (value, rest) =>
        run scope (.goOn level value rest)) := by
  cases level with
  | atom => exact absurd rfl hlevel
  | product =>
    simp only [run, Level.below, Scope.product]
    exact map_plain_bind _ fun reading => map_plain_weaken _ _
  | sum =>
    simp only [run, Level.below, Scope.sum]
    exact map_plain_bind _ fun reading => map_plain_weaken _ _

/-- It goes on behind a sign of its level with another part. -/
theorem run_goOn (value : Int) (sign : Sign level) (more : List Token) :
    run scope (.goOn level value (sign.token :: more)) =
      (run scope (.read level.below more) >>= fun (operand, rest) =>
        (sign.operation value operand).result scope >>= fun next =>
          run scope (.goOn level next rest)) := by
  cases sign
  all_goals
    simp only [run, Level.below, Sign.token, Scope.moreSum, Scope.moreProduct]
    exact map_plain_bind _ fun reading => (map_plain_step _ _).trans
      (congrArg _ (funext fun next => map_plain_weaken _ _))

theorem run_goOn_end (value : Int) {tokens : List Token} (hends : level.Ends tokens) :
    run scope (.goOn level value tokens) = .ok (value, tokens) := by
  cases level with
  | atom => rfl
  | product =>
    simp only [run]
    unfold Scope.moreProduct
    split
    · exact absurd rfl (hends .times)
    · exact absurd rfl (hends .slash)
    · rfl
  | sum =>
    simp only [run]
    unfold Scope.moreSum
    split
    · exact absurd rfl (hends .plus)
    · exact absurd rfl (hends .minus)
    · rfl

theorem run_number (value : Word) (rest : List Token) :
    run scope (.read .atom (.number value :: rest)) =
      (scope.checked value.toNat >>= fun value => .ok (value, rest)) := by
  simp only [run]
  unfold Scope.atom
  cases scope.checked value.toNat <;> rfl

theorem run_symbol (name : String) (rest : List Token) :
    run scope (.read .atom (.symbol name :: rest)) =
      (scope.lookup name >>= fun value => .ok (value, rest)) := by
  simp only [run]
  unfold Scope.atom
  cases scope.lookup name <;> rfl

theorem run_opposite (more : List Token) :
    run scope (.read .atom (.minus :: more)) =
      (run scope (.read .atom more) >>= fun (operand, rest) =>
        (Operation.negate operand).result scope >>= fun value => .ok (value, rest)) := by
  simp only [run]
  conv_lhs => unfold Scope.atom
  exact map_plain_bind _ fun reading => rfl

/-- What stands behind an opening parenthesis is a sum with a closing one behind it. -/
theorem run_group (more : List Token) :
    run scope (.read .atom (.opening :: more)) =
      (run scope (.read .sum more) >>= fun
        | (value, .closing :: rest) => .ok (value, rest)
        | _ => .error scope.invalid) := by
  simp only [run]
  unfold Scope.atom
  cases scope.sum more with
  | error e => rfl
  | ok reading =>
    obtain ⟨value, rest, hrest⟩ := reading
    cases rest with
    | nil => rfl
    | cons token rest => cases token <;> rfl

/-- No other token starts an atom. -/
def StartsAtom : Token → Prop
  | .number _ | .symbol _ | .opening | .minus => True
  | _ => False

theorem run_atom_invalid {tokens : List Token}
    (hstart : ∀ token ∈ tokens.head?, ¬ StartsAtom token) :
    run scope (.read .atom tokens) = .error scope.invalid := by
  simp only [run]
  unfold Scope.atom
  split
  · exact absurd trivial (hstart _ rfl)
  · exact absurd trivial (hstart _ rfl)
  · exact absurd trivial (hstart _ rfl)
  · exact absurd trivial (hstart _ rfl)
  · rfl

/-! ### Calls -/

/-- One activation starts another one. -/
inductive Calls (scope : Scope) : Activation → Activation → Prop
  | part {level tokens} (hlevel : level ≠ .atom) :
    Calls scope (.read level tokens) (.read level.below tokens)
  | rest {level tokens value rest} (hlevel : level ≠ .atom)
    (hpart : run scope (.read level.below tokens) = .ok (value, rest)) :
    Calls scope (.read level tokens) (.goOn level value rest)
  | operand {level value more} (sign : Sign level) :
    Calls scope (.goOn level value (sign.token :: more)) (.read level.below more)
  | next {level value more operand rest next} (sign : Sign level)
    (hoperand : run scope (.read level.below more) = .ok (operand, rest))
    (hnext : (sign.operation value operand).result scope = .ok next) :
    Calls scope (.goOn level value (sign.token :: more)) (.goOn level next rest)
  | group {more} : Calls scope (.read .atom (.opening :: more)) (.read .sum more)
  | opposite {more} : Calls scope (.read .atom (.minus :: more)) (.read .atom more)

/-- An activation performs an operation itself, not through another one. -/
inductive Performs (scope : Scope) : Activation → Operation → Prop
  | join {level value more operand rest} (sign : Sign level)
    (hoperand : run scope (.read level.below more) = .ok (operand, rest)) :
    Performs scope (.goOn level value (sign.token :: more)) (sign.operation value operand)
  | opposite {more operand rest} (hoperand : run scope (.read .atom more) = .ok (operand, rest)) :
    Performs scope (.read .atom (.minus :: more)) (.negate operand)

/-- How many tokens there are, and how many levels of the grammar below. -/
def size : Activation → Nat × Nat
  | read level tokens => (tokens.length, level.rank)
  | goOn level _ tokens => (tokens.length, level.rank)

theorem length_lt_of_map_plain {bound : Nat} {reading : Except Error (Scope.Reading bound)}
    {value : Int} {rest : List Token} (hread : reading.map plain = .ok (value, rest)) :
    rest.length < bound := by
  cases reading with
  | error e => cases hread
  | ok reading =>
    cases hread
    exact reading.2.2

/-- A reading uses up some tokens. -/
theorem length_lt_of_run_read {tokens rest : List Token} {value : Int}
    (hread : run scope (.read level tokens) = .ok (value, rest)) : rest.length < tokens.length := by
  cases level <;> exact length_lt_of_map_plain hread

/-- A call is about fewer tokens, or about as many on a lower level. -/
theorem Calls.size_lt {outer inner : Activation} (hcall : Calls scope outer inner) :
    Prod.Lex (· < ·) (· < ·) inner.size outer.size := by
  cases hcall with
  | part hlevel => exact .right _ (Level.rank_below_lt hlevel)
  | rest _ hpart => exact .left _ _ (length_lt_of_run_read hpart)
  | operand | group | opposite => exact .left _ _ (Nat.lt_succ_self _)
  | next _ hoperand => exact .left _ _ (Nat.lt_succ_of_lt (length_lt_of_run_read hoperand))

/-- No activation starts others without end. -/
theorem wellFounded_calls (scope : Scope) :
    WellFounded fun inner outer => Calls scope outer inner :=
  Subrelation.wf (fun hcall => hcall.size_lt)
    (InvImage.wf size (WellFounded.prod_lex Nat.lt_wfRel.wf Nat.lt_wfRel.wf))

end Activation

/-- An expression is read as a sum. Nothing may be left over, and the value must not be negative. -/
theorem expressionValue_eq (expression : String) (parameters : Parameters) :
    expressionValue expression parameters =
      (Token.scan expression >>= fun tokens =>
        Activation.run ⟨expression, parameters⟩ (.read .sum tokens) >>= fun (value, rest) =>
          if rest.isEmpty && 0 ≤ value then .ok (BitVec.ofNat 128 value.toNat)
          else .error (.invalidExpression expression)) := by
  rw [expressionValue]
  refine congrArg _ (funext fun tokens => ?_)
  rw [Activation.run]
  cases Scope.sum ⟨expression, parameters⟩ tokens <;> rfl

end RegisterFile.Document
