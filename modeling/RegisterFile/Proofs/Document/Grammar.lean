import RegisterFile.Proofs.Document.Descent

/-!
The grammar of expressions. What is read of some tokens is a phrase: a reading gives the value of
the phrase, evaluated operation by operation from the left, and a phrase is read back from its
tokens. Where all the operations fit, this value is the exact one.
-/

namespace RegisterFile.Document

open Activation

/-- The phrases of each level. Parts are joined from the left. -/
inductive Phrase : Level → Type where
  | number (value : Word) : Phrase .atom
  | symbol (name : String) : Phrase .atom
  | group (inner : Phrase .sum) : Phrase .atom
  | opposite (operand : Phrase .atom) : Phrase .atom
  | part {level : Level} (hlevel : level ≠ .atom) (only : Phrase level.below) : Phrase level
  | join {level : Level} (left : Phrase level) (sign : Sign level) (right : Phrase level.below) :
    Phrase level

namespace Phrase

variable {level : Level}

/-- The tokens of a phrase. -/
def tokens {level : Level} : Phrase level → List Token
  | number value => [.number value]
  | symbol name => [.symbol name]
  | group inner => .opening :: (inner.tokens ++ [.closing])
  | opposite operand => .minus :: operand.tokens
  | part _ only => only.tokens
  | join left sign right => left.tokens ++ sign.token :: right.tokens

/-- The exact value of a phrase, with quotients rounded toward zero. -/
def value (parameters : Parameters) {level : Level} : Phrase level → Int
  | number value => value.toNat
  | symbol name => ((parameters.lookup name).getD 0).toNat
  | group inner => inner.value parameters
  | opposite operand => (Operation.negate (operand.value parameters)).exact
  | part _ only => only.value parameters
  | join left sign right =>
    (sign.operation (left.value parameters) (right.value parameters)).exact

/-- All names have a value, no divisor is zero, and the exact values of the numbers, the names and
    the phrases inside are in range. -/
def Computes (parameters : Parameters) {level : Level} : Phrase level → Prop
  | number value => InRange value.toNat
  | symbol name => ∃ value ∈ parameters.lookup name, InRange value.toNat
  | group inner => inner.Computes parameters
  | opposite operand =>
    operand.Computes parameters ∧ (Operation.negate (operand.value parameters)).Fits
  | part _ only => only.Computes parameters
  | join left sign right => left.Computes parameters ∧ right.Computes parameters ∧
    (sign.operation (left.value parameters) (right.value parameters)).Fits

instance decidableComputes (parameters : Parameters) :
    {level : Level} → (phrase : Phrase level) → Decidable (phrase.Computes parameters)
  | _, number value => inferInstanceAs (Decidable (InRange value.toNat))
  -- Instance search would try all words.
  | _, symbol name => Option.decidableExistsMem (parameters.lookup name)
  | _, group inner => decidableComputes parameters inner
  | _, opposite operand => @instDecidableAnd _ _ (decidableComputes parameters operand) _
  | _, part _ only => decidableComputes parameters only
  | _, join left _ right => @instDecidableAnd _ _ (decidableComputes parameters left)
    (@instDecidableAnd _ _ (decidableComputes parameters right) _)

/-- What comes out of the operations of a phrase, from the left. -/
def evaluate (scope : Scope) {level : Level} : Phrase level → Except Error Int
  | number value => scope.checked value.toNat
  | symbol name => scope.lookup name
  | group inner => inner.evaluate scope
  | opposite operand => do (Operation.negate (← operand.evaluate scope)).result scope
  | part _ only => only.evaluate scope
  | join left sign right => do
    (sign.operation (← left.evaluate scope) (← right.evaluate scope)).result scope

variable {scope : Scope}

/-- What computes evaluates to its exact value. -/
theorem evaluate_of_computes {phrase : Phrase level}
    (hcomputes : phrase.Computes scope.parameters) :
    phrase.evaluate scope = .ok (phrase.value scope.parameters) := by
  induction phrase with
  | number value => exact scope.checked_of_inRange hcomputes
  | symbol name =>
    obtain ⟨value, hlookup, hrange⟩ := hcomputes
    rw [evaluate, Phrase.value, hlookup]
    exact Scope.lookup_of_inRange hlookup hrange
  | group inner ih => exact ih hcomputes
  | opposite operand ih =>
    obtain ⟨hoperand, hfits⟩ := hcomputes
    rw [evaluate, ih hoperand]
    show (Operation.negate _).result scope = _
    exact hfits.result
  | part _ only ih => exact ih hcomputes
  | join left sign right ihleft ihright =>
    obtain ⟨hleft, hright, hfits⟩ := hcomputes
    rw [evaluate, ihleft hleft, ihright hright]
    exact hfits.result

/-- A value that came out is the exact one. -/
theorem value_of_evaluate {phrase : Phrase level} {value : Int}
    (hvalue : phrase.evaluate scope = .ok value) (hcomputes : phrase.Computes scope.parameters) :
    phrase.value scope.parameters = value :=
  Except.ok.inj ((evaluate_of_computes hcomputes).symm.trans hvalue)

/-- Whatever comes out is in range. -/
theorem inRange_of_evaluate {phrase : Phrase level} {value : Int}
    (hvalue : phrase.evaluate scope = .ok value) : InRange value := by
  induction phrase generalizing value with
  | number bits =>
    obtain ⟨rfl, hrange⟩ := Scope.checked_eq_ok hvalue
    exact hrange
  | symbol name =>
    obtain ⟨bits, -, hchecked⟩ := Scope.lookup_eq_ok hvalue
    obtain ⟨rfl, hrange⟩ := Scope.checked_eq_ok hchecked
    exact hrange
  | group inner ih => exact ih hvalue
  | opposite operand ih =>
    obtain ⟨result, hresult, hnegated⟩ := bind_eq_ok_iff.mp hvalue
    exact Operation.inRange_of_result (by rintro _ ⟨⟩; exact ih hresult) hnegated
  | part _ only ih => exact ih hvalue
  | join left sign right =>
    obtain ⟨first, -, hright⟩ := bind_eq_ok_iff.mp hvalue
    obtain ⟨second, -, hresult⟩ := bind_eq_ok_iff.mp hright
    exact Operation.inRange_of_result (by cases sign <;> nofun) hresult

/-- A phrase begins with what an atom begins with. -/
theorem exists_startsAtom (phrase : Phrase level) :
    ∃ token more, phrase.tokens = token :: more ∧ StartsAtom token := by
  induction phrase with
  | number value => exact ⟨_, _, rfl, trivial⟩
  | symbol name => exact ⟨_, _, rfl, trivial⟩
  | group inner => exact ⟨_, _, rfl, trivial⟩
  | opposite operand => exact ⟨_, _, rfl, trivial⟩
  | part hlevel only ih => exact ih
  | join left sign right ih =>
    obtain ⟨token, more, htokens, hstart⟩ := ih
    refine ⟨token, more ++ sign.token :: right.tokens, ?_, hstart⟩
    rw [tokens, htokens, List.cons_append]

/-! ### A phrase is read from its tokens -/

/-- No sign of a lower level comes next. -/
def EndsBelow (level : Level) (rest : List Token) : Prop :=
  level = .sum → Level.product.Ends rest

theorem endsBelow_sign (sign : Sign level) (more : List Token) :
    EndsBelow level (sign.token :: more) := by
  rintro rfl
  cases sign <;> rintro (_ | _) ⟨⟩

theorem endsBelow_nil (level : Level) : EndsBelow level [] :=
  fun _ _ => nofun

/-- Parts are never sums. -/
theorem endsBelow_below (level : Level) (rest : List Token) : EndsBelow level.below rest := by
  cases level <;> nofun

/-- The part of a phrase in front of such tokens ends there. -/
theorem EndsBelow.run_goOn {rest : List Token} (hends : EndsBelow level rest) (value : Int) :
    run scope (.goOn level.below value rest) = .ok (value, rest) := by
  cases level with
  | atom | product => rfl
  | sum => exact run_goOn_end value (hends rfl)

/-- A phrase is read whole in front of tokens that do not go on with its parts. -/
theorem run_tokens (phrase : Phrase level) {rest : List Token} (hends : EndsBelow level rest) :
    run scope (.read level (phrase.tokens ++ rest)) =
      (phrase.evaluate scope >>= fun value => run scope (.goOn level value rest)) := by
  -- `rest` varies: behind an inner phrase stands a sign or a closing parenthesis.
  induction phrase generalizing rest with
  | number value => exact run_number value rest
  | symbol name => exact run_symbol name rest
  | group inner ih =>
    have hclosing : Level.sum.Ends (.closing :: rest) := by rintro (_ | _) ⟨⟩
    have hbelow : EndsBelow .sum (.closing :: rest) := fun _ => by rintro (_ | _) ⟨⟩
    rw [tokens, List.cons_append, List.append_assoc, run_group, List.singleton_append, ih hbelow,
      evaluate, bind_assoc]
    refine congrArg _ (funext fun value => ?_)
    rw [run_goOn_end value hclosing]
    rfl
  | opposite operand ih =>
    rw [tokens, List.cons_append, run_opposite, ih nofun, evaluate, bind_assoc, bind_assoc]
    rfl
  | part hlevel only ih =>
    rw [tokens, run_read hlevel, ih (endsBelow_below _ _), evaluate, bind_assoc]
    refine congrArg _ (funext fun value => ?_)
    rw [hends.run_goOn]
    rfl
  | join left sign right ihleft ihright =>
    rw [tokens, List.append_assoc, List.cons_append, ihleft (endsBelow_sign sign _), evaluate,
      bind_assoc]
    refine congrArg _ (funext fun value => ?_)
    rw [run_goOn, ihright (endsBelow_below _ _), bind_assoc, bind_assoc]
    refine congrArg _ (funext fun operand => ?_)
    rw [hends.run_goOn]
    rfl

/-- All the tokens of a sum are read, and give what comes out of it. -/
theorem run_sum_tokens (tree : Phrase .sum) :
    run scope (.read .sum tree.tokens) =
      (tree.evaluate scope >>= fun value => .ok (value, [])) := by
  have hread : run scope (.read .sum (tree.tokens ++ [])) = _ :=
    tree.run_tokens (endsBelow_nil .sum)
  rw [List.append_nil] at hread
  exact hread.trans (congrArg _ (funext fun value => run_goOn_end value nofun))

/-- A phrase explains a value that comes out of it, and it computes if `exact` holds. -/
structure Explains (scope : Scope) (phrase : Phrase level) (value : Int) (exact : Prop) : Prop where
  evaluates : phrase.evaluate scope = .ok value
  computes : exact → phrase.Computes scope.parameters

namespace Explains

variable {value operand next : Int} {exact stronger : Prop}

theorem mono {phrase : Phrase level} (hphrase : phrase.Explains scope value exact)
    (himplies : stronger → exact) : phrase.Explains scope value stronger :=
  ⟨hphrase.evaluates, fun hstronger => hphrase.computes (himplies hstronger)⟩

theorem number {bits : Word} (hvalue : scope.checked bits.toNat = .ok value) :
    (Phrase.number bits).Explains scope value exact := by
  obtain ⟨rfl, hrange⟩ := Scope.checked_eq_ok hvalue
  exact ⟨hvalue, fun _ => hrange⟩

theorem symbol {name : String} (hvalue : scope.lookup name = .ok value) :
    (Phrase.symbol name).Explains scope value exact := by
  obtain ⟨bits, hbits, hchecked⟩ := Scope.lookup_eq_ok hvalue
  exact ⟨hvalue, fun _ => ⟨bits, hbits, (Scope.checked_eq_ok hchecked).2⟩⟩

theorem opposite {phrase : Phrase .atom} (hphrase : phrase.Explains scope operand exact)
    (hnext : (Operation.negate operand).result scope = .ok next)
    (hfits : exact → (Operation.negate operand).Fits) :
    (Phrase.opposite phrase).Explains scope next exact where
  evaluates := by
    rw [evaluate, hphrase.evaluates]
    exact hnext
  computes hexact := by
    have hcomputes := hphrase.computes hexact
    refine ⟨hcomputes, ?_⟩
    rw [value_of_evaluate hphrase.evaluates hcomputes]
    exact hfits hexact

theorem part (hlevel : level ≠ .atom) {only : Phrase level.below}
    (honly : only.Explains scope value exact) :
    (Phrase.part hlevel only).Explains scope value exact :=
  ⟨honly.evaluates, honly.computes⟩

theorem join {left : Phrase level} {right : Phrase level.below} {sign : Sign level}
    (hleft : left.Explains scope value exact) (hright : right.Explains scope operand exact)
    (hnext : (sign.operation value operand).result scope = .ok next)
    (hfits : exact → (sign.operation value operand).Fits) :
    (Phrase.join left sign right).Explains scope next exact where
  evaluates := by
    rw [evaluate, hleft.evaluates, hright.evaluates]
    exact hnext
  computes hexact := by
    have hleftComputes := hleft.computes hexact
    have hrightComputes := hright.computes hexact
    refine ⟨hleftComputes, hrightComputes, ?_⟩
    rw [value_of_evaluate hleft.evaluates hleftComputes,
      value_of_evaluate hright.evaluates hrightComputes]
    exact hfits hexact

end Explains

end Phrase

/-! ### What is read is a phrase -/

namespace Activation

variable {scope : Scope}

/-- Every operation fits that an activation performs or that is performed below it. -/
def Exact (scope : Scope) (activation : Activation) : Prop :=
  ∀ inner operation, Relation.ReflTransGen (Calls scope) activation inner →
    Performs scope inner operation → operation.Fits

theorem Exact.of_calls {outer inner : Activation} (hexact : Exact scope outer)
    (hcall : Calls scope outer inner) : Exact scope inner :=
  fun next operation hnext => hexact next operation (.head hcall hnext)

theorem Exact.fits {activation : Activation} (hexact : Exact scope activation)
    {operation : Operation} (hperforms : Performs scope activation operation) : operation.Fits :=
  hexact activation operation .refl hperforms

/-- Whatever an activation reads, `tokens` are a phrase with the value that was read, followed by
    the tokens left over. -/
def Yields (scope : Scope) (level : Level) (tokens : List Token) (exact : Prop)
    (activation : Activation) : Prop :=
  ∀ value rest, run scope activation = .ok (value, rest) →
    ∃ phrase : Phrase level, phrase.tokens ++ rest = tokens ∧ phrase.Explains scope value exact

/-- What an activation reads is a phrase. One that goes on makes a longer phrase of any that
    explains the value so far. -/
def Sound (scope : Scope) : Activation → Prop
  | read level tokens =>
    Yields scope level tokens (Exact scope (.read level tokens)) (.read level tokens)
  | goOn level start tokens => ∀ (left : Phrase level) (exact : Prop),
    left.Explains scope start exact → (exact → Exact scope (.goOn level start tokens)) →
      Yields scope level (left.tokens ++ tokens) exact (.goOn level start tokens)

theorem sound_atom {tokens : List Token}
    (ih : ∀ inner, Calls scope (.read .atom tokens) inner → Sound scope inner) :
    Sound scope (.read .atom tokens) := by
  intro value rest hread
  match tokens with
  | .number bits :: more =>
    rw [run_number] at hread
    obtain ⟨result, hresult, hdone⟩ := bind_eq_ok_iff.mp hread
    cases hdone
    exact ⟨.number bits, rfl, .number hresult⟩
  | .symbol name :: more =>
    rw [run_symbol] at hread
    obtain ⟨result, hresult, hdone⟩ := bind_eq_ok_iff.mp hread
    cases hdone
    exact ⟨.symbol name, rfl, .symbol hresult⟩
  | .opening :: more =>
    rw [run_group] at hread
    obtain ⟨⟨result, between⟩, hinner, hclosed⟩ := bind_eq_ok_iff.mp hread
    obtain ⟨inner, rfl, hexplains⟩ := ih _ .group _ _ hinner
    split at hclosed
    · next heq =>
      cases heq
      cases hclosed
      refine ⟨.group inner, ?_, hexplains.evaluates,
        fun hexact => hexplains.computes (hexact.of_calls .group)⟩
      rw [Phrase.tokens, List.cons_append, List.append_assoc]
      rfl
    · cases hclosed
  | .minus :: more =>
    rw [run_opposite] at hread
    obtain ⟨⟨operand, left⟩, hoperand, hnegated⟩ := bind_eq_ok_iff.mp hread
    obtain ⟨result, hresult, hdone⟩ := bind_eq_ok_iff.mp hnegated
    cases hdone
    obtain ⟨phrase, rfl, hexplains⟩ := ih _ .opposite _ _ hoperand
    refine ⟨.opposite phrase, rfl, ?_⟩
    exact .opposite (hexplains.mono fun hexact => hexact.of_calls .opposite) hresult
      fun hexact => hexact.fits (.opposite hoperand)
  | [] | .plus :: _ | .times :: _ | .slash :: _ | .closing :: _ =>
    rw [run_atom_invalid (by rintro _ ⟨⟩ ⟨⟩)] at hread
    cases hread

theorem sound_read {level : Level} (hlevel : level ≠ .atom) {tokens : List Token}
    (ih : ∀ inner, Calls scope (.read level tokens) inner → Sound scope inner) :
    Sound scope (.read level tokens) := by
  intro value rest hread
  rw [run_read hlevel] at hread
  obtain ⟨⟨first, between⟩, hpart, hmore⟩ := bind_eq_ok_iff.mp hread
  obtain ⟨only, rfl, honly⟩ := ih _ (.part hlevel) _ _ hpart
  have hfirst : only.Explains scope first (Exact scope (.read level (only.tokens ++ between))) :=
    honly.mono fun hexact => hexact.of_calls (.part hlevel)
  exact ih _ (.rest hlevel hpart) _ _ (.part hlevel hfirst)
    (fun hexact => hexact.of_calls (.rest hlevel hpart)) _ _ hmore

theorem sound_goOn {level : Level} {start : Int} {tokens : List Token}
    (ih : ∀ inner, Calls scope (.goOn level start tokens) inner → Sound scope inner) :
    Sound scope (.goOn level start tokens) := by
  intro left exact hleft hexact value rest hread
  obtain hends | ⟨sign, more, rfl⟩ := level.ends_or tokens
  · rw [run_goOn_end start hends] at hread
    cases hread
    exact ⟨left, rfl, hleft⟩
  · rw [run_goOn] at hread
    obtain ⟨⟨operand, between⟩, hoperand, hjoin⟩ := bind_eq_ok_iff.mp hread
    obtain ⟨next, hnext, hmore⟩ := bind_eq_ok_iff.mp hjoin
    obtain ⟨right, rfl, hright⟩ := ih _ (.operand sign) _ _ hoperand
    have hjoined : (Phrase.join left sign right).Explains scope next exact :=
      .join hleft (hright.mono fun h => (hexact h).of_calls (.operand sign)) hnext
        fun h => (hexact h).fits (.join sign hoperand)
    have hyields := ih _ (.next sign hoperand hnext) _ _ hjoined
      (fun h => (hexact h).of_calls (.next sign hoperand hnext)) _ _ hmore
    rwa [Phrase.tokens, List.append_assoc, List.cons_append] at hyields

/-- By induction along the calls, every activation is sound. -/
theorem sound (activation : Activation) : Sound scope activation := by
  induction activation using (wellFounded_calls scope).induction with
  | h activation ih =>
    cases activation with
    | read level tokens =>
      by_cases hlevel : level = .atom
      · subst hlevel
        exact sound_atom ih
      · exact sound_read hlevel ih
    | goOn => exact sound_goOn ih

/-- The tokens that are read whole are those of the sums that evaluate. -/
theorem run_sum_eq_ok_iff {tokens : List Token} {value : Int} :
    run scope (.read .sum tokens) = .ok (value, []) ↔
      ∃ tree : Phrase .sum, tree.tokens = tokens ∧ tree.evaluate scope = .ok value := by
  constructor
  · intro hread
    obtain ⟨tree, htokens, hexplains⟩ := sound (.read .sum tokens) _ _ hread
    exact ⟨tree, (List.append_nil _).symm.trans htokens, hexplains.evaluates⟩
  · rintro ⟨tree, rfl, hvalue⟩
    rw [Phrase.run_sum_tokens, hvalue]
    rfl

end Activation

end RegisterFile.Document
