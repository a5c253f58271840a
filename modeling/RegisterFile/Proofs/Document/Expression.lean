import Mathlib
import RegisterFile.Document.Expression

/-!
Expressions and the names in them. An expression that has a value mentions known names only, and
it has the same value under all parameters that agree on these names.
-/

namespace RegisterFile.Document

/-- What comes out of two steps comes out of the second behind the first. -/
theorem bind_eq_ok_iff {α β ε : Type} {value : Except ε α} {rest : α → Except ε β} {b : β} :
    (value >>= rest) = .ok b ↔ ∃ a, value = .ok a ∧ rest a = .ok b := by
  cases value with
  | error e => simp [Bind.bind, Except.bind]
  | ok a => simp [Bind.bind, Except.bind]

namespace Scope

/-- The value of a name is the same in two scopes if one of the tokens mentions it. -/
def AgreesOn (scope other : Scope) (tokens : List Token) : Prop :=
  ∀ name, Token.symbol name ∈ tokens →
    other.parameters.lookup name = scope.parameters.lookup name

/-- Every name that the tokens mention has a value. -/
def Knows (scope : Scope) (tokens : List Token) : Prop :=
  ∀ name, Token.symbol name ∈ tokens → (scope.parameters.lookup name).isSome = true

/-- A reading of tokens is local if it uses up a part in front of which every name is known, and
    goes the same way wherever these names have the same values. -/
def Local {bound : Nat} (read : Scope → Except Error (Reading bound)) (tokens : List Token) :
    Prop :=
  ∀ scope value rest, read scope = .ok (value, rest) →
    ∃ used, tokens = used ++ rest.1 ∧ scope.Knows used ∧
      ∀ other, scope.AgreesOn other used → read other = .ok (value, rest)

namespace Local

variable {bound wider : Nat} {tokens : List Token}

theorem pure (value : Int) (rest : { rest : List Token // rest.length < bound }) :
    Local (fun _ => .ok (value, rest)) rest.1 := by
  intro scope read after hread
  cases hread
  exact ⟨[], rfl, by simp [Knows], fun _ _ => rfl⟩

theorem error (e : Scope → Error) :
    Local (fun scope => (.error (e scope) : Except Error (Reading bound))) tokens :=
  fun _ _ _ hread => by cases hread

/-- One reading behind another one. -/
theorem bind {read : Scope → Except Error (Reading bound)}
    {next : Scope → Reading bound → Except Error (Reading wider)} (hread : Local read tokens)
    (hnext : ∀ value rest, Local (fun scope => next scope (value, rest)) rest.1) :
    Local (fun scope => read scope >>= next scope) tokens := by
  intro scope value rest hok
  obtain ⟨⟨between, left⟩, hfirst, hok⟩ := bind_eq_ok_iff.mp hok
  obtain ⟨front, hfront, hknown, hsame⟩ := hread scope between left hfirst
  obtain ⟨back, hback, hknownBack, hsameBack⟩ := hnext between left scope value rest hok
  refine ⟨front ++ back, by rw [hfront, hback, List.append_assoc], ?_, ?_⟩
  · intro name hname
    exact (List.mem_append.mp hname).elim (hknown name) (hknownBack name)
  · intro other hagrees
    have hotherFirst := hsame other fun name hname => hagrees name (List.mem_append_left _ hname)
    have hother := hsameBack other fun name hname => hagrees name (List.mem_append_right _ hname)
    exact bind_eq_ok_iff.mpr ⟨_, hotherFirst, hother⟩

/-- A step that needs no names, before the rest of a reading. -/
theorem after {step : Scope → Except Error Int}
    {next : Scope → Int → Except Error (Reading bound)}
    (hstep : ∀ scope other value, step scope = .ok value → step other = .ok value)
    (hnext : ∀ value, Local (fun scope => next scope value) tokens) :
    Local (fun scope => step scope >>= next scope) tokens := by
  intro scope value rest hok
  obtain ⟨result, hfirst, hok⟩ := bind_eq_ok_iff.mp hok
  obtain ⟨used, htokens, hknown, hsame⟩ := hnext result scope value rest hok
  refine ⟨used, htokens, hknown, fun other hagrees => ?_⟩
  exact bind_eq_ok_iff.mpr ⟨result, hstep scope other result hfirst, hsame other hagrees⟩

/-- What is read behind a token that is no name. -/
theorem behind {read : Scope → Except Error (Reading bound)} {token : Token}
    (htoken : ∀ name, token ≠ .symbol name) (hread : Local read tokens) :
    Local read (token :: tokens) := by
  intro scope value rest hok
  obtain ⟨used, htokens, hknown, hsame⟩ := hread scope value rest hok
  have hused {name : String} (hname : Token.symbol name ∈ token :: used) :
      Token.symbol name ∈ used :=
    (List.mem_cons.mp hname).resolve_left (htoken name).symm
  exact ⟨token :: used, by rw [htokens, List.cons_append],
    fun name hname => hknown name (hused hname),
    fun other hagrees => hsame other fun name hname => hagrees name (List.mem_cons_of_mem _ hname)⟩

end Local

theorem checked_of_checked (scope other : Scope) {number value : Int}
    (hok : scope.checked number = .ok value) : other.checked number = .ok value := by
  unfold checked at hok ⊢
  split at hok
  · next hrange => rwa [if_pos hrange]
  · cases hok

theorem quotient_of_quotient (scope other : Scope) {number divisor value : Int}
    (hok : scope.quotient number divisor = .ok value) :
    other.quotient number divisor = .ok value := by
  unfold quotient at hok ⊢
  split at hok
  · cases hok
  · next hdivisor =>
    rw [if_neg hdivisor]
    exact checked_of_checked scope other hok

theorem lookup_eq_ok {scope : Scope} {name : String} {value : Int}
    (hok : scope.lookup name = .ok value) :
    ∃ bits, scope.parameters.lookup name = some bits ∧ scope.checked bits.toNat = .ok value := by
  unfold lookup at hok
  split at hok
  · next bits hbits => exact ⟨bits, hbits, hok⟩
  · cases hok

/-- A name is read by its value. -/
theorem local_lookup (name : String) (rest : List Token) :
    Local (fun scope => do return (← scope.lookup name, ⟨rest, Nat.lt_succ_self rest.length⟩))
      (.symbol name :: rest) := by
  intro scope value after hok
  obtain ⟨found, hlookup, hok⟩ := bind_eq_ok_iff.mp hok
  cases hok
  obtain ⟨bits, hbits, hchecked⟩ := lookup_eq_ok hlookup
  refine ⟨[.symbol name], rfl, fun other hother => ?_, fun other hagrees => ?_⟩
  · obtain rfl : other = name := by simpa using hother
    rw [hbits, Option.isSome_some]
  · have hother := hagrees name (List.mem_singleton_self _)
    have hfound : other.lookup name = .ok value := by
      rw [lookup, hother, hbits]
      exact checked_of_checked scope other hchecked
    exact bind_eq_ok_iff.mpr ⟨value, hfound, rfl⟩

/-- Reading an expression is local. -/
theorem local_sum (tokens : List Token) : Local (fun scope => scope.sum tokens) tokens := by
  refine Scope.sum.induct
    (fun tokens => Local (fun scope => scope.sum tokens) tokens)
    (fun value tokens => Local (fun scope => scope.moreSum value tokens) tokens)
    (fun tokens => Local (fun scope => scope.product tokens) tokens)
    (fun value tokens => Local (fun scope => scope.moreProduct value tokens) tokens)
    (fun tokens => Local (fun scope => scope.atom tokens) tokens)
    ?sum ?plus ?minus ?sumEnd ?product ?times ?slash ?productEnd
    ?number ?symbol ?opening ?opposite ?invalid tokens
  case sum =>
    intro tokens hproduct hmore
    simp only [Scope.sum]
    exact hproduct.bind fun value rest => (hmore value rest.1 rest.2).bind fun value rest =>
      .pure value ⟨rest.1, _⟩
  case product =>
    intro tokens hatom hmore
    simp only [Scope.product]
    exact hatom.bind fun value rest => (hmore value rest.1 rest.2).bind fun value rest =>
      .pure value ⟨rest.1, _⟩
  case plus | minus | times =>
    intro value more hoperand hmore
    simp only [Scope.moreSum, Scope.moreProduct]
    refine .behind (by nofun) (hoperand.bind fun operand rest => .after ?_ fun value =>
      (hmore rest.1 rest.2 value).bind fun value rest => .pure value ⟨rest.1, _⟩)
    exact fun scope other value => checked_of_checked scope other
  case slash =>
    intro value more hoperand hmore
    simp only [Scope.moreProduct]
    refine .behind (by nofun) (hoperand.bind fun operand rest => .after ?_ fun value =>
      (hmore rest.1 rest.2 value).bind fun value rest => .pure value ⟨rest.1, _⟩)
    exact fun scope other value => quotient_of_quotient scope other
  case sumEnd | productEnd =>
    intro value tokens _ _
    simp only [Scope.moreSum, Scope.moreProduct]
    exact .pure value ⟨tokens, _⟩
  case number =>
    intro value rest
    unfold Scope.atom
    refine .behind (by nofun) (.after ?_ fun value => .pure value ⟨rest, _⟩)
    exact fun scope other value => checked_of_checked scope other
  case symbol =>
    intro name rest
    unfold Scope.atom
    exact local_lookup name rest
  case opening =>
    intro more hsum
    unfold Scope.atom
    refine .behind (by nofun) (hsum.bind fun value rest => ?_)
    obtain ⟨rest, hrest⟩ := rest
    match rest with
    | .closing :: rest => exact .behind (by nofun) (.pure value ⟨rest, _⟩)
    | [] | .number _ :: _ | .symbol _ :: _ | .plus :: _ | .minus :: _ | .times :: _
    | .slash :: _ | .opening :: _ => exact .error Scope.invalid
  case opposite =>
    intro more hatom
    unfold Scope.atom
    exact .behind (by nofun) (hatom.bind fun value rest => .pure (opposite value) ⟨rest.1, _⟩)
  case invalid =>
    intro tokens hnumber hsymbol hopening hminus
    unfold Scope.atom
    split
    · next value rest => exact (hnumber value rest rfl).elim
    · next name rest => exact (hsymbol name rest rfl).elim
    · next more => exact (hopening more rfl).elim
    · next more => exact (hminus more rfl).elim
    · exact .error Scope.invalid

end Scope

/-- The names that an expression mentions; what does not consist of tokens mentions none. -/
def mentions (expression : String) : List String :=
  match Token.scan expression with
  | .ok tokens => tokens.filterMap fun
    | .symbol name => some name
    | _ => none
  | .error _ => []

/-- The names that a number or expression mentions. -/
def Literal.mentions : Literal → List String
  | number _ => []
  | text content => Document.mentions content

theorem mem_mentions_iff {expression : String} {tokens : List Token}
    (hscan : Token.scan expression = .ok tokens) {name : String} :
    name ∈ mentions expression ↔ .symbol name ∈ tokens := by
  simp only [mentions, hscan, List.mem_filterMap]
  constructor
  · rintro ⟨token, htoken, hname⟩
    cases token <;> cases hname
    exact htoken
  · exact fun hname => ⟨.symbol name, hname, rfl⟩

/-- An expression with a value mentions known names only, and has the value under all parameters
    that agree on what it mentions. -/
theorem expressionValue_eq_ok {expression : String} {parameters : Parameters} {value : Word}
    (hvalue : expressionValue expression parameters = .ok value) :
    (∀ name ∈ mentions expression, (parameters.lookup name).isSome = true) ∧
      ∀ others : Parameters,
        (∀ name ∈ mentions expression, others.lookup name = parameters.lookup name) →
          expressionValue expression others = .ok value := by
  obtain ⟨tokens, hscan, hvalue⟩ := bind_eq_ok_iff.mp hvalue
  obtain ⟨⟨result, rest, hrest⟩, hsum, hvalue⟩ := bind_eq_ok_iff.mp hvalue
  dsimp only at hvalue
  split at hvalue
  · next hend =>
    obtain ⟨used, htokens, hknown, hsame⟩ := Scope.local_sum tokens _ _ _ hsum
    obtain rfl : rest = [] := by simpa using (Bool.and_eq_true_iff.mp hend).1
    obtain rfl : tokens = used := htokens.trans (List.append_nil used)
    refine ⟨fun name hname => hknown name ((mem_mentions_iff hscan).mp hname), ?_⟩
    intro others hagree
    have hothers := hsame ⟨expression, others⟩ fun name hname =>
      hagree name ((mem_mentions_iff hscan).mpr hname)
    refine bind_eq_ok_iff.mpr ⟨tokens, hscan, bind_eq_ok_iff.mpr ⟨_, hothers, ?_⟩⟩
    exact (if_pos hend).trans hvalue
  · cases hvalue

theorem Literal.evaluate_eq_ok {literal : Literal} {parameters : Parameters} {value : Word}
    (hvalue : literal.evaluate parameters = .ok value) :
    (∀ name ∈ literal.mentions, (parameters.lookup name).isSome = true) ∧
      ∀ others : Parameters,
        (∀ name ∈ literal.mentions, others.lookup name = parameters.lookup name) →
          literal.evaluate others = .ok value := by
  cases literal with
  | number n => exact ⟨fun name hname => absurd hname List.not_mem_nil, fun others _ => hvalue⟩
  | text content => exact expressionValue_eq_ok hvalue

end RegisterFile.Document
