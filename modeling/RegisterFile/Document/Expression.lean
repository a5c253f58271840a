import RegisterFile.Document.Literal

/-!
Integer expressions over literals and parameter names, with `+ - * /` and parentheses. Values are
signed numbers of 128 bits: a result outside that range, a division by zero and a negative final
value are errors. An expression is read and evaluated in one pass from left to right, so the
first fault on the way is the one reported.
-/

namespace RegisterFile.Document

/-- The values of names, the latest first. -/
abbrev Parameters := List (String × Word)

/-- A piece of an expression. -/
inductive Token where
  | number (value : Word)
  | symbol (name : String)
  | plus
  | minus
  | times
  | slash
  | opening
  | closing
  deriving DecidableEq, Repr

namespace Token

/-- The token of an operator or parenthesis. -/
def ofMark? : Char → Option Token
  | '+' => some plus
  | '-' => some minus
  | '*' => some times
  | '/' => some slash
  | '(' => some opening
  | ')' => some closing
  | _ => none

/-- Whether a character belongs to a number or name. -/
def isWordChar (c : Char) : Bool :=
  c.isAlphanum || c == '_' || c == '\''

/-- The token of a word: a number when it starts with a digit or quote, a name otherwise. -/
def ofWord : List Char → Except Error Token
  | [] => .ok (symbol "")
  | c :: rest =>
    if c.isDigit || c == '\'' then (literalValue (c :: rest)).map number
    else .ok (symbol (String.ofList (c :: rest)))

/-- Puts the token of a finished word in front; `reversed` holds its characters backwards. -/
def withWord (reversed : List Char) (rest : Except Error (List Token)) :
    Except Error (List Token) :=
  if reversed.isEmpty then rest
  else do
    let token ← ofWord reversed.reverse
    return token :: (← rest)

/-- Reads tokens; `word` holds the characters of the word being read, backwards. -/
def scanFrom (expression : String) (word : List Char) : List Char → Except Error (List Token)
  | [] => withWord word (.ok [])
  | c :: rest =>
    if isWordChar c then scanFrom expression (c :: word) rest
    else withWord word <|
      if Text.isBlank c then scanFrom expression [] rest
      else match ofMark? c with
        | some token => do return token :: (← scanFrom expression [] rest)
        | none => .error (.invalidExpression expression)

/-- The tokens of an expression. -/
def scan (expression : String) : Except Error (List Token) :=
  scanFrom expression [] expression.toList

end Token

/-- What an expression is evaluated against: its own text, for messages, and the parameters. -/
structure Scope where
  expression : String
  parameters : Parameters

namespace Scope

/-- The bound that values of expressions stay below. -/
def valueBound : Int := Int.ofNat (1 <<< 127)

/-- The lowest value of an expression. -/
def minValue : Int := -valueBound

/-- The error of an expression that is not one or whose value does not exist. -/
def invalid (scope : Scope) : Error :=
  .invalidExpression scope.expression

/-- A result, if it is in range. -/
def checked (scope : Scope) (value : Int) : Except Error Int :=
  if minValue ≤ value ∧ value < valueBound then .ok value else .error scope.invalid

/-- A quotient, rounded toward zero. -/
def quotient (scope : Scope) (value divisor : Int) : Except Error Int :=
  if divisor = 0 then .error scope.invalid else scope.checked (value.tdiv divisor)

/-- The opposite value. The lowest value, which has none in range, is its own. -/
def opposite (value : Int) : Int :=
  if value = minValue then value else -value

/-- The value of a name. -/
def lookup (scope : Scope) (name : String) : Except Error Int :=
  match scope.parameters.lookup name with
  | some value => scope.checked value.toNat
  | none => .error (.unresolvedParameter name scope.expression)

/-- A value and the tokens behind the part that was read, of which there are fewer than `bound`. -/
abbrev Reading (bound : Nat) := Int × { rest : List Token // rest.length < bound }

/-- Forgets how far a reading went, within a longer list of tokens. -/
def Reading.weaken {bound wider : Nat} (h : bound ≤ wider) (reading : Reading bound) :
    Reading wider :=
  (reading.1, ⟨reading.2.1, Nat.lt_of_lt_of_le reading.2.2 h⟩)

mutual

/-- Products joined by plus and minus signs, from the left. -/
def sum (scope : Scope) (tokens : List Token) : Except Error (Reading tokens.length) := do
  let (value, ⟨rest, hrest⟩) ← product scope tokens
  let result ← moreSum scope value rest
  return result.weaken (by omega)
termination_by (tokens.length, 2)

/-- Goes on with a sum whose value so far is `value`. -/
def moreSum (scope : Scope) (value : Int) (tokens : List Token) :
    Except Error (Reading (tokens.length + 1)) :=
  match tokens with
  | .plus :: more => do
    let (operand, ⟨rest, hrest⟩) ← product scope more
    let result ← moreSum scope (← scope.checked (value + operand)) rest
    return result.weaken (by simp only [List.length_cons]; omega)
  | .minus :: more => do
    let (operand, ⟨rest, hrest⟩) ← product scope more
    let result ← moreSum scope (← scope.checked (value - operand)) rest
    return result.weaken (by simp only [List.length_cons]; omega)
  | tokens => .ok (value, ⟨tokens, Nat.lt_succ_self _⟩)
termination_by (tokens.length, 2)

/-- Atoms joined by multiplication and division signs, from the left. -/
def product (scope : Scope) (tokens : List Token) : Except Error (Reading tokens.length) := do
  let (value, ⟨rest, hrest⟩) ← atom scope tokens
  let result ← moreProduct scope value rest
  return result.weaken (by omega)
termination_by (tokens.length, 1)

/-- Goes on with a product whose value so far is `value`. -/
def moreProduct (scope : Scope) (value : Int) (tokens : List Token) :
    Except Error (Reading (tokens.length + 1)) :=
  match tokens with
  | .times :: more => do
    let (operand, ⟨rest, hrest⟩) ← atom scope more
    let result ← moreProduct scope (← scope.checked (value * operand)) rest
    return result.weaken (by simp only [List.length_cons]; omega)
  | .slash :: more => do
    let (operand, ⟨rest, hrest⟩) ← atom scope more
    let result ← moreProduct scope (← scope.quotient value operand) rest
    return result.weaken (by simp only [List.length_cons]; omega)
  | tokens => .ok (value, ⟨tokens, Nat.lt_succ_self _⟩)
termination_by (tokens.length, 1)

/-- A number, a name, a sum in parentheses or the opposite of an atom. -/
def atom (scope : Scope) (tokens : List Token) : Except Error (Reading tokens.length) :=
  match tokens with
  | .number value :: rest => do
    return (← scope.checked value.toNat, ⟨rest, Nat.lt_succ_self _⟩)
  | .symbol name :: rest => do
    return (← scope.lookup name, ⟨rest, Nat.lt_succ_self _⟩)
  | .opening :: more => do
    match ← sum scope more with
    | (value, ⟨.closing :: rest, hrest⟩) =>
      return (value, ⟨rest, by simp only [List.length_cons] at hrest ⊢; omega⟩)
    | _ => .error scope.invalid
  | .minus :: more => do
    let (value, ⟨rest, hrest⟩) ← atom scope more
    return (opposite value, ⟨rest, by simp only [List.length_cons]; omega⟩)
  | _ => .error scope.invalid
termination_by (tokens.length, 0)

end

end Scope

/-- The value of an expression, which must not be negative. -/
def expressionValue (expression : String) (parameters : Parameters) : Except Error Word := do
  let scope : Scope := ⟨expression, parameters⟩
  let (value, ⟨rest, _⟩) ← scope.sum (← Token.scan expression)
  if rest.isEmpty && 0 ≤ value then return BitVec.ofNat 128 value.toNat
  else .error scope.invalid

/-- The value of a number or expression text. -/
def Literal.evaluate (literal : Literal) (parameters : Parameters) : Except Error Word :=
  match literal with
  | .number n => .ok (BitVec.ofNat 128 n.toNat)
  | .text content => expressionValue content parameters

end RegisterFile.Document
