import RegisterFile.Node
import RegisterFile.Text.Decimal
import RegisterFile.Yaml.Token

/-!
What YAML scalars are. A plain scalar is null, a truth value or a number if it looks like one, and
otherwise a string; every other scalar is a string. A tag of the standard overrides that, but
where a number or truth value is wanted the looks of a plain scalar count.
-/

namespace RegisterFile.Yaml

/-- Whether a text says null. -/
def isNull (text : String) : Bool :=
  ["null", "Null", "NULL", "~"].contains text

/-- The truth value of a text. -/
def bool? (text : String) : Option Bool :=
  if ["true", "True", "TRUE"].contains text then some true
  else if ["false", "False", "FALSE"].contains text then some false
  else none

/-- Whether digits, perhaps with a sign, have a zero too many in front to be a number. -/
def hasLeadingZero (cs : List Char) : Bool :=
  let digits := match cs with
    | '-' :: rest => rest
    | '+' :: rest => rest
    | _ => cs
  match digits with
  | '0' :: rest => !rest.isEmpty && rest.all Char.isDigit
  | _ => false

/-- The absolute value of an integer without its sign: with a radix mark, or decimal. -/
def magnitude? (cs : List Char) : Option Nat :=
  match cs with
  | '0' :: 'x' :: digits => Numeral.ofDigits? 16 digits
  | '0' :: 'o' :: digits => Numeral.ofDigits? 8 digits
  | '0' :: 'b' :: digits => Numeral.ofDigits? 2 digits
  | digits => if hasLeadingZero digits then none else Numeral.ofDigits? 10 digits

/-- A number that is not negative, with or without a plus sign. -/
def unsigned? (cs : List Char) : Option Nat :=
  magnitude? (Numeral.dropPlus cs)

/-- The absolute value of a number with a minus sign. -/
def negated? : List Char → Option Nat
  | '-' :: rest => magnitude? rest
  | _ => none

/-- The kind of an integer. Those of more than 64 bits have no value; beyond 128 bits only their
    size as a decimal number is left, which is no integer. -/
def integer? (cs : List Char) : Option Kind :=
  match unsigned? cs, negated? cs with
  | some n, _ =>
    if n < 1 <<< 64 then some (.natural n)
    else if n < 1 <<< 128 then some .unreadable else none
  | none, some 0 => some (.natural 0)
  | none, some n =>
    if n ≤ 1 <<< 63 then some .number
    else if n ≤ 1 <<< 127 then some .unreadable else none
  | none, none => none

/-- The words for numbers that are not finite, without a sign and with a minus sign. -/
def infinities : List String :=
  [".inf", ".Inf", ".INF", "-.inf", "-.Inf", "-.INF"]

/-- The words for what is not a number. -/
def undefinedWords : List String :=
  [".nan", ".NaN", ".NAN"]

/-- The number of a decimal numeral without its sign: digits with a point somewhere, and perhaps
    an exponent. -/
def decimal? (cs : List Char) : Option Decimal := do
  let (whole, rest) := cs.span Char.isDigit
  let (fraction, rest) := match rest with
    | '.' :: more => more.span Char.isDigit
    | _ => ([], rest)
  if whole.isEmpty && fraction.isEmpty then none
  let (exponent, rest) ← Decimal.splitExponent? rest
  if rest.isEmpty then return .ofParts whole fraction exponent else none

/-- A text without the minus sign that it may start with. -/
def dropMinus : List Char → List Char
  | '-' :: rest => rest
  | cs => cs

/-- Whether a text is a number with a fraction or an exponent, or a large integer. -/
def isFraction (text : String) : Bool :=
  let cs := text.toList
  let unsigned := Numeral.dropPlus cs
  if unsigned != cs && unsigned.head?.any (fun c => c == '+' || c == '-') then false
  else
    infinities.contains text || infinities.contains (String.ofList unsigned) ||
      undefinedWords.contains text || (decimal? (dropMinus unsigned)).any Decimal.isDouble

/-- The kind of a text by its looks. -/
def plainKind (text : String) : Kind :=
  if text.isEmpty || isNull text then .null
  else match bool? text, integer? text.toList with
    | some value, _ => .bool value
    | none, some kind => kind
    | none, none =>
      if !hasLeadingZero text.toList && isFraction text then .number else .text

/-- The kind of a text where a number or truth value is wanted, and it looks like one. -/
def wantedKind (text : String) : Kind :=
  match bool? text, unsigned? text.toList with
  | some value, _ => .bool value
  | none, some n => .natural n
  | none, none => .text

/-- The tags of the standard that say what a scalar is. -/
def standardTag (name : String) : String :=
  "tag:yaml.org,2002:" ++ name

/-- The kind that a tag gives to a text. -/
def taggedKind (tag text : String) : Kind :=
  if tag = standardTag "bool" then ((bool? text).map Kind.bool).getD .unreadable
  else if tag = standardTag "int" then (integer? text.toList).getD .unreadable
  else if tag = standardTag "float" then if isFraction text then .number else .unreadable
  else if tag = standardTag "null" then if isNull text then .null else .unreadable
  else .text

/-- What a scalar is where a value may be null. Only a plain one can be. -/
def presenceOf (style : Style) (tag : Option String) (text : String) : Presence :=
  if style ≠ .plain then .present
  else match tag with
    | none => if text.isEmpty || isNull text then .absent else .present
    | some tag =>
      if tag = standardTag "null" then if isNull text then .absent else .contradictory
      else .present

/-- What a scalar is where a number or truth value is wanted. -/
def wantedOf (style : Style) (tag : Option String) (text : String) : Kind :=
  match style, wantedKind text with
  | .plain, kind => kind
  | .literal, .bool value => if tag = some (standardTag "bool") then .bool value else .text
  | .literal, .natural n => if tag = some (standardTag "int") then .natural n else .text
  | _, _ => .text

def scalarOf (style : Style) (tag : Option String) (text : String) : Scalar where
  kind := match tag with
    | some tag => taggedKind tag text
    | none => if style = .plain then plainKind text else .text
  wanted := wantedOf style tag text
  presence := presenceOf style tag text
  blank := style = .plain && text.isEmpty
  text := some text

end RegisterFile.Yaml
