import Mathlib
import RegisterFile.Proofs.Accessors.Names
import RegisterFile.Proofs.Numbers.Reading

/-!
The numbers of a register in the accessor module: the type of each register has two constants. They
are read from the words of the text once its string literals are left out, as documentation may
contain any text.
-/

namespace RegisterFile

namespace Accessors

/-- Where a scan of a text is. -/
inductive Place where
  | code
  | literal
  /-- Behind a backslash in a string literal. -/
  | escape

/-- A text without its string literals, from a place on. -/
def withoutLiterals : Place → List Char → List Char
  | _, [] => []
  | .code, c :: rest =>
    if c = '"' then withoutLiterals .literal rest else c :: withoutLiterals .code rest
  | .literal, c :: rest =>
    if c = '\\' then withoutLiterals .escape rest
    else if c = '"' then withoutLiterals .code rest
    else withoutLiterals .literal rest
  | .escape, _ :: rest => withoutLiterals .literal rest

/-- The words of a text outside of string literals. -/
def codeWords (text : String) : List String :=
  ((withoutLiterals .code text.toList).splitOn ' ').map String.ofList

/-- The type and the value of a constant that words declare at their front. -/
def declaration? (name : String) : List String → Option (String × String)
  | keyword :: constant :: colon :: type :: equals :: value :: stop :: _ =>
    if [keyword, constant, colon, equals, stop] = ["const", name, ":", "=", ";"] then
      some (type, value)
    else none
  | _ => none

/-- The type and the value of a constant that is declared among words. -/
def declared? (name : String) : List String → Option (String × String)
  | [] => none
  | word :: rest => (declaration? name (word :: rest)).or (declared? name rest)

/-- The number of bits of an integer type. -/
def typeWidth? (type : String) : Option Nat :=
  [("u8", 8), ("u16", 16), ("u32", 32), ("u64", 64), ("u128", 128)].lookup type

/-- The value of a constant, a hexadecimal number that its type can hold. -/
def constant? (name text : String) : Option Nat := do
  let (type, value) ← declared? name (codeWords text)
  let number ← Numeral.ofDigits? 16 (← Text.after? ['0', 'x'] value.toList)
  if number < 2 ^ (← typeWidth? type) then some number else none

/-- The part of the accessor module that describes a register. -/
def block (config : Config) (register : Register) : String :=
  String.join (spaced (RegisterType.ofRegister config register).tokens)

/-- An accessor module states an address and a reset value for a register. -/
structure States (config : Config) (register : Register) (text : String)
    (address reset : Nat) : Prop where
  within : Text.Within (block config register) text
  address : constant? "ADDR" (block config register) = some address
  reset : constant? "RESET_VALUE" (block config register) = some reset

/-! ### String literals -/

theorem withoutLiterals_code {front : List Char} (hfront : '"' ∉ front) (rest : List Char) :
    withoutLiterals .code (front ++ rest) = front ++ withoutLiterals .code rest := by
  induction front with
  | nil => rfl
  | cons c more ih =>
    obtain ⟨hc, hmore⟩ := not_or.mp (mt List.mem_cons.mpr hfront)
    rw [List.cons_append, withoutLiterals, if_neg (Ne.symm hc), ih hmore, List.cons_append]

theorem withoutLiterals_literal {front : List Char} (hquote : '"' ∉ front) (hslash : '\\' ∉ front)
    (rest : List Char) :
    withoutLiterals .literal (front ++ rest) = withoutLiterals .literal rest := by
  induction front with
  | nil => rfl
  | cons c more ih =>
    obtain ⟨hc, hmore⟩ := not_or.mp (mt List.mem_cons.mpr hquote)
    obtain ⟨hc', hmore'⟩ := not_or.mp (mt List.mem_cons.mpr hslash)
    rw [List.cons_append, withoutLiterals, if_neg (Ne.symm hc'), if_neg (Ne.symm hc),
      ih hmore hmore']

/-- A string literal ends where its text does: every quote and backslash inside is escaped. -/
theorem withoutLiterals_quoted (cs rest : List Char) :
    withoutLiterals .literal (quotedChars cs ++ '"' :: rest) = withoutLiterals .code rest := by
  induction cs with
  | nil => rfl
  | cons c more ih =>
    have hhex : ∀ {d : Char}, Numeral.isDigitOf 16 d = false → d ∉ Numeral.hex c.toNat :=
      Numeral.notMem_of_ofDigits? (Numeral.ofDigits?_toDigits (by decide) (by decide) c.toNat)
    unfold quotedChars
    split
    · split <;> simp [withoutLiterals, ih]
    · simp [withoutLiterals, ih]
    · simp [withoutLiterals, ih]
    · simp [withoutLiterals, ih]
    · simp [withoutLiterals, ih]
    · simp [withoutLiterals, ih]
    · next hquote hslash =>
      split
      · rw [List.singleton_append, List.cons_append, withoutLiterals, if_neg hslash,
          if_neg hquote, ih]
      · have hdigits := withoutLiterals_literal (hhex (d := '"') (by decide))
          (hhex (d := '\\') (by decide))
        simp [withoutLiterals, hdigits, ih]

/-! ### The words of a register's type -/

/-- A token that is set off by spaces from its neighbours. -/
def Solid (token : Token) : Prop :=
  token ∉ ["(", "[", ")", "]"]

/-- A token that makes a word of its own. -/
structure IsWord (token : Token) : Prop where
  solid : Solid token
  space : ' ' ∉ token.toList
  quote : '"' ∉ token.toList

theorem IsWord.of_notMem {token : Token}
    (htoken : ∀ c ∈ ['(', '[', ')', ']', ' ', '"'], c ∉ token.toList) : IsWord token where
  solid := by
    intro hbracket
    simp only [List.mem_cons, List.not_mem_nil, or_false] at hbracket
    rcases hbracket with rfl | rfl | rfl | rfl <;> simp at htoken
  space := htoken ' ' (by decide)
  quote := htoken '"' (by decide)

theorem isWord_identifier {name : String} (hname : IsIdentifier name) :
    IsWord (identifier name) := by
  refine .of_notMem fun c hc => ?_
  simp only [List.mem_cons, List.not_mem_nil, or_false] at hc
  obtain ⟨halphanum, hunderscore, hr, hhash⟩ :
      c.isAlphanum = false ∧ c ≠ '_' ∧ c ≠ 'r' ∧ c ≠ '#' := by
    rcases hc with rfl | rfl | rfl | rfl | rfl | rfl <;> decide
  have hnotMem := hname.notMem halphanum hunderscore
  rcases identifier_cases name with ⟨-, heq⟩ | ⟨-, heq | heq⟩ <;> rw [heq]
  · simp [hnotMem, hunderscore]
  · simp [hnotMem, hr, hhash]
  · exact hnotMem

theorem isWord_hexToken (value : Nat) : IsWord (hexToken value) := by
  refine .of_notMem fun c hc => ?_
  simp only [List.mem_cons, List.not_mem_nil, or_false] at hc
  obtain ⟨hdigit, hzero, hx⟩ : Numeral.isDigitOf 16 c = false ∧ c ≠ '0' ∧ c ≠ 'x' := by
    rcases hc with rfl | rfl | rfl | rfl | rfl | rfl <;> decide
  have hdigits := Numeral.notMem_of_ofDigits? (Numeral.ofDigits?_HEX value) hdigit
  simp [hexToken, hdigits, hzero, hx]

theorem isWord_storage (storage : Storage) : IsWord storage.name := by
  refine .of_notMem ?_
  cases storage <;> simp [Storage.name]

theorem solid_quoted (text : String) : Solid (quoted text) := by
  intro hbracket
  simp only [List.mem_cons, List.not_mem_nil, or_false] at hbracket
  rcases hbracket with heq | heq | heq | heq <;>
    simpa [quoted] using congrArg String.toList heq

/-- The tokens of a register's type in front of its methods. -/
def frontTokens (doc name storage address reset : Token) : List Token :=
  ["#", "[", "doc", "=", doc, "]", "#", "[", "derive", "(", "Debug", ",", "Clone", ",", "Copy", ",",
    "PartialEq", ",", "Eq", ")", "]", "pub", "struct", name, "(", storage, ")", ";", "impl", name,
    "\x7b"] ++ constantTokens "ADDR" "u64" address ++ constantTokens "RESET_VALUE" storage reset

/-- The words between the documentation and the constants. -/
def headWords (name storage : Token) : List String :=
  ["]", "#", "[derive", "(Debug", ",", "Clone", ",", "Copy", ",", "PartialEq", ",", "Eq)]", "pub",
    "struct", name, "(" ++ storage ++ ")", ";", "impl", name, "\x7b"]

/-- The words behind the documentation. -/
def frontWords (name storage address reset : Token) : List String :=
  headWords name storage ++ (constantTokens "ADDR" "u64" address ++
    constantTokens "RESET_VALUE" storage reset)

section

variable {name storage address reset : Token} (hname : IsWord name) (hstorage : IsWord storage)
  (haddress : IsWord address) (hreset : IsWord reset)

include hname hstorage haddress hreset

theorem toList_front {doc : Token} (hdoc : Solid doc) (more : List Token) :
    (String.join (spaced (frontTokens doc name storage address reset ++ "pub" :: more))).toList =
      ["#", "[doc", "="].flatMap (fun word => word.toList ++ [' ']) ++ (doc.toList ++
        ((frontWords name storage address reset).flatMap (fun word => word.toList ++ [' ']) ++
          (String.join (spaced ("pub" :: more))).toList)) := by
  have hname := hname.solid
  have hstorage := hstorage.solid
  have haddress := haddress.solid
  have hreset := hreset.solid
  simp only [Solid, List.mem_cons, List.not_mem_nil, or_false, not_or]
    at hdoc hname hstorage haddress hreset
  simp [frontTokens, frontWords, headWords, constantTokens, spaced, joined, hdoc, hname, hstorage,
    haddress, hreset]

theorem codeWords_front (text : String) (more : List Token) :
    ∃ rest, codeWords (String.join (spaced
      (frontTokens (quoted text) name storage address reset ++ "pub" :: more))) =
        ["#", "[doc", "="] ++ frontWords name storage address reset ++ rest := by
  let last := withoutLiterals .code (String.join (spaced ("pub" :: more))).toList
  have hwords : ∀ word ∈ frontWords name storage address reset,
      ' ' ∉ word.toList ∧ '"' ∉ word.toList := by
    simp [frontWords, headWords, constantTokens, hname.space, hname.quote, hstorage.space,
      hstorage.quote, haddress.space, haddress.quote, hreset.space, hreset.quote]
  have hquote : '"' ∉ (frontWords name storage address reset).flatMap fun word =>
      word.toList ++ [' '] := by
    intro hmem
    obtain ⟨word, hword, hin⟩ := List.mem_flatMap.mp hmem
    simp [(hwords word hword).2] at hin
  have hcode : withoutLiterals .code (String.join (spaced
      (frontTokens (quoted text) name storage address reset ++ "pub" :: more))).toList =
      ((["#", "[doc", "="] ++ frontWords name storage address reset).map String.toList).flatMap
        (· ++ [' ']) ++ last := by
    rw [toList_front hname hstorage haddress hreset (solid_quoted text),
      withoutLiterals_code (by decide), quoted, String.toList_ofList, List.cons_append,
      withoutLiterals, if_pos rfl, List.append_assoc, List.singleton_append,
      withoutLiterals_quoted, withoutLiterals_code hquote, List.flatMap_map, List.flatMap_append,
      List.append_assoc]
  refine ⟨(last.splitOn ' ').map String.ofList, ?_⟩
  rw [codeWords, hcode, Text.splitOn_terminated, List.map_append, List.map_map]
  · simp [Function.comp_def]
  · rw [List.forall_mem_map, List.forall_mem_append]
    exact ⟨by decide, fun word hword => (hwords word hword).1⟩

end

/-! ### The constants -/

theorem declared?_of_ne {name word : String} (hword : word ≠ "const") (rest : List String) :
    declared? name (word :: rest) = declared? name rest := by
  have hnone : declaration? name (word :: rest) = none := by
    unfold declaration?
    split
    · next hcons =>
      obtain ⟨rfl, -⟩ := List.cons.inj hcons
      rw [if_neg fun heq => hword (List.head_eq_of_cons_eq heq)]
    · rfl
  rw [declared?, hnone, Option.none_or]

/-- Words that are not the keyword are passed over. -/
theorem declared?_append {name : String} {front : List String} (hfront : "const" ∉ front)
    (rest : List String) : declared? name (front ++ rest) = declared? name rest := by
  induction front with
  | nil => rfl
  | cons word more ih =>
    obtain ⟨hword, hmore⟩ := not_or.mp (mt List.mem_cons.mpr hfront)
    rw [List.cons_append, declared?_of_ne (Ne.symm hword), ih hmore]

theorem declared?_constant (name type value : String) (rest : List String) :
    declared? name (constantTokens name type value ++ rest) = some (type, value) := by
  simp [constantTokens, declared?, declaration?]

/-- The constants of other names are passed over too. -/
theorem declared?_other {name other type value : String} (hother : other ≠ name)
    (hwords : "const" ∉ [other, ":", type, "=", value, ";"]) (rest : List String) :
    declared? name (constantTokens other type value ++ rest) = declared? name rest := by
  have hnone : declaration? name ("const" :: ([other, ":", type, "=", value, ";"] ++ rest)) =
      none := by
    simp [declaration?, hother]
  change declared? name ("pub" :: "const" :: ([other, ":", type, "=", value, ";"] ++ rest)) = _
  rw [declared?_of_ne (by decide), declared?, hnone, Option.none_or, declared?_append hwords]

theorem constant?_of_declared {name text : String} {storage : Storage} {value : Nat}
    (hdeclared : declared? name (codeWords text) = some (storage.name, hexToken value))
    (hvalue : value < 2 ^ storage.width) : constant? name text = some value := by
  have hwidth : typeWidth? storage.name = some storage.width := by
    cases storage <;> rfl
  have hdigits : Text.after? ['0', 'x'] (hexToken value).toList = some (Numeral.HEX value) := by
    have htoken : (hexToken value).toList = ['0', 'x'] ++ Numeral.HEX value := by simp [hexToken]
    rw [htoken, Text.after?_append]
  simp [constant?, hdeclared, hdigits, Numeral.ofDigits?_HEX, hwidth, hvalue]

/-- A keyword names no type. -/
theorem identifier_ne_const (name : String) : identifier name ≠ "const" := by
  unfold identifier
  split
  · intro heq
    have hlast := congrArg (fun name => name.toList.getLast?) heq
    simp at hlast
  · split
    · intro heq
      have hheads := congrArg (fun name => name.toList.head?) heq
      simp at hheads
    · next hkeyword =>
      rintro rfl
      exact hkeyword (by decide)

/-! ### The block -/

variable {config : Config} {register : Register}

/-- What stands between two tokens. -/
def gap (left right : Token) : String :=
  if joined left right then "" else " "

theorem join_spaced_cons (left right : Token) (rest : List Token) :
    String.join (spaced (left :: right :: rest)) =
      left ++ gap left right ++ String.join (spaced (right :: rest)) := by
  rw [spaced, gap]
  split <;> simp [String.append_assoc]

theorem exists_join_spaced_front (front : List Token) {tokens : List Token} (hne : tokens ≠ []) :
    ∃ before, String.join (spaced (front ++ tokens)) = before ++ String.join (spaced tokens) := by
  induction front with
  | nil => exact ⟨"", by simp⟩
  | cons left more ih =>
    obtain ⟨before, hbefore⟩ := ih
    obtain ⟨right, rest, hrest⟩ :=
      List.exists_cons_of_ne_nil (List.append_ne_nil_of_right_ne_nil more hne)
    rw [List.cons_append, hrest, join_spaced_cons, ← hrest, hbefore]
    exact ⟨left ++ gap left right ++ before, by simp [String.append_assoc]⟩

theorem exists_join_spaced_back (tokens back : List Token) :
    ∃ after, String.join (spaced (tokens ++ back)) = String.join (spaced tokens) ++ after := by
  induction tokens with
  | nil => exact ⟨String.join (spaced back), by simp [spaced]⟩
  | cons left more ih =>
    cases more with
    | nil =>
      cases back with
      | nil => exact ⟨"", by simp⟩
      | cons right rest =>
        refine ⟨gap left right ++ String.join (spaced (right :: rest)), ?_⟩
        rw [List.singleton_append, join_spaced_cons]
        simp [spaced, String.append_assoc]
    | cons right rest =>
      obtain ⟨after, hafter⟩ := ih
      refine ⟨after, ?_⟩
      rw [List.cons_append, List.cons_append, join_spaced_cons, ← List.cons_append, hafter,
        join_spaced_cons, ← String.append_assoc]

theorem within_spaced {block tokens : List Token} (hne : block ≠ []) (hpart : block <:+: tokens) :
    Text.Within (String.join (spaced block)) (String.join (spaced tokens)) := by
  obtain ⟨front, back, rfl⟩ := hpart
  obtain ⟨after, hafter⟩ := exists_join_spaced_back (front ++ block) back
  obtain ⟨before, hbefore⟩ := exists_join_spaced_front front hne
  exact ⟨before, after, by rw [hafter, hbefore]⟩

theorem block_within (hwf : config.WellFormed) (hmem : register ∈ config.registers) :
    Text.Within (block config register) (Module.ofConfig config).text := by
  have htype : RegisterType.ofRegister config register ∈ (Module.ofConfig config).registers := by
    rw [registers_ofConfig hwf]
    exact List.mem_map_of_mem hmem
  refine within_spaced (by simp [RegisterType.tokens, docTokens, attributeTokens]) ?_
  refine (Text.infix_flatMap htype RegisterType.tokens).trans ?_
  rw [Module.tokens, braces]
  exact (List.suffix_append _ _).isInfix.trans ((List.prefix_append _ _).isInfix.trans
    ((List.suffix_cons _ _).trans (List.suffix_append _ _)).isInfix)

theorem tokens_eq : ∃ more, (RegisterType.ofRegister config register).tokens =
    frontTokens (quoted (registerDoc register)) (identifier register.name)
      (Storage.ofWidth (config.registerWidth register).toNat).name
      (hexToken (register.address.getD 0).toNat)
      (hexToken (register.resetAt (config.registerWidth register).toNat).toNat) ++
        "pub" :: more :=
  ⟨_, rfl⟩

/-- Both constants of a type are found among its words. -/
theorem declared?_block (hname : IsIdentifier register.name) :
    declared? "ADDR" (codeWords (block config register)) =
        some ("u64", hexToken (register.address.getD 0).toNat) ∧
      declared? "RESET_VALUE" (codeWords (block config register)) =
        some ((Storage.ofWidth (config.registerWidth register).toNat).name,
          hexToken (register.resetAt (config.registerWidth register).toNat).toNat) := by
  obtain ⟨more, htokens⟩ := @tokens_eq config register
  let storage := Storage.ofWidth (config.registerWidth register).toNat
  obtain ⟨rest, hwords⟩ := codeWords_front (isWord_identifier hname) (isWord_storage storage)
    (isWord_hexToken (register.address.getD 0).toNat)
    (isWord_hexToken (register.resetAt (config.registerWidth register).toNat).toNat)
    (registerDoc register) more
  have hstorage : "const" ≠ "(" ++ storage.name ++ ")" := by
    cases storage <;> decide
  have hhex : ∀ value, hexToken value ≠ "const" := by
    intro value heq
    have hheads := congrArg (fun token => token.toList.head?) heq
    simp [hexToken] at hheads
  have hhead : "const" ∉
      ["#", "[doc", "="] ++ headWords (identifier register.name) storage.name := by
    simp [headWords, (identifier_ne_const register.name).symm, hstorage]
  rw [block, htokens, hwords, frontWords, ← List.append_assoc, List.append_assoc,
    declared?_append hhead, declared?_append hhead, List.append_assoc, declared?_constant,
    declared?_other (by decide) (by simp [(hhex _).symm]), declared?_constant]
  exact ⟨rfl, rfl⟩

/-- The accessor module states each register's address and reset value. -/
theorem states_text (hwf : config.WellFormed) (hmem : register ∈ config.registers)
    {address : UInt64} (haddress : register.address = some address) :
    States config register (Module.ofConfig config).text address.toNat
      (register.resetAt (config.registerWidth register).toNat).toNat := by
  obtain ⟨hdeclaredAddress, hdeclaredReset⟩ :=
    @declared?_block config register (hwf.registerName register hmem)
  have hregular := hwf.regular_ofRegister hmem
  have hreset := hregular.reset.toNat_lt
  have hwidth : (config.registerWidth register).toNat ≤ 128 := hregular.width_le
  have hroom : (config.registerWidth register).toNat ≤
      (Storage.ofWidth (config.registerWidth register).toNat).width := by
    unfold Storage.ofWidth
    repeat' split
    all_goals simp only [Storage.width]
    all_goals omega
  have haddressWord : declared? "ADDR" (codeWords (block config register)) =
      some (Storage.bits64.name, hexToken address.toNat) := by
    rw [hdeclaredAddress, haddress]
    rfl
  exact ⟨block_within hwf hmem, constant?_of_declared haddressWord address.toNat_lt,
    constant?_of_declared hdeclaredReset
      (Nat.lt_of_lt_of_le hreset (Nat.pow_le_pow_right (by decide) hroom))⟩

end Accessors

end RegisterFile
