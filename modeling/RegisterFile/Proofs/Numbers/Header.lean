import Mathlib
import RegisterFile.Proofs.Header.Names
import RegisterFile.Proofs.Numbers.Reading
import RegisterFile.Proofs.Text.Identifier

/-!
The numbers of a register in the C header. Each is a macro without parameters; a number of a
register wider than 64 bits is two of them, for its halves.
-/

namespace RegisterFile

namespace Header

/-- The value of an unsigned constant of C. No type has more than 64 bits. -/
def unsigned? (cs : List Char) : Option Nat := do
  let (value, suffix) ← match Text.after? ['0', 'x'] cs with
    | some digits => Numeral.leading? 16 digits
    | none => Numeral.leading? 10 cs
  if (suffix = ['U'] ∨ suffix = ['U', 'L', 'L']) ∧ value < 2 ^ 64 then some value else none

/-- The value of a macro that stands for a constant. -/
def constantOf? (name text : String) : Option Nat :=
  (Text.lineAfter? ("#define " ++ name ++ " ") text).bind unsigned?

/-- A number of a register of `width` bits: one constant, or two for its halves. -/
def numberOf? (name : String) (width : Nat) (text : String) : Option Nat :=
  if width ≤ 64 then constantOf? name text
  else do
    let high ← constantOf? (name ++ "_HI") text
    let low ← constantOf? (name ++ "_LO") text
    return high * 2 ^ 64 + low

/-- The lines of the header that describe a register. -/
def block (config : Config) (register : Register) : String :=
  Text.unlines ((registerLines config config.moduleName.toUpper register).map Line.text)

/-- A text states the mask and the shift of bits in a register of `width` bits. -/
structure Positions (name text : String) (width : Nat) (bits : BitRange) : Prop where
  mask : numberOf? (name ++ "_MASK") width text = some ((2 ^ bits.width - 1) * 2 ^ bits.low)
  shift : constantOf? (name ++ "_SHIFT") text = some bits.low

/-- A header states an address and a reset value for a register, and where its fields are. -/
structure States (config : Config) (register : Register) (text : String)
    (address reset : Nat) : Prop where
  within : Text.Within (block config register) text
  address : constantOf? (registerStem config register ++ "_ADDR") (block config register) =
    some address
  reset : numberOf? (registerStem config register ++ "_RESET")
    (config.registerWidth register).toNat (block config register) = some reset
  fields : ∀ field ∈ register.fields, Positions (fieldStem config register field)
    (block config register) (config.registerWidth register).toNat field.bits
  whole : register.fields = [] → Positions (registerStem config register)
    (block config register) (config.registerWidth register).toNat
    (.full (config.registerWidth register))

/-! ### Constants -/

theorem unsigned?_hex {digits value : Nat} (suffix : Suffix) (hvalue : value < 2 ^ 64) :
    unsigned? ((hexText digits value).toList ++ suffix.text.toList) = some value := by
  have hdigit : Numeral.isDigitOf 16 'U' = false := by decide
  have hread := Numeral.leading?_padded hdigit digits value
  have htext : (hexText digits value).toList ++ suffix.text.toList = ['0', 'x'] ++
      (Numeral.padded digits (Numeral.HEX value) ++ suffix.text.toList) := by
    simp [hexText]
  rw [unsigned?, htext, Text.after?_append]
  cases suffix with
  | unsigned =>
    simpa [Suffix.text, hread] using hvalue
  | unsignedLongLong =>
    simpa [Suffix.text, hread] using hvalue

theorem toList_decimal (value : Nat) :
    (Expr.decimal value).text.toList = Numeral.decimal value ++ ['U'] := by
  change (toString value ++ "U").toList = _
  simp [Numeral.decimal]

theorem unsigned?_decimal {value : Nat} (hvalue : value < 2 ^ 64) :
    unsigned? (Numeral.decimal value ++ ['U']) = some value := by
  have hnone : Text.after? ['0', 'x'] (Numeral.decimal value ++ ['U']) = none := by
    rw [Text.after?_eq_none_iff]
    intro hprefix
    have hmem : 'x' ∈ Numeral.decimal value ++ ['U'] := hprefix.subset (by decide)
    exact Numeral.notMem_decimal (show 'x'.isDigit = false by decide) (by simpa using hmem)
  have hread : Numeral.leading? 10 (Numeral.decimal value ++ ['U']) = some (value, ['U']) :=
    Numeral.leading?_append (Numeral.ofDigits?_decimal value) (by decide)
  simpa [unsigned?, hnone, hread] using hvalue

/-! ### Macros -/

/-- The line of a macro, from the front that its name gives on. -/
theorem toList_define {m : Macro} (hparameters : m.parameters = []) :
    m.text.toList = ("#define " ++ m.name ++ " ").toList ++ m.body.text.toList := by
  simp [Macro.text, hparameters, parametersText]

/-- A name of a macro: letters, digits and underscores. -/
def IsName (name : String) : Prop :=
  name.toList.all Text.continuesIdentifier = true

instance (name : String) : Decidable (IsName name) :=
  inferInstanceAs (Decidable (name.toList.all Text.continuesIdentifier = true))

theorem IsName.append {first second : String} (hfirst : IsName first) (hsecond : IsName second) :
    IsName (first ++ second) := by
  rw [IsName, String.toList_append, List.all_append, hfirst, hsecond, Bool.and_self]

theorem IsName.toUpper {name : String} (hname : IsIdentifier name) : IsName name.toUpper := by
  refine List.all_eq_true.mpr fun c hc => ?_
  by_contra hnot
  obtain ⟨halphanum, hunderscore⟩ := Bool.or_eq_false_iff.mp (Bool.eq_false_iff.mpr hnot)
  exact hname.notMem_toUpper halphanum (by simpa using hunderscore) hc

theorem IsName.notMem {name : String} (hname : IsName name) {c : Char}
    (hc : Text.continuesIdentifier c = false) : c ∉ name.toList := by
  intro hmem
  rw [List.all_eq_true.mp hname c hmem] at hc
  cases hc

/-- A name ends where no further character of it can follow. -/
theorem IsName.takeWhile {name : String} (hname : IsName name) {c : Char} (rest : List Char)
    (hc : Text.continuesIdentifier c = false) :
    (name.toList ++ c :: rest).takeWhile Text.continuesIdentifier = name.toList := by
  rw [List.takeWhile_append_of_pos (List.all_eq_true.mp hname),
    List.takeWhile_cons_of_neg (by simp [hc]), List.append_nil]

/-- A definition is told from others by its name. -/
theorem after?_define {m other : Macro} (hne : m.name ≠ other.name) (hname : IsName m.name)
    (hother : IsName other.name) :
    Text.after? ("#define " ++ m.name ++ " ").toList other.text.toList = none := by
  rw [Text.after?_eq_none_iff]
  intro hprefix
  obtain ⟨c, rest, hc, htext⟩ : ∃ c rest, Text.continuesIdentifier c = false ∧
      other.text.toList = "#define ".toList ++ (other.name.toList ++ c :: rest) := by
    cases hparameters : other.parameters with
    | nil =>
      exact ⟨' ', other.body.text.toList, by decide, by
        simp [Macro.text, parametersText, hparameters]⟩
    | cons parameter more =>
      exact ⟨'(', (", ".intercalate (parameter :: more) ++ ") " ++ other.body.text).toList,
        by decide, by simp [Macro.text, parametersText, hparameters]⟩
  have hnames : m.name.toList ++ [' '] <+: other.name.toList ++ c :: rest := by
    simpa [htext, List.prefix_append_right_inj] using hprefix
  obtain ⟨back, hback⟩ := hnames
  apply hne
  apply String.toList_inj.mp
  rw [← hother.takeWhile rest hc, ← hback, List.append_assoc, List.singleton_append,
    hname.takeWhile back (by decide)]

/-- Among lines of which no other defines its name, a constant macro is found. -/
theorem lineAfter?_define {before : List String} {macros : List Macro} {m : Macro}
    (hmem : m ∈ macros) (hparameters : m.parameters = [])
    (hbefore : ∀ line ∈ before, Text.Passed ("#define " ++ m.name ++ " ") line)
    (hnodup : (macros.map Macro.name).Nodup) (hnames : ∀ m ∈ macros, IsName m.name)
    (hbreaks : ∀ m ∈ macros, '\n' ∉ m.text.toList) :
    Text.lineAfter? ("#define " ++ m.name ++ " ")
      (Text.unlines (before ++ macros.map Macro.text)) = some m.body.text.toList := by
  obtain ⟨front, back, rfl⟩ := List.append_of_mem hmem
  have hfront : ∀ line ∈ front.map Macro.text, Text.Passed ("#define " ++ m.name ++ " ") line := by
    refine List.forall_mem_map.mpr fun other hother => ?_
    have hmemOther : other ∈ front ++ m :: back := List.mem_append_left _ hother
    have hne : m.name ≠ other.name := by
      rw [List.map_append, List.nodup_append'] at hnodup
      exact fun heq => hnodup.2.2 (List.mem_map_of_mem hother)
        (heq ▸ List.mem_map_of_mem List.mem_cons_self)
    have hchars : other.text.toList = '#' :: other.text.toList.tail := by simp [Macro.text]
    refine ⟨hbreaks other hmemOther, ?_⟩
    rw [hchars, List.dropWhile_cons_of_neg (by decide), ← hchars]
    exact after?_define hne (hnames m hmem) (hnames other hmemOther)
  have hline : m.text.toList = List.replicate 0 ' ' ++
      (("#define " ++ m.name ++ " ").toList ++ m.body.text.toList) := toList_define hparameters
  rw [List.map_append, List.map_cons, Text.lineAfter?_append _ hbefore,
    Text.lineAfter?_append _ hfront, Text.lineAfter?_cons _ hline (hbreaks m hmem) (by simp)]

/-! ### The lines of a register -/

variable {config : Config} {provenance : Provenance} {register : Register}

theorem block_within (hmem : register ∈ config.registers) :
    Text.Within (block config register) (File.ofConfig config provenance).text := by
  change Text.Within _ (Text.unlines (File.ofConfig config provenance).lines)
  apply Text.within_unlines
  have hbody : (registerLines config config.moduleName.toUpper register).map Line.text <:+:
      (File.ofConfig config provenance).body.map Line.text := by
    refine List.IsInfix.map _ ?_
    exact (Text.infix_flatMap hmem (registerLines config config.moduleName.toUpper)).trans
      (List.suffix_append _ _).isInfix
  rw [File.lines]
  exact (hbody.trans (List.suffix_append _ _).isInfix).trans
    ((List.prefix_append _ _).trans
      ((List.prefix_append _ _).trans (List.prefix_append _ _))).isInfix

theorem isName_stem (hwf : config.WellFormed) (hmem : register ∈ config.registers) :
    IsName (registerStem config register) :=
  ((IsName.toUpper hwf.moduleName).append (by decide)).append
    (IsName.toUpper (hwf.registerName register hmem))

theorem isName_fieldStem (hwf : config.WellFormed) (hmem : register ∈ config.registers)
    {field : Field} (hfield : field ∈ register.fields) :
    IsName (fieldStem config register field) :=
  ((isName_stem hwf hmem).append (by decide)).append
    (IsName.toUpper (hwf.fieldName register hmem field hfield))

/-- The names of a register's macros are stems with endings. -/
theorem isName_macro (hwf : config.WellFormed) (hmem : register ∈ config.registers) {m : Macro}
    (hdefined : m ∈ registerMacros config (registerStem config register) register) :
    IsName m.name := by
  have hendings : ∀ ending ∈ endings, IsName ending := by decide +kernel
  have hname := List.mem_map_of_mem (f := Macro.name) hdefined
  rw [names_registerMacros, List.mem_append] at hname
  rcases hname with hname | hname
  · obtain ⟨entry, hentry, ending, hending, heq⟩ := mem_spelled_iff.mp hname
    obtain rfl := List.mem_singleton.mp hentry
    rw [← heq]
    have hregister := (registerEntry_endings register).1 hending
    exact (isName_stem hwf hmem).append
      (hendings ending (List.mem_append_left _ (List.mem_append_right _ hregister)))
  · obtain ⟨entry, hentry, ending, hending, heq⟩ := mem_spelled_iff.mp hname
    have hstem : IsName entry.1 := by
      simp only [positionEntries] at hentry
      split at hentry
      · obtain rfl := List.mem_singleton.mp hentry
        exact isName_stem hwf hmem
      · obtain ⟨field, hfield, rfl⟩ := List.mem_map.mp hentry
        exact isName_fieldStem hwf hmem hfield
    rw [← heq]
    exact hstem.append (hendings ending
      (List.mem_append_right _ ((positionEntries_endings entry hentry).1 hending)))

theorem nodup_fieldStems (hwf : config.WellFormed) (hmem : register ∈ config.registers) :
    (register.fields.map (fieldStem config register)).Nodup := by
  refine List.pairwise_map.mpr ((List.pairwise_map.mp (hwf.fieldsDistinct register hmem)).imp ?_)
  intro field other hne heq
  exact hne (ident_eq_of_toUpper_eq (String.append_right_inj _ |>.mp heq))

/-- One register's macros have distinct names, though those of two registers may meet. -/
theorem nodup_macros (hwf : config.WellFormed) (hmem : register ∈ config.registers) :
    ((registerMacros config (registerStem config register) register).map Macro.name).Nodup := by
  have hpositions : ((positionEntries config register).map Prod.fst).Nodup := by
    simp only [positionEntries]
    split
    · exact List.nodup_singleton _
    · rw [List.map_map]
      exact nodup_fieldStems hwf hmem
  have hregister : ∀ entry ∈ [registerEntry config register], entry.2 ⊆ registerEndings := by
    intro entry hentry
    obtain rfl := List.mem_singleton.mp hentry
    exact (registerEntry_endings register).1
  have hapart := disjoint_spelled hregister
    (fun entry hentry => (@positionEntries_endings config register entry hentry).1)
    (by decide) (by decide) (by decide)
  rw [names_registerMacros, List.nodup_append']
  refine ⟨?_, ?_, hapart⟩
  · refine (nodup_spelled_iff "_ADDR" fun entry hentry => ?_).mpr (List.nodup_singleton _)
    obtain rfl := List.mem_singleton.mp hentry
    obtain ⟨hsubset, hrest⟩ := @registerEntry_endings config register
    exact ⟨List.Subset.trans hsubset (by decide), hrest⟩
  · refine (nodup_spelled_iff "_SHIFT" fun entry hentry => ?_).mpr hpositions
    obtain ⟨hsubset, hrest⟩ := positionEntries_endings entry hentry
    exact ⟨List.Subset.trans hsubset (by decide), hrest⟩

/-! ### Characters -/

/-- The names that an expression mentions. -/
def Expr.names : Expr → List String
  | hex _ _ _ | decimal _ => []
  | parameter name | use name => [name]
  | complement e => e.names
  | and left right | or left right | shiftLeft left right | shiftRight left right =>
    left.names ++ right.names

/-- Whether a character may stand in the definition of a macro. -/
def isMacroChar (c : Char) : Bool :=
  Text.continuesIdentifier c || [' ', '#', '(', ')', ',', '&', '|', '~', '<', '>'].contains c

theorem isMacroChar_of_isDigitOf {c : Char} (hc : Numeral.isDigitOf 16 c = true) :
    isMacroChar c = true := by
  have halphanum : c.isAlphanum = true := by
    obtain ⟨d, hd⟩ := Option.isSome_iff_exists.mp hc
    have hvalue : Numeral.digitValue? c = some d := (Option.filter_eq_some_iff.mp hd).1
    unfold Numeral.digitValue? at hvalue
    simp only [Char.isAlphanum, Char.isAlpha, Char.isUpper, Char.isLower, Char.isDigit,
      Bool.or_eq_true, Bool.and_eq_true, decide_eq_true_eq]
    split_ifs at hvalue with hdigit hlower hupper
    · exact .inr hdigit
    · exact .inl (.inr hlower)
    · exact .inl (.inl hupper)
  simp [isMacroChar, Text.continuesIdentifier, halphanum]

/-- A text of characters that may stand in the definition of a macro. -/
def InMacro (text : String) : Prop :=
  text.toList.all isMacroChar = true

instance (text : String) : Decidable (InMacro text) :=
  inferInstanceAs (Decidable (text.toList.all isMacroChar = true))

theorem InMacro.append {first second : String} (hfirst : InMacro first)
    (hsecond : InMacro second) : InMacro (first ++ second) := by
  rw [InMacro, String.toList_append, List.all_append, hfirst, hsecond, Bool.and_self]

theorem InMacro.notMem {text : String} (htext : InMacro text) {c : Char}
    (hc : isMacroChar c = false) : c ∉ text.toList := by
  intro hmem
  rw [List.all_eq_true.mp htext c hmem] at hc
  cases hc

theorem IsName.inMacro {name : String} (hname : IsName name) : InMacro name := by
  refine List.all_eq_true.mpr fun c hc => ?_
  rw [isMacroChar, List.all_eq_true.mp hname c hc, Bool.true_or]

theorem inMacro_decimal (value : Nat) : InMacro (Expr.decimal value).text := by
  refine List.all_eq_true.mpr fun c hc => ?_
  rw [toList_decimal, List.mem_append] at hc
  rcases hc with hdigit | hsuffix
  · simp [isMacroChar, Text.continuesIdentifier, Char.isAlphanum,
      Numeral.isDigit_of_mem_decimal hdigit]
  · obtain rfl := List.mem_singleton.mp hsuffix
    rfl

theorem inMacro_hexText (digits value : Nat) : InMacro (hexText digits value) := by
  refine InMacro.append rfl (List.all_eq_true.mpr fun c hc => ?_)
  rw [String.toList_ofList] at hc
  exact isMacroChar_of_isDigitOf (Numeral.isDigitOf_of_ofDigits?
    (Numeral.ofDigits?_padded (Numeral.ofDigits?_HEX value) digits) c hc)

theorem Expr.inMacro_text {e : Expr} (hnames : ∀ name ∈ e.names, IsName name) :
    InMacro e.text := by
  induction e with
  | hex digits value suffix =>
    refine (inMacro_hexText digits value.toNat).append ?_
    cases suffix <;> rfl
  | decimal value => exact inMacro_decimal value
  | parameter name =>
    have hname := (hnames name List.mem_cons_self).inMacro
    exact (InMacro.append (by decide) hname).append (by decide)
  | use name => exact (hnames name List.mem_cons_self).inMacro
  | complement e ih => exact InMacro.append rfl (ih hnames)
  | and left right ihLeft ihRight | or left right ihLeft ihRight
  | shiftLeft left right ihLeft ihRight | shiftRight left right ihLeft ihRight =>
    obtain ⟨hleft, hright⟩ := List.forall_mem_append.mp hnames
    have hopening := InMacro.append (show InMacro "(" from rfl) (ihLeft hleft)
    exact ((hopening.append (by decide)).append (ihRight hright)).append (by decide)

/-- A macro that mentions nothing but names. -/
def Macro.MentionsNames (m : Macro) : Prop :=
  (∀ name ∈ m.parameters, IsName name) ∧ ∀ name ∈ m.body.names, IsName name

/-- A macro is written with the characters of names, blanks, parentheses, commas and operators. -/
theorem inMacro_text {m : Macro} (hname : IsName m.name) (hmentions : m.MentionsNames) :
    InMacro m.text := by
  obtain ⟨hparameters, hbody⟩ := hmentions
  have hlist : InMacro (parametersText m.parameters) := by
    generalize m.parameters = parameters at hparameters
    cases parameters with
    | nil => rfl
    | cons first more =>
      have hcomma : InMacro ", " := rfl
      have hnames : InMacro (", ".intercalate (first :: more)) := by
        refine List.all_eq_true.mpr fun c hc => ?_
        rw [String.toList_intercalate] at hc
        rcases Text.mem_intercalate hc with hsep | ⟨piece, hpiece, hin⟩
        · exact List.all_eq_true.mp hcomma c hsep
        · obtain ⟨name, hmem, rfl⟩ := List.mem_map.mp hpiece
          exact List.all_eq_true.mp (hparameters name hmem).inMacro c hin
      exact (InMacro.append (by decide) hnames).append (by decide)
  exact (((InMacro.append (by decide) hname.inMacro).append hlist).append (by decide)).append
    (Expr.inMacro_text hbody)

theorem mentionsNames_constants (name : String) (value : Word) (width : Nat) :
    ∀ m ∈ constants name value width, m.MentionsNames := by
  intro m hm
  unfold constants at hm
  split at hm
  · obtain rfl := List.mem_singleton.mp hm
    exact ⟨by simp, by simp [Expr.names]⟩
  · rcases List.mem_pair.mp hm with rfl | rfl
    · exact ⟨by simp, by simp [Expr.names]⟩
    · exact ⟨by simp, by simp [Expr.names]⟩

theorem mentionsNames_position (name : String) (mask : Word) (low width : Nat) :
    ∀ m ∈ position name mask low width, m.MentionsNames := by
  intro m hm
  rcases List.mem_append.mp hm with hm | hm
  · exact mentionsNames_constants _ mask width m hm
  · obtain rfl := List.mem_singleton.mp hm
    exact ⟨by simp, by simp [Expr.names]⟩

theorem mentionsNames_accessors {name : String} (hname : IsName name) :
    ∀ m ∈ [getter name, setter name], m.MentionsNames := by
  have hv : IsName "v" := rfl
  have hx : IsName "x" := rfl
  have hmask : IsName (name ++ "_MASK") := hname.append rfl
  have hshift : IsName (name ++ "_SHIFT") := hname.append rfl
  simp [Macro.MentionsNames, getter, setter, Expr.names, hv, hx, hmask, hshift]

theorem mentionsNames_registerMacros (hwf : config.WellFormed) (hmem : register ∈ config.registers)
    {m : Macro} (hdefined : m ∈ registerMacros config (registerStem config register) register) :
    m.MentionsNames := by
  rcases List.mem_cons.mp hdefined with rfl | hdefined
  · exact ⟨by simp, by simp [Expr.names]⟩
  · rcases List.mem_append.mp hdefined with hdefined | hdefined
    · exact mentionsNames_constants _ _ _ m hdefined
    · unfold positions at hdefined
      split at hdefined
      · exact mentionsNames_position _ _ _ _ m hdefined
      · obtain ⟨field, hfield, hdefined⟩ := List.mem_flatMap.mp hdefined
        rcases List.mem_append.mp hdefined with hdefined | hdefined
        · exact mentionsNames_position _ _ _ _ m hdefined
        · split at hdefined
          · exact mentionsNames_accessors (isName_fieldStem hwf hmem hfield) m hdefined
          · cases hdefined

theorem newline_macro (hwf : config.WellFormed) (hmem : register ∈ config.registers) {m : Macro}
    (hdefined : m ∈ registerMacros config (registerStem config register) register) :
    '\n' ∉ m.text.toList := by
  have hname := isName_macro hwf hmem hdefined
  exact (inMacro_text hname (mentionsNames_registerMacros hwf hmem hdefined)).notMem rfl

theorem newline_commentText (text : String) : '\n' ∉ (commentText text).toList := by
  have hopen : ∀ cs : List Char, '\n' ∉ cs → '\n' ∉ openComment cs := by
    intro cs
    fun_induction openComment cs <;> simp_all
  rw [commentText, String.toList_ofList]
  exact hopen _ (Text.notMem_onOneLine (by decide) (by decide) text)

/-- A register's comments take one line each. -/
theorem newline_comment (hname : IsIdentifier register.name) :
    '\n' ∉ (registerComment register).toList := by
  have hcharacters := hname.notMem (c := '\n') (by decide) (by decide)
  have htype : ∀ type : RegisterType, '\n' ∉ type.name.toList := by
    intro type
    cases type <;> simp [RegisterType.name]
  have htitle : '\n' ∉ (s!"{register.name} ({register.type.name})").toList := by
    change '\n' ∉ (register.name ++ " (" ++ register.type.name ++ ")").toList
    simp [hcharacters, htype]
  dsimp only [registerComment]
  generalize s!"{register.name} ({register.type.name})" = title at htitle
  split
  · exact htitle
  · simp [htitle, newline_commentText]

/-! ### Numbers -/

theorem toNat_low (value : Word) : (value &&& Word.lowMask 64).toNat = value.toNat % 2 ^ 64 := by
  apply Nat.eq_of_testBit_eq
  intro i
  rw [Nat.testBit_mod_two_pow]
  change (value &&& Word.lowMask 64).getLsbD i = (decide (i < 64) && value.getLsbD i)
  rw [BitVec.getLsbD_and, Word.getLsbD_lowMask]
  by_cases hi : i < 64
  · simp [hi, show i < 128 by omega]
  · simp [hi]

theorem toNat_high (value : Word) : (value.takeFrom 64).toNat = value.toNat / 2 ^ 64 := by
  rw [Word.takeFrom, if_neg (by decide), BitVec.toNat_ushiftRight, Nat.shiftRight_eq_div_pow]

theorem toNat_mask {bits : BitRange} (hhigh : bits.high < 128) :
    bits.mask.toNat = (2 ^ bits.width - 1) * 2 ^ bits.low := by
  have hend := bits.low_add_width
  apply Nat.eq_of_testBit_eq
  intro i
  rw [Nat.testBit_mul_two_pow, Nat.testBit_two_pow_sub_one]
  change bits.mask.getLsbD i = _
  rw [BitRange.getLsbD_mask, Bool.eq_iff_iff]
  simp only [Bool.and_eq_true, decide_eq_true_eq]
  omega

theorem mask_full {width : UInt32} (hwidth : 1 ≤ width.toNat) :
    (BitRange.full width).mask = Word.lowMask width.toNat := by
  apply BitVec.eq_of_getLsbD_eq
  intro i hi
  rw [Word.getLsbD_lowMask, Bool.eq_iff_iff, BitRange.getLsbD_mask_iff hi,
    BitRange.mem_full_iff hwidth, decide_eq_true hi, Bool.true_and, decide_eq_true_iff]

/-- A text defines macros, if it has the line of each that has no parameters. -/
def Defines (text : String) (macros : List Macro) : Prop :=
  ∀ m ∈ macros, m.parameters = [] →
    Text.lineAfter? ("#define " ++ m.name ++ " ") text = some m.body.text.toList

section

variable {text name : String} {macros : List Macro}

theorem constantOf?_hex (hdefines : Defines text macros) {digits : Nat} {value : Word}
    {suffix : Suffix} (hmem : ⟨name, [], .hex digits value suffix⟩ ∈ macros)
    (hvalue : value.toNat < 2 ^ 64) : constantOf? name text = some value.toNat := by
  rw [constantOf?, hdefines _ hmem rfl, Option.bind_some, Expr.text, String.toList_append,
    unsigned?_hex suffix hvalue]

theorem constantOf?_decimal (hdefines : Defines text macros) {value : Nat}
    (hmem : ⟨name, [], .decimal value⟩ ∈ macros) (hvalue : value < 2 ^ 64) :
    constantOf? name text = some value := by
  rw [constantOf?, hdefines _ hmem rfl, Option.bind_some, toList_decimal, unsigned?_decimal hvalue]

/-- Wide or not, the value of a register is read back as it is. -/
theorem numberOf?_constants (hdefines : Defines text macros) {value : Word} {width : Nat}
    (hmem : constants name value width ⊆ macros) (hvalue : value.FitsIn width) :
    numberOf? name width text = some value.toNat := by
  unfold constants maxConstantWidth at hmem
  unfold numberOf?
  split
  · next hwidth =>
    rw [if_pos hwidth] at hmem
    exact constantOf?_hex hdefines (hmem List.mem_cons_self) (hvalue.mono hwidth).toNat_lt
  · next hwidth =>
    rw [if_neg hwidth] at hmem
    have hlow := constantOf?_hex hdefines (hmem List.mem_cons_self) (by
      rw [toNat_low]
      exact Nat.mod_lt _ (by decide))
    have hhigh := constantOf?_hex hdefines (hmem (List.mem_cons_of_mem _ List.mem_cons_self)) (by
      rw [toNat_high]
      have hlt := value.isLt
      omega)
    rw [hlow, hhigh, toNat_low, toNat_high]
    exact congrArg some (Nat.div_add_mod' _ _)

theorem positions_of_defines (hdefines : Defines text macros) {bits : BitRange} {width : Nat}
    (hmem : position name bits.mask bits.low width ⊆ macros) (hinside : bits.high < width)
    (hwidth : width ≤ 128) : Positions name text width bits where
  mask := by
    have hmask := List.Subset.trans (List.subset_append_left _ _) hmem
    have hfits : bits.mask.FitsIn width := by
      intro i hi
      rw [BitRange.getLsbD_mask, decide_eq_false (show ¬ i ≤ bits.high by omega), Bool.and_false]
    rw [numberOf?_constants hdefines hmask hfits, toNat_mask (by omega)]
  shift := by
    have hlow := bits.low_le_high
    exact constantOf?_decimal hdefines
      (hmem (List.mem_append_right _ (List.mem_singleton_self _))) (by omega)

end

/-! ### The block -/

/-- A comment on one line defines nothing. -/
theorem comment_passed (name : String) {text : String} (htext : '\n' ∉ text.toList) :
    Text.Passed ("#define " ++ name ++ " ") (Line.comment text).text := by
  refine ⟨by simp [Line.text, htext], ?_⟩
  have hchars : (Line.comment text).text.toList =
      '/' :: ("* " ++ text ++ " */").toList := by simp [Line.text]
  rw [Text.after?_eq_none_iff, hchars, List.dropWhile_cons_of_neg (by decide)]
  rintro ⟨rest, heq⟩
  simp at heq

theorem defines_block (hwf : config.WellFormed) (hmem : register ∈ config.registers) :
    Defines (block config register)
      (registerMacros config (registerStem config register) register) := by
  intro m hdefined hparameters
  let width := (config.registerWidth register).toNat
  let before : List Line := [.blank, .comment (registerComment register)] ++
    (if width ≤ maxConstantWidth then []
      else [.comment s!"{width}-bit register: values split into 64-bit halves"])
  have hlines : (registerLines config config.moduleName.toUpper register).map Line.text =
      before.map Line.text ++
        (registerMacros config (registerStem config register) register).map Macro.text := by
    rw [registerLines, List.map_append, List.map_map]
    rfl
  rw [block, hlines]
  refine lineAfter?_define hdefined hparameters ?_ (nodup_macros hwf hmem)
    (fun _ => isName_macro hwf hmem) (fun _ => newline_macro hwf hmem)
  have hsplit : '\n' ∉ (s!"{width}-bit register: values split into 64-bit halves").toList := by
    change '\n' ∉ (toString width ++ "-bit register: values split into 64-bit halves").toList
    simpa [Numeral.decimal] using
      Numeral.notMem_decimal (n := width) (show '\n'.isDigit = false by decide)
  have hblank : Text.Passed ("#define " ++ m.name ++ " ") Line.blank.text := by
    refine ⟨by simp [Line.text], ?_⟩
    rw [Text.after?_eq_none_iff]
    simp [Line.text]
  have hcomment := comment_passed m.name (newline_comment (hwf.registerName register hmem))
  refine List.forall_mem_map.mpr fun line hline => ?_
  rcases List.mem_append.mp hline with hline | hline
  · rcases List.mem_pair.mp hline with rfl | rfl
    · exact hblank
    · exact hcomment
  · split at hline
    · cases hline
    · obtain rfl := List.mem_singleton.mp hline
      exact comment_passed m.name hsplit

/-- The header states each register's address and reset value, and where its fields are. -/
theorem states_text (hwf : config.WellFormed) (hmem : register ∈ config.registers)
    {address : UInt64} (haddress : register.address = some address) :
    States config register (File.ofConfig config provenance).text address.toNat
      (register.resetAt (config.registerWidth register).toNat).toNat := by
  have hdefines := defines_block hwf hmem
  have hregular := hwf.regular_ofRegister hmem
  have hpos : 1 ≤ (config.registerWidth register).toNat := hregular.width_pos
  have hwidth : (config.registerWidth register).toNat ≤ 128 := hregular.width_le
  have hpositions : positions (registerStem config register) (config.registerWidth register).toNat
      register ⊆ registerMacros config (registerStem config register) register :=
    fun m hm => List.mem_cons_of_mem _ (List.mem_append_right _ hm)
  refine ⟨block_within hmem, ?_, ?_, fun field hfield => ?_, fun hnone => ?_⟩
  · have hvalue : (BitVec.ofNat 128 (register.address.getD 0).toNat).toNat = address.toNat := by
      rw [haddress, Option.getD_some, Word.toNat_ofUInt64]
    rw [constantOf?_hex hdefines List.mem_cons_self (hvalue ▸ address.toNat_lt), hvalue]
  · exact numberOf?_constants hdefines
      (fun m hm => List.mem_cons_of_mem _ (List.mem_append_left _ hm)) hregular.reset
  · have hinside : field.bits.Inside (config.registerWidth register).toNat :=
      hwf.fieldsInside register hmem field hfield
    refine positions_of_defines hdefines (fun m hm => ?_) hinside.high_lt hwidth
    exact fieldMacros_subset hfield (List.mem_append_left _ hm)
  · refine positions_of_defines hdefines (List.Subset.trans ?_ hpositions) ?_ hwidth
    · rw [positions, hnone, List.isEmpty_nil, if_pos rfl, mask_full hpos]
      exact List.Subset.refl _
    · exact Nat.sub_one_lt_of_lt hpos

end Header

end RegisterFile
