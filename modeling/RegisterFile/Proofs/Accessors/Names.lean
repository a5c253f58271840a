import Mathlib
import RegisterFile.Accessors.Build
import RegisterFile.Proofs.Hardware.NameForms
import RegisterFile.Proofs.Text.Identifier
import RegisterFile.Proofs.Validate.Accepts

/-!
The names of generated types and methods. A name that needs an escape can meet a name that is
written like the escaped one: a keyword with its underscore, a common method with its suffix, a
field with the prefix of setters, and the type of the register file with its own suffix.
-/

namespace RegisterFile.Accessors

/-! ### Escapes -/

/-- Names that some words meet with a suffix are distinct exactly if no such word is there together
    with itself and the suffix. -/
theorem nodup_map_iff_of_escape {escape : String → String} {words names : List String}
    {suffix : String} (hsuffix : suffix ≠ "")
    (hescape : ∀ a ∈ names, ∀ b ∈ names, escape a = escape b ↔
      a = b ∨ (a ∈ words ∧ b = a ++ suffix) ∨ (b ∈ words ∧ a = b ++ suffix)) :
    (names.map escape).Nodup ↔
      names.Nodup ∧ ∀ word ∈ words, word ∈ names → word ++ suffix ∉ names := by
  constructor
  · intro hnodup
    refine ⟨hnodup.of_map, fun word hword hmem hsuffixed => ?_⟩
    have heq := List.inj_on_of_nodup_map hnodup hmem hsuffixed
      ((hescape _ hmem _ hsuffixed).mpr (.inr (.inl ⟨hword, rfl⟩)))
    exact hsuffix (String.append_eq_left_iff.mp heq.symm)
  · rintro ⟨hnodup, hapart⟩
    refine hnodup.map_on fun a ha b hb heq => ?_
    obtain rfl | ⟨hword, rfl⟩ | ⟨hword, rfl⟩ := (hescape a ha b hb).mp heq
    · rfl
    · exact absurd hb (hapart a hword ha)
    · exact absurd ha (hapart b hword hb)

theorem identifier_of_mem {name : String} (hname : name ∈ pathKeywords) :
    identifier name = name ++ "_" := by
  rw [identifier, if_pos (List.contains_iff_mem.mpr hname)]

theorem identifier_cases (name : String) :
    (name ∈ pathKeywords ∧ identifier name = name ++ "_") ∨
      (name ∉ pathKeywords ∧ (identifier name = "r#" ++ name ∨ identifier name = name)) := by
  by_cases hpath : name ∈ pathKeywords
  · exact .inl ⟨hpath, identifier_of_mem hpath⟩
  · refine .inr ⟨hpath, ?_⟩
    rw [identifier, if_neg (by simpa using hpath)]
    split
    · exact .inl rfl
    · exact .inr rfl

/-- No name is an escaped keyword, as names have no `#` in them. -/
theorem raw_ne {name : String} (hname : '#' ∉ name.toList) (keyword : String) :
    "r#" ++ keyword ≠ name := by
  rintro rfl
  exact hname (by simp)

theorem identifier_eq_iff {a b : String} (ha : '#' ∉ a.toList) (hb : '#' ∉ b.toList) :
    identifier a = identifier b ↔
      a = b ∨ (a ∈ pathKeywords ∧ b = a ++ "_") ∨ (b ∈ pathKeywords ∧ a = b ++ "_") := by
  have ha' : '#' ∉ (a ++ "_").toList := by simpa using ha
  have hb' : '#' ∉ (b ++ "_").toList := by simpa using hb
  constructor
  · intro heq
    rcases identifier_cases a with ⟨hpath, ha''⟩ | ⟨-, ha'' | ha''⟩ <;>
      rcases identifier_cases b with ⟨hpath', hb''⟩ | ⟨-, hb'' | hb''⟩ <;> rw [ha'', hb''] at heq
    · exact .inl ((String.append_left_inj _).mp heq)
    · exact absurd heq.symm (raw_ne ha' b)
    · exact .inr (.inl ⟨hpath, heq.symm⟩)
    · exact absurd heq (raw_ne hb' a)
    · exact .inl ((String.append_right_inj _).mp heq)
    · exact absurd heq (raw_ne hb a)
    · exact .inr (.inr ⟨hpath', heq⟩)
    · exact absurd heq.symm (raw_ne ha b)
    · exact .inl heq
  · have hescaped : ∀ keyword ∈ pathKeywords, identifier (keyword ++ "_") = keyword ++ "_" := by
      decide
    rintro (rfl | ⟨hpath, rfl⟩ | ⟨hpath, rfl⟩)
    · rfl
    · rw [identifier_of_mem hpath, hescaped a hpath]
    · rw [identifier_of_mem hpath, hescaped b hpath]

theorem nodup_identifiers_iff {names : List String} (hnames : ∀ name ∈ names, '#' ∉ name.toList) :
    (names.map identifier).Nodup ↔
      names.Nodup ∧ ∀ keyword ∈ pathKeywords, keyword ∈ names → keyword ++ "_" ∉ names :=
  nodup_map_iff_of_escape (by decide) fun a ha b hb =>
    identifier_eq_iff (hnames a ha) (hnames b hb)

/-- A name that no escape changes or leads to. -/
structure Unescaped (name : String) : Prop where
  word : name ∉ pathKeywords ++ keywords
  path : ∀ word ∈ pathKeywords, word ++ "_" ≠ name
  raw : ∀ word, "r#" ++ word ≠ name

namespace Unescaped

variable {name : String}

theorem identifier_eq_iff (hname : Unescaped name) {other : String} :
    identifier other = name ↔ other = name := by
  constructor
  · intro heq
    rcases identifier_cases other with ⟨hpath, hother⟩ | ⟨-, hother | hother⟩ <;>
      rw [hother] at heq
    · exact absurd heq (hname.path other hpath)
    · exact absurd heq (hname.raw other)
    · exact heq
  · rintro rfl
    obtain ⟨hpath, hkeyword⟩ := not_or.mp (mt List.mem_append.mpr hname.word)
    rw [identifier, if_neg (by simpa using hpath), if_neg (by simpa using hkeyword)]

theorem mem_identifiers_iff (hname : Unescaped name) {names : List String} :
    name ∈ names.map identifier ↔ name ∈ names := by
  simp only [List.mem_map, hname.identifier_eq_iff, exists_eq_right]

/-- Each keyword has a small letter. -/
theorem of_capital (hname : ∀ c ∈ name.toList, c.isLower = false) : Unescaped name := by
  have hsmall : ∀ word ∈ pathKeywords ++ keywords, word.toList.any Char.isLower = true := by
    decide
  constructor
  · intro hword
    obtain ⟨c, hc, hlower⟩ := List.any_eq_true.mp (hsmall name hword)
    rw [hname c hc] at hlower
    cases hlower
  · rintro word hword rfl
    obtain ⟨c, hc, hlower⟩ := List.any_eq_true.mp (hsmall word (List.mem_append_left _ hword))
    rw [hname c (by simp [hc])] at hlower
    cases hlower
  · rintro word rfl
    exact absurd (hname 'r' (by simp)) (by decide)

theorem setter (stem : String) : Unescaped ("set_" ++ stem) := by
  have hapart : ∀ word ∈ pathKeywords ++ keywords ++ pathKeywords.map (· ++ "_"),
      ¬ "set_".toList <+: word.toList := by
    decide
  have hprefix : "set_".toList <+: ("set_" ++ stem).toList := by
    rw [String.toList_append]
    exact List.prefix_append _ _
  constructor
  · intro hword
    exact hapart _ (List.mem_append_left _ hword) hprefix
  · rintro word hword heq
    refine hapart _ (List.mem_append_right _ (List.mem_map_of_mem hword)) ?_
    rw [heq]
    exact hprefix
  · intro word heq
    have hheads := congrArg (fun name => name.toList.head?) heq
    simp at hheads

theorem common {name : String} (hname : name ∈ commonMethods) : Unescaped name := by
  have hplain : ∀ word ∈ commonMethods,
      word ∉ pathKeywords ++ keywords ∧ (∀ other ∈ pathKeywords, other ++ "_" ≠ word) ∧
        '#' ∉ word.toList := by
    decide
  obtain ⟨hword, hpath, hhash⟩ := hplain name hname
  exact ⟨hword, hpath, raw_ne hhash⟩

end Unescaped

/-! ### Types -/

/-- The names of the types of a module. -/
def Module.typeNames (m : Module) : List String :=
  m.fileName :: m.registers.map RegisterType.name

/-- No name of a register is that of another type. -/
@[mk_iff]
structure TypesApart (config : Config) : Prop where
  keyword : ∀ keyword ∈ pathKeywords, keyword ∈ config.registers.map Register.name →
    keyword ++ "_" ∉ config.registers.map Register.name
  file : config.moduleName.toUpper ∈ config.registers.map Register.name →
    config.moduleName.toUpper ++ "_FILE" ∉ config.registers.map Register.name

instance (config : Config) : Decidable (TypesApart config) :=
  decidable_of_iff _ (typesApart_iff config).symm

variable {config : Config}

theorem distinctFrom_of_nodup {registers : List Register} {seen : List String}
    (hnodup : (registers.map Register.name).Nodup)
    (hunseen : ∀ register ∈ registers, register.name ∉ seen) :
    distinctFrom seen registers = registers := by
  induction registers generalizing seen with
  | nil => rfl
  | cons register rest ih =>
    obtain ⟨hregister, hrest⟩ := List.nodup_cons.mp hnodup
    have hnew := hunseen register List.mem_cons_self
    rw [distinctFrom, if_neg (by simpa using hnew), ih hrest]
    intro other hother hseen
    rcases List.mem_cons.mp hseen with heq | hseen
    · exact hregister (heq ▸ List.mem_map_of_mem hother)
    · exact hunseen other (List.mem_cons_of_mem _ hother) hseen

theorem registers_ofConfig (hwf : config.WellFormed) :
    (Module.ofConfig config).registers =
      config.registers.map (RegisterType.ofRegister config) := by
  have hnames := Validate.names_nodup_of_idents hwf.registersDistinct
  rw [Module.ofConfig, distinct, distinctFrom_of_nodup hnames (by simp)]

theorem unescaped_toUpper (name : String) : Unescaped name.toUpper := by
  apply Unescaped.of_capital
  simp [String.toUpper]

theorem unescaped_toUpper_file (name : String) : Unescaped (name.toUpper ++ "_FILE") := by
  apply Unescaped.of_capital
  intro c hc
  rw [String.toList_append, List.mem_append] at hc
  rcases hc with hc | hc
  · simp only [String.toUpper, String.toList_map, List.mem_map] at hc
    obtain ⟨d, -, rfl⟩ := hc
    exact Char.isLower_toUpper_eq_false d
  · have hsuffix : "_FILE".toList.any Char.isLower = false := by decide
    exact Bool.eq_false_iff.mpr (List.any_eq_false.mp hsuffix c hc)

/-- The type of the register file is told apart from a register of its name, but not from one that
    has the name with the suffix. -/
theorem fileTypeName_mem_iff :
    fileTypeName config ∈ (config.registers.map Register.name).map identifier ↔
      config.moduleName.toUpper ∈ config.registers.map Register.name ∧
        config.moduleName.toUpper ++ "_FILE" ∈ config.registers.map Register.name := by
  have hany : (config.registers.any fun register => register.name == config.moduleName.toUpper) =
      true ↔ config.moduleName.toUpper ∈ config.registers.map Register.name := by
    simp
  by_cases hnamed : config.moduleName.toUpper ∈ config.registers.map Register.name
  · rw [fileTypeName, if_pos (hany.mpr hnamed), (unescaped_toUpper_file _).mem_identifiers_iff,
      and_iff_right hnamed]
  · rw [fileTypeName, if_neg (mt hany.mp hnamed),
      (unescaped_toUpper config.moduleName).identifier_eq_iff.mpr rfl,
      (unescaped_toUpper _).mem_identifiers_iff, iff_false_left hnamed]
    exact fun h => hnamed h.1

theorem typeNames_nodup_iff_typesApart (hwf : config.WellFormed) :
    (Module.ofConfig config).typeNames.Nodup ↔ TypesApart config := by
  have hnames : (Module.ofConfig config).registers.map RegisterType.name =
      (config.registers.map Register.name).map identifier := by
    rw [registers_ofConfig hwf, List.map_map, List.map_map]
    rfl
  have hplain : ∀ name ∈ config.registers.map Register.name, '#' ∉ name.toList := by
    intro name hname
    obtain ⟨register, hmem, rfl⟩ := List.mem_map.mp hname
    exact (hwf.registerName register hmem).ne_hash
  have hdistinct := Validate.names_nodup_of_idents hwf.registersDistinct
  rw [Module.typeNames, hnames, List.nodup_cons, nodup_identifiers_iff hplain,
    and_iff_right hdistinct, show (Module.ofConfig config).fileName = fileTypeName config from rfl,
    fileTypeName_mem_iff, not_and]
  exact ⟨fun h => ⟨h.2, h.1⟩, fun h => ⟨h.file, h.keyword⟩⟩

/-! ### Methods -/

/-- A name in lower case, with a suffix where it would hide a common method. -/
def methodStem (name : String) : String :=
  if commonMethods.contains name then name ++ "_field" else name

theorem methodStem_of_mem {name : String} (hname : name ∈ commonMethods) :
    methodStem name = name ++ "_field" := by
  rw [methodStem, if_pos (List.contains_iff_mem.mpr hname)]

theorem methodStem_of_notMem {name : String} (hname : name ∉ commonMethods) :
    methodStem name = name := by
  rw [methodStem, if_neg (by simpa using hname)]

theorem suffixed_notMem : ∀ word ∈ commonMethods, word ++ "_field" ∉ commonMethods := by
  decide

theorem methodStem_notMem (name : String) : methodStem name ∉ commonMethods := by
  by_cases hname : name ∈ commonMethods
  · rw [methodStem_of_mem hname]
    exact suffixed_notMem name hname
  · rwa [methodStem_of_notMem hname]

theorem methodStem_eq_iff {a b : String} :
    methodStem a = methodStem b ↔
      a = b ∨ (a ∈ commonMethods ∧ b = a ++ "_field") ∨
        (b ∈ commonMethods ∧ a = b ++ "_field") := by
  constructor
  · intro heq
    by_cases ha : a ∈ commonMethods <;> by_cases hb : b ∈ commonMethods
    · rw [methodStem_of_mem ha, methodStem_of_mem hb] at heq
      exact .inl ((String.append_left_inj _).mp heq)
    · rw [methodStem_of_mem ha, methodStem_of_notMem hb] at heq
      exact .inr (.inl ⟨ha, heq.symm⟩)
    · rw [methodStem_of_notMem ha, methodStem_of_mem hb] at heq
      exact .inr (.inr ⟨hb, heq⟩)
    · rw [methodStem_of_notMem ha, methodStem_of_notMem hb] at heq
      exact .inl heq
  · rintro (rfl | ⟨hcommon, rfl⟩ | ⟨hcommon, rfl⟩)
    · rfl
    · rw [methodStem_of_mem hcommon, methodStem_of_notMem (suffixed_notMem a hcommon)]
    · rw [methodStem_of_mem hcommon, methodStem_of_notMem (suffixed_notMem b hcommon)]

/-- The suffix neither makes a path keyword, nor one with its underscore. -/
theorem mem_stems_iff {names : List String} {word : String}
    (hword : word ∈ pathKeywords ++ pathKeywords.map (· ++ "_")) :
    word ∈ names.map methodStem ↔ word ∈ names := by
  have hapart : ∀ word ∈ pathKeywords ++ pathKeywords.map (· ++ "_"),
      word ∉ commonMethods ∧ ∀ common ∈ commonMethods, word ≠ common ++ "_field" := by
    decide
  obtain ⟨hcommon, hsuffixed⟩ := hapart word hword
  have hstem : ∀ name, methodStem name = word ↔ name = word := by
    intro name
    rw [← methodStem_of_notMem hcommon, methodStem_eq_iff, methodStem_of_notMem hcommon]
    constructor
    · rintro (heq | ⟨hname, heq⟩ | ⟨hword, -⟩)
      · exact heq
      · exact absurd heq (hsuffixed name hname)
      · exact absurd hword hcommon
    · exact .inl
  simp only [List.mem_map, hstem, exists_eq_right]

/-- The names of a register's fields in lower case. -/
def fieldNames (register : Register) : List String :=
  register.fields.map fun field => Text.lowerCase field.name

/-- What the names of the methods of a register's fields are made from. -/
def stems (register : Register) : List String :=
  register.fields.map fun field => fieldStem field.name

/-- The names of the methods that replace fields. -/
def setters (register : Register) : List String :=
  (register.fields.filter (isWritable register)).map fun field => "set_" ++ fieldStem field.name

/-- No method of a field is called like another method of the register. -/
@[mk_iff]
structure MethodsApart (register : Register) : Prop where
  common : ∀ name ∈ commonMethods, name ∈ fieldNames register →
    name ++ "_field" ∉ fieldNames register
  keyword : ∀ keyword ∈ pathKeywords, keyword ∈ fieldNames register →
    keyword ++ "_" ∉ fieldNames register
  setter : ∀ field ∈ register.fields, isWritable register field = true →
    "set_" ++ fieldStem field.name ∉ stems register

instance (register : Register) : Decidable (MethodsApart register) :=
  decidable_of_iff _ (methodsApart_iff register).symm

section

variable {register : Register}

theorem stems_eq (register : Register) : stems register = (fieldNames register).map methodStem := by
  rw [fieldNames, List.map_map]
  rfl

theorem stem_notMem {stem : String} (hstem : stem ∈ stems register) : stem ∉ commonMethods := by
  obtain ⟨field, -, rfl⟩ := List.mem_map.mp hstem
  exact methodStem_notMem (Text.lowerCase field.name)

/-- The methods of a register: those that every register has, those that read fields, and those
    that replace them. -/
theorem methodNames_perm (register : Register) :
    ((registerMethods register).map Method.name).Perm
      (commonMethods ++ ((stems register).map identifier ++ setters register)) := by
  have hnames : ∀ field, (fieldMethods register field).map Method.name =
      [identifier (fieldStem field.name)] ++
        if isWritable register field then ["set_" ++ fieldStem field.name] else [] := by
    intro field
    simp only [fieldMethods]
    split <;> rfl
  have hsetters : setters register = register.fields.flatMap fun field =>
      if isWritable register field then ["set_" ++ fieldStem field.name] else [] := by
    unfold setters
    induction register.fields with
    | nil => rfl
    | cons field rest ih =>
      rw [List.filter_cons, List.flatMap_cons, ← ih]
      split <;> rfl
  have hfields : ((register.fields.flatMap (fieldMethods register)).map Method.name).Perm
      ((stems register).map identifier ++ setters register) := by
    rw [List.map_flatMap, hsetters, stems, List.map_map, List.map_eq_flatMap]
    simp only [hnames]
    exact (List.flatMap_append_perm _ _ _).symm
  simp only [registerMethods, List.map_append, List.map_cons, List.map_nil, List.append_assoc]
  exact (List.Perm.swap "reset" "new" _).trans
    ((List.perm_append_comm.trans (hfields.append_left _)).append_left ["reset", "new"])

theorem disjoint_common_getters : commonMethods.Disjoint ((stems register).map identifier) := by
  intro name hname hgetter
  exact stem_notMem ((Unescaped.common hname).mem_identifiers_iff.mp hgetter) hname

theorem disjoint_common_setters : commonMethods.Disjoint (setters register) := by
  -- The one common method with the prefix is that of `raw`, and no stem is `raw`.
  have hprefixed : ∀ name ∈ commonMethods,
      name.toList.take 4 = "set_".toList → name.toList.drop 4 = "raw".toList := by
    decide
  intro name hname hsetter
  obtain ⟨field, hfield, rfl⟩ := List.mem_map.mp hsetter
  have hstem : fieldStem field.name = "raw" := by
    apply String.toList_inj.mp
    simpa using hprefixed _ hname (by simp)
  have hmem : fieldStem field.name ∈ stems register :=
    List.mem_map_of_mem (List.mem_of_mem_filter hfield)
  exact stem_notMem hmem (hstem ▸ by decide)

theorem disjoint_getters_setters_iff :
    ((stems register).map identifier).Disjoint (setters register) ↔
      ∀ field ∈ register.fields, isWritable register field = true →
        "set_" ++ fieldStem field.name ∉ stems register := by
  constructor
  · intro hapart field hfield hwritable hmem
    exact hapart ((Unescaped.setter _).mem_identifiers_iff.mpr hmem)
      (List.mem_map_of_mem (List.mem_filter.mpr ⟨hfield, hwritable⟩))
  · intro hapart name hgetter hsetter
    obtain ⟨field, hfield, rfl⟩ := List.mem_map.mp hsetter
    obtain ⟨hfield, hwritable⟩ := List.mem_filter.mp hfield
    exact hapart field hfield hwritable ((Unescaped.setter _).mem_identifiers_iff.mp hgetter)

theorem nodup_setters (hstems : (stems register).Nodup) : (setters register).Nodup := by
  have hwritable : ((register.fields.filter (isWritable register)).map fun field =>
      fieldStem field.name).Nodup := hstems.sublist (List.filter_sublist.map _)
  have hprefixed := hwritable.map fun _ _ heq => (String.append_right_inj "set_").mp heq
  rwa [List.map_map] at hprefixed

theorem ne_hash_fieldStem {field : Field} (hname : IsIdentifier field.name) :
    '#' ∉ (fieldStem field.name).toList := by
  have hlower : '#' ∉ (Text.lowerCase field.name).toList := by
    rw [Text.lowerCase_eq_ident hname, Hardware.toList_ident, List.mem_map]
    rintro ⟨c, hc, heq⟩
    -- A letter stays one, and anything else stays what it is.
    have halpha : c.isAlpha = false := by
      rw [← Char.isAlpha_toLower_eq_isAlpha, heq]
      decide
    have hupper : ¬ c.isUpper = true := by
      intro hupper
      rw [Char.isAlpha, hupper, Bool.true_or] at halpha
      cases halpha
    rw [Char.toLower_eq_of_not_isUpper hupper] at heq
    exact hname.ne_hash (heq ▸ hc)
  show '#' ∉ (methodStem (Text.lowerCase field.name)).toList
  unfold methodStem
  split
  · simpa using hlower
  · exact hlower

theorem nodup_getters_iff (hnames : ∀ field ∈ register.fields, IsIdentifier field.name)
    (hdistinct : (register.fields.map fun field => ident field.name).Nodup) :
    ((stems register).map identifier).Nodup ↔
      (∀ name ∈ commonMethods, name ∈ fieldNames register →
        name ++ "_field" ∉ fieldNames register) ∧
      ∀ keyword ∈ pathKeywords, keyword ∈ fieldNames register →
        keyword ++ "_" ∉ fieldNames register := by
  have hplain : ∀ stem ∈ stems register, '#' ∉ stem.toList := by
    intro stem hstem
    obtain ⟨field, hfield, rfl⟩ := List.mem_map.mp hstem
    exact ne_hash_fieldStem (hnames field hfield)
  have hlower : fieldNames register = register.fields.map fun field => ident field.name :=
    List.map_congr_left fun field hfield => Text.lowerCase_eq_ident (hnames field hfield)
  have hstems : (stems register).Nodup ↔ ∀ name ∈ commonMethods, name ∈ fieldNames register →
      name ++ "_field" ∉ fieldNames register := by
    rw [stems_eq, nodup_map_iff_of_escape (by decide) fun _ _ _ _ => methodStem_eq_iff,
      and_iff_right]
    rwa [hlower]
  rw [nodup_identifiers_iff hplain, hstems, stems_eq]
  refine and_congr_right fun _ => forall₂_congr fun keyword hkeyword => ?_
  rw [mem_stems_iff (List.mem_append_left _ hkeyword),
    mem_stems_iff (List.mem_append_right _ (List.mem_map_of_mem hkeyword))]

theorem methodNames_nodup_iff_methodsApart
    (hnames : ∀ field ∈ register.fields, IsIdentifier field.name)
    (hdistinct : (register.fields.map fun field => ident field.name).Nodup) :
    ((registerMethods register).map Method.name).Nodup ↔ MethodsApart register := by
  rw [(methodNames_perm register).nodup_iff, List.nodup_append', List.nodup_append',
    List.disjoint_append_right, disjoint_getters_setters_iff]
  constructor
  · rintro ⟨-, ⟨hgetters, -, hsetter⟩, -⟩
    obtain ⟨hcommon, hkeyword⟩ := (nodup_getters_iff hnames hdistinct).mp hgetters
    exact ⟨hcommon, hkeyword, hsetter⟩
  · intro hapart
    have hgetters := (nodup_getters_iff hnames hdistinct).mpr ⟨hapart.common, hapart.keyword⟩
    exact ⟨by decide, ⟨hgetters, nodup_setters hgetters.of_map, hapart.setter⟩,
      disjoint_common_getters, disjoint_common_setters⟩

end

end RegisterFile.Accessors

namespace RegisterFile

open Accessors

/-- The types of the module of a valid register file, and the methods of each of its registers,
    have distinct names exactly if no name meets one that an escape or a prefix has made. -/
theorem module_nodup_iff {config : Config} (hvalid : (validate config).isValid = true) :
    ((Module.ofConfig config).typeNames.Nodup ∧
        ∀ register ∈ (Module.ofConfig config).registers,
          (register.methods.map Method.name).Nodup) ↔
      TypesApart config ∧ ∀ register ∈ config.registers, MethodsApart register := by
  have hwf := (isValid_validate_iff config).mp hvalid
  rw [typeNames_nodup_iff_typesApart hwf, registers_ofConfig hwf, List.forall_mem_map]
  refine and_congr_right fun _ => forall₂_congr fun register hmem => ?_
  exact methodNames_nodup_iff_methodsApart (hwf.fieldName register hmem)
    (hwf.fieldsDistinct register hmem)

/-- A register file `regs` with registers `REGS` and `name`, the first of them with a field whose
    name is a common method's. -/
def Config.namesake (name : String) : Config where
  moduleName := "regs"
  registers := [
    { name := "REGS", address := some 0
      fields := [{ name := "RESET", bits := BitRange.bit 0 }] },
    { name := name, address := some 4 }]

theorem module_nodup_namesake :
    (validate (Config.namesake "self")).isValid = true ∧
      (Module.ofConfig (Config.namesake "self")).typeNames.Nodup ∧
        ∀ register ∈ (Module.ofConfig (Config.namesake "self")).registers,
          (register.methods.map Method.name).Nodup :=
  have hvalid : (validate (Config.namesake "self")).isValid = true := by decide +kernel
  ⟨hvalid, (module_nodup_iff hvalid).mpr (by decide +kernel)⟩

/-- A valid register file in whose module two types have one name. -/
theorem not_nodup_typeNames_namesake :
    (validate (Config.namesake "REGS_FILE")).isValid = true ∧
      (text? (Config.namesake "REGS_FILE")).isSome = true ∧
        ¬ (Module.ofConfig (Config.namesake "REGS_FILE")).typeNames.Nodup :=
  ⟨by decide +kernel, by decide +kernel, by decide +kernel⟩

end RegisterFile
