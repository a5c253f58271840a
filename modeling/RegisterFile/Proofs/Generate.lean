import Mathlib
import RegisterFile.Generate
import RegisterFile.Proofs.Accessors.Names
import RegisterFile.Proofs.AddressPlan.Slots
import RegisterFile.Proofs.Prepare

/-!
Generation behind validation. The lone underscore is an identifier of hardware, but it names
nothing in the accessor module. It is the only thing that can still stop the generation of a valid
register file, and it does so wherever it is declared.
-/

namespace RegisterFile

/-- The names that a register declares: its own, and those of its fields. -/
def Register.names (register : Register) : List String :=
  register.name :: register.fields.map Field.name

/-- The names that a register file declares. -/
def Config.names (config : Config) : List String :=
  config.moduleName :: config.registers.flatMap Register.names

namespace Accessors

/-! ### Escapes -/

/-- No escape leads to the lone underscore. -/
theorem unescaped_underscore : Unescaped "_" where
  word := by decide
  path := by decide
  raw := fun word heq => by
    have hheads := congrArg (fun name => name.toList.head?) heq
    simp at hheads

theorem append_ne_underscore {front : String} (hlong : 1 < front.toList.length) (back : String) :
    front ++ back ≠ "_" := by
  rw [ne_eq, ← String.toList_inj, String.toList_append]
  intro heq
  have hlength := congrArg List.length heq
  rw [List.length_append, show "_".toList.length = 1 from rfl] at hlength
  omega

theorem methodStem_eq_underscore_iff {name : String} : methodStem name = "_" ↔ name = "_" := by
  have hlong : ∀ word ∈ commonMethods, 1 < word.toList.length := by decide
  by_cases hname : name ∈ commonMethods
  · have hne : name ≠ "_" := by
      rintro rfl
      exact absurd (hlong "_" hname) (by decide)
    rw [methodStem_of_mem hname, iff_false_left (append_ne_underscore (hlong name hname) _)]
    exact hne
  · rw [methodStem_of_notMem hname]

/-- A map of characters that leads to the underscore from itself alone leads to the lone one only
    from that. -/
theorem map_eq_underscore_iff {change : Char → Char} (hchange : ∀ c, change c = '_' ↔ c = '_')
    {name : String} : name.map change = "_" ↔ name = "_" := by
  rw [← String.toList_inj, ← String.toList_inj, String.toList_map,
    show "_".toList = ['_'] from rfl, List.map_eq_singleton_iff]
  simp only [hchange]
  exact ⟨fun ⟨c, hname, hc⟩ => hname.trans (by rw [hc]), fun hname => ⟨'_', hname, rfl⟩⟩

theorem fieldStem_eq_underscore_iff {name : String} (hname : IsIdentifier name) :
    fieldStem name = "_" ↔ name = "_" := by
  change methodStem (Text.lowerCase name) = "_" ↔ name = "_"
  rw [methodStem_eq_underscore_iff, Text.lowerCase_eq_ident hname]
  exact map_eq_underscore_iff fun _ => Text.toLower_eq_iff (by decide)

/-! ### Generated names -/

variable {config : Config} {register : Register}

theorem underscore_mem_fieldMethods_iff {field : Field} (hname : IsIdentifier field.name) :
    "_" ∈ (fieldMethods register field).map Method.name ↔ field.name = "_" := by
  have hsetter : "_" ≠ "set_" ++ fieldStem field.name :=
    (append_ne_underscore (by decide) _).symm
  have hgetter : "_" = identifier (fieldStem field.name) ↔ field.name = "_" := by
    rw [eq_comm, unescaped_underscore.identifier_eq_iff, fieldStem_eq_underscore_iff hname]
  simp only [fieldMethods]
  split <;> simp [hgetter, hsetter]

/-- A type or method of a register is without a name exactly if the register or a field is called
    by the underscore. -/
theorem underscore_mem_registerType_iff
    (hnames : ∀ field ∈ register.fields, IsIdentifier field.name) :
    "_" ∈ (RegisterType.ofRegister config register).names ↔ "_" ∈ register.names := by
  have hfields : "_" ∈ (register.fields.flatMap (fieldMethods register)).map Method.name ↔
      "_" ∈ register.fields.map Field.name := by
    rw [List.map_flatMap, List.mem_flatMap, List.mem_map]
    exact exists_congr fun field => and_congr_right fun hfield =>
      underscore_mem_fieldMethods_iff (hnames field hfield)
  have hregister : "_" = identifier register.name ↔ "_" = register.name := by
    rw [eq_comm, unescaped_underscore.identifier_eq_iff, eq_comm]
  simp [RegisterType.names, RegisterType.ofRegister, registerMethods, Register.names, hfields,
    hregister]

theorem fileTypeName_ne_underscore (hname : config.moduleName ≠ "_") :
    fileTypeName config ≠ "_" := by
  dsimp only [fileTypeName]
  split
  · intro heq
    have hlength := congrArg (fun name => name.toList.length) heq
    simp at hlength
  · rw [ne_eq, unescaped_underscore.identifier_eq_iff]
    exact mt (map_eq_underscore_iff fun _ => Text.toUpper_eq_iff (by decide)).mp hname

theorem underscore_mem_moduleNames_iff (hwf : config.WellFormed) :
    "_" ∈ (Module.ofConfig config).names ↔ "_" ∈ config.names := by
  have hmodule : (Module.ofConfig config).name = "_" ↔ config.moduleName = "_" :=
    unescaped_underscore.identifier_eq_iff.trans
      (map_eq_underscore_iff fun _ => Text.toLower_eq_iff (by decide))
  have hregisters : (∃ register ∈ (Module.ofConfig config).registers, "_" ∈ register.names) ↔
      ∃ register ∈ config.registers, "_" ∈ register.names := by
    simp only [registers_ofConfig hwf, List.mem_map, exists_exists_and_eq_and]
    exact exists_congr fun register => and_congr_right fun hmem =>
      underscore_mem_registerType_iff (hwf.fieldName register hmem)
  simp only [Module.names, Config.names, List.mem_append, List.mem_cons, List.not_mem_nil,
    or_false, List.mem_flatMap, hregisters, eq_comm (a := "_"), hmodule]
  constructor
  · rintro ((hname | hname) | hmem)
    · exact .inl hname
    · exact .inl (by_contra fun hne => fileTypeName_ne_underscore hne hname)
    · exact .inr hmem
  · rintro (hname | hmem)
    · exact .inl (.inl hname)
    · exact .inr hmem

/-- The accessor module of a valid register file is refused for the lone underscore alone. -/
theorem text?_eq_ite (hwf : config.WellFormed) :
    text? config = if "_" ∈ config.names then none else some (Module.ofConfig config).text := by
  have hhole : (Module.ofConfig config).names.any isHole = true ↔ "_" ∈ config.names := by
    rw [← underscore_mem_moduleNames_iff hwf, List.any_eq_true]
    simp [isHole]
  simp only [text?, hhole]

end Accessors

/-! ### Preparation -/

theorem AddressPlan.names_of_assign {config planned : Config}
    (hassign : assign config = .ok planned) : planned.names = config.names := by
  obtain ⟨-, -, rfl⟩ := assign_eq_ok_iff.mp hassign
  rw [Config.names, Config.names, List.flatMap_def, List.flatMap_def, map_fill fun _ _ => rfl]

/-- What preparation leaves behind has the names that were declared. -/
theorem names_of_prepare (config : Config) (options : PrepareOptions) :
    (prepare config options).config.names = config.names := by
  dsimp only [prepare]
  split
  · split
    · next planned hassign => exact (AddressPlan.names_of_assign hassign).trans rfl
    · rfl
  · rfl

/-- A valid report is that of the validator, as a failed plan is an error. -/
theorem wellFormed_of_prepare {config : Config} {options : PrepareOptions}
    (hvalid : (prepare config options).report.isValid = true) :
    (prepare config options).config.WellFormed ∧
      (prepare config options).config.names = config.names := by
  refine ⟨?_, names_of_prepare config options⟩
  cases hplan : options.planError? config with
  | none =>
    rw [report_of_planned hplan] at hvalid
    exact Validate.wellFormed_of_isValid hvalid
  | some e =>
    rw [prepare_of_planError hplan] at hvalid
    cases hvalid

/-! ### Generation -/

/-- Behind a valid report only the accessor module can fail. -/
theorem generate_of_accessors {config : Config} {options : GenerateOptions}
    (hvalid : (prepare config options.prepare).report.isValid = true) :
    (∀ e, wantedAccessors options.accessors (prepare config options.prepare).config = .error e →
        generate config options = .error e) ∧
      ∀ text, wantedAccessors options.accessors (prepare config options.prepare).config =
          .ok text →
        ∃ artifacts, generate config options = .ok artifacts ∧ artifacts.accessors = text := by
  unfold generate
  generalize prepare config options.prepare = prepared at hvalid
  obtain ⟨prepared, report⟩ := prepared
  dsimp only at hvalid ⊢
  rw [hvalid]
  constructor
  · intro e haccessors
    rw [haccessors]
    rfl
  · intro text haccessors
    rw [haccessors]
    exact ⟨_, rfl, rfl⟩

/-- The accessor module is made exactly if it is asked for. -/
theorem accessors_of_generate {config : Config} {options : GenerateOptions} {artifacts : Artifacts}
    (hgenerate : generate config options = .ok artifacts) :
    artifacts.accessors.isSome = options.accessors := by
  have hwanted : ∀ {config text}, wantedAccessors options.accessors config = .ok text →
      text.isSome = options.accessors := by
    intro config text htext
    unfold wantedAccessors at htext
    split_ifs at htext with hwanted
    · split at htext
      · rw [← Except.ok.inj htext, hwanted]
        rfl
      · cases htext
    · rw [← Except.ok.inj htext, Bool.eq_false_iff.mpr hwanted]
      rfl
  unfold generate at hgenerate
  generalize prepare config options.prepare = prepared at hgenerate
  obtain ⟨prepared, report⟩ := prepared
  dsimp only at hgenerate
  cases hvalid : report.isValid with
  | false =>
    rw [hvalid] at hgenerate
    cases hgenerate
  | true =>
    rw [hvalid] at hgenerate
    cases haccessors : wantedAccessors options.accessors prepared with
    | error e =>
      rw [haccessors] at hgenerate
      cases hgenerate
    | ok text =>
      rw [haccessors] at hgenerate
      rw [← hwanted haccessors, ← Except.ok.inj hgenerate]

/-- Generation from a valid report gives all that is asked for, unless the accessor module is
    asked for and something is called by the lone underscore: then it gives nothing. -/
theorem generate_isOk_iff (config : Config) (options : GenerateOptions)
    (hvalid : (prepare config options.prepare).report.isValid = true) :
    ((∃ artifacts, generate config options = .ok artifacts ∧
        artifacts.accessors.isSome = options.accessors) ↔
      ¬ (options.accessors = true ∧ "_" ∈ config.names)) ∧
    (options.accessors = true ∧ "_" ∈ config.names →
      generate config options = .error .unnamedAccessor) := by
  obtain ⟨hwf, hnames⟩ := wellFormed_of_prepare hvalid
  have htext := Accessors.text?_eq_ite hwf
  rw [hnames] at htext
  obtain ⟨hfails, hworks⟩ := generate_of_accessors hvalid
  have hrefused : options.accessors = true ∧ "_" ∈ config.names →
      generate config options = .error .unnamedAccessor := by
    rintro ⟨hwanted, hnamed⟩
    apply hfails
    rw [hwanted, wantedAccessors, if_pos rfl, htext, if_pos hnamed]
  refine ⟨⟨?_, fun hnot => ?_⟩, hrefused⟩
  · rintro ⟨artifacts, hok, -⟩ hboth
    rw [hrefused hboth] at hok
    cases hok
  · cases hwanted : options.accessors with
    | false =>
      obtain ⟨artifacts, hok, haccessors⟩ := hworks none (by rw [hwanted]; rfl)
      exact ⟨artifacts, hok, by rw [haccessors]; rfl⟩
    | true =>
      have hnamed : "_" ∉ config.names := fun hnamed => hnot ⟨hwanted, hnamed⟩
      obtain ⟨artifacts, hok, haccessors⟩ := hworks _ (by
        rw [hwanted, wantedAccessors, if_pos rfl, htext, if_neg hnamed])
      exact ⟨artifacts, hok, by rw [haccessors]; rfl⟩

/-- A register file `regs` of one register with one field. -/
def Config.oneField (register field : String) : Config where
  moduleName := "regs"
  registers := [
    { name := register, address := some 0, fields := [{ name := field, bits := BitRange.bit 0 }] }]

/-- Names that start with an underscore are no obstacle. -/
theorem generate_isOk_underscored :
    (prepare (.oneField "_A" "__") {}).report.isValid = true ∧
      ∃ artifacts, generate (.oneField "_A" "__") { accessors := true } = .ok artifacts ∧
        artifacts.accessors.isSome = true := by
  have hvalid : (prepare (.oneField "_A" "__") {}).report.isValid = true := by decide +kernel
  exact ⟨hvalid, (generate_isOk_iff _ { accessors := true } hvalid).1.mpr (by decide)⟩

/-- A valid register file that is refused for the name of a field. -/
theorem generate_eq_error_underscore :
    (prepare (.oneField "A" "_") {}).report.isValid = true ∧
      generate (.oneField "A" "_") { accessors := true } = .error .unnamedAccessor := by
  have hvalid : (prepare (.oneField "A" "_") {}).report.isValid = true := by decide +kernel
  have htext : Accessors.text? (.oneField "A" "_") = none := by decide +kernel
  refine ⟨hvalid, (generate_of_accessors hvalid).1 _ ?_⟩
  change wantedAccessors true (.oneField "A" "_") = _
  rw [wantedAccessors, if_pos rfl, htext]

end RegisterFile
