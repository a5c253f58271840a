import Mathlib
import RegisterFile.Proofs.Hardware.NameForms
import RegisterFile.Proofs.Header.Accessors
import RegisterFile.Proofs.Validate.Accepts

/-!
The names that a header defines. A name is a stem with an ending, and as no ending is the end of
another one, two names are equal only if both their parts are. Stems of registers differ, but those
of fields join two names: fields `B_C` of `A` and `C` of `A_B` have the same, and a register `A_B_C`
without fields has it too.
-/

namespace RegisterFile.Header

/-- The names that the directives of a header define, its guard first. -/
def File.defined (file : File) : List String :=
  file.guard :: file.definitions.map Macro.name

/-! ### Stems and endings -/

/-- The endings of names that are there once in a file. -/
def fileEndings : List String :=
  ["_H", "_DATA_WIDTH", "_ADDR_WIDTH"]

/-- The endings of names that are there once for a register. -/
def registerEndings : List String :=
  ["_ADDR", "_RESET", "_RESET_LO", "_RESET_HI"]

/-- The endings of names that are there once for a field. -/
def positionEndings : List String :=
  ["_MASK", "_MASK_LO", "_MASK_HI", "_SHIFT", "_GET", "_SET"]

def endings : List String :=
  fileEndings ++ registerEndings ++ positionEndings

/-- No ending is the end of another one. -/
theorem ending_eq_of_suffix :
    ∀ a ∈ endings, ∀ b ∈ endings, a.toList <:+ b.toList → a = b := by
  decide

theorem append_ending_inj {stem other a b : String} (ha : a ∈ endings) (hb : b ∈ endings)
    (heq : stem ++ a = other ++ b) : stem = other ∧ a = b := by
  have hlists : stem.toList ++ a.toList = other.toList ++ b.toList := by
    rw [← String.toList_append, ← String.toList_append, heq]
  have hends : a = b := by
    rcases List.append_eq_append_iff.mp hlists with ⟨middle, -, hmiddle⟩ | ⟨middle, -, hmiddle⟩
    · exact (ending_eq_of_suffix b hb a ha ⟨middle, hmiddle.symm⟩).symm
    · exact ending_eq_of_suffix a ha b hb ⟨middle, hmiddle.symm⟩
  subst hends
  exact ⟨String.toList_inj.mp (List.append_cancel_right hlists), rfl⟩

/-- The names of stems that are given with their endings. -/
def spelled (entries : List (String × List String)) : List String :=
  entries.flatMap fun entry => entry.2.map (entry.1 ++ ·)

theorem mem_spelled_iff {entries : List (String × List String)} {name : String} :
    name ∈ spelled entries ↔ ∃ entry ∈ entries, ∃ ending ∈ entry.2, entry.1 ++ ending = name := by
  simp only [spelled, List.mem_flatMap, List.mem_map]

theorem spelled_flatMap {α : Type} (items : List α) (entries : α → List (String × List String)) :
    spelled (items.flatMap entries) = items.flatMap fun item => spelled (entries item) :=
  List.flatMap_assoc

/-- Names with endings of different kinds are different. -/
theorem disjoint_spelled {first second : List (String × List String)} {kind other : List String}
    (hfirst : ∀ entry ∈ first, entry.2 ⊆ kind) (hsecond : ∀ entry ∈ second, entry.2 ⊆ other)
    (hkind : kind ⊆ endings) (hother : other ⊆ endings)
    (hapart : ∀ ending ∈ kind, ending ∉ other) :
    (spelled first).Disjoint (spelled second) := by
  intro name hname hname'
  obtain ⟨entry, hentry, ending, hending, rfl⟩ := mem_spelled_iff.mp hname
  obtain ⟨entry', hentry', ending', hending', heq⟩ := mem_spelled_iff.mp hname'
  have hending := hfirst entry hentry hending
  have hending' := hsecond entry' hentry' hending'
  obtain ⟨-, rfl⟩ := append_ending_inj (hother hending') (hkind hending) heq
  exact hapart _ hending hending'

/-- Stems that share an ending have distinct names exactly if they are distinct. -/
theorem nodup_spelled_iff {entries : List (String × List String)} (shared : String)
    (hentries : ∀ entry ∈ entries,
      entry.2 ⊆ endings ∧ entry.2.Nodup ∧ shared ∈ entry.2) :
    (spelled entries).Nodup ↔ (entries.map Prod.fst).Nodup := by
  have hnodup : ∀ entry ∈ entries, (entry.2.map (entry.1 ++ ·)).Nodup := by
    intro entry hentry
    obtain ⟨hendings, hdistinct, -⟩ := hentries entry hentry
    exact hdistinct.map_on fun a ha b hb heq =>
      (append_ending_inj (hendings ha) (hendings hb) heq).2
  rw [spelled, List.nodup_flatMap, and_iff_right hnodup, List.Nodup, List.pairwise_map]
  apply List.Pairwise.iff_of_mem
  intro entry other hentry hother
  obtain ⟨hendings, -, hshared⟩ := hentries entry hentry
  obtain ⟨hothers, -, hshared'⟩ := hentries other hother
  constructor
  · intro hapart heq
    exact hapart (List.mem_map_of_mem hshared) (heq ▸ List.mem_map_of_mem hshared')
  · intro hne name hname hname'
    obtain ⟨ending, hending, rfl⟩ := List.mem_map.mp hname
    obtain ⟨last, hlast, heq⟩ := List.mem_map.mp hname'
    exact hne (append_ending_inj (hothers hlast) (hendings hending) heq).1.symm

/-! ### The names of a header -/

/-- What the names of a register's macros start with. -/
def registerStem (config : Config) (register : Register) : String :=
  config.moduleName.toUpper ++ "_" ++ register.name.toUpper

/-- The stems under which masks and shifts are defined: those of the fields, and that of a register
    without fields. -/
def positionStems (config : Config) : List String :=
  config.registers.flatMap fun register =>
    if register.fields.isEmpty then [registerStem config register]
    else register.fields.map (fieldStem config register)

/-- The endings of a value's names in a register of `width` bits. -/
def constantEndings (ending : String) (width : Nat) : List String :=
  if width ≤ maxConstantWidth then [ending] else [ending ++ "_LO", ending ++ "_HI"]

def registerEntry (config : Config) (register : Register) : String × List String :=
  (registerStem config register,
    "_ADDR" :: constantEndings "_RESET" (config.registerWidth register).toNat)

/-- The stems of a register's masks and shifts, with their endings. -/
def positionEntries (config : Config) (register : Register) : List (String × List String) :=
  let width := (config.registerWidth register).toNat
  let position := constantEndings "_MASK" width ++ ["_SHIFT"]
  if register.fields.isEmpty then [(registerStem config register, position)]
  else register.fields.map fun field =>
    (fieldStem config register field,
      position ++ if width ≤ maxConstantWidth then ["_GET", "_SET"] else [])

variable {config : Config} {provenance : Provenance}

theorem names_constants (name ending : String) (value : Word) (width : Nat) :
    (constants (name ++ ending) value width).map Macro.name =
      (constantEndings ending width).map (name ++ ·) := by
  unfold constants constantEndings
  split <;> simp [String.append_assoc]

theorem names_position (name : String) (mask : Word) (low width : Nat) :
    (position name mask low width).map Macro.name =
      (constantEndings "_MASK" width ++ ["_SHIFT"]).map (name ++ ·) := by
  simp only [position, List.map_append, names_constants, List.map_cons, List.map_nil]

theorem names_positions (register : Register) :
    (positions (registerStem config register) (config.registerWidth register).toNat register).map
        Macro.name =
      spelled (positionEntries config register) := by
  simp only [positions, positionEntries]
  cases hfields : register.fields.isEmpty with
  | true => simp [names_position, spelled]
  | false =>
    simp only [Bool.false_eq_true, if_false, List.map_flatMap, spelled, List.flatMap_map]
    congr 1
    funext field
    simp only [fieldMacros, List.map_append, names_position, fieldStem, registerStem]
    split <;> rfl

theorem names_registerMacros (register : Register) :
    (registerMacros config (registerStem config register) register).map Macro.name =
      spelled [registerEntry config register] ++ spelled (positionEntries config register) := by
  simp only [registerMacros, List.map_cons, List.map_append, names_constants, names_positions,
    spelled, registerEntry, List.flatMap_cons, List.flatMap_nil, List.append_nil,
    List.cons_append]

/-- The macro that a line defines. -/
def Line.definition? : Line → Option Macro
  | .define definition => some definition
  | _ => none

theorem File.definitions_eq (file : File) :
    file.definitions = file.body.filterMap Line.definition? :=
  rfl

theorem definitions_registerLines (register : Register) :
    (registerLines config config.moduleName.toUpper register).filterMap Line.definition? =
      registerMacros config (registerStem config register) register := by
  have hdefine : Line.definition? ∘ Line.define = some := rfl
  have hblank : Line.definition? .blank = none := rfl
  have hcomment : ∀ text, Line.definition? (.comment text) = none := fun _ => rfl
  simp only [registerLines, List.filterMap_append, List.filterMap_map, hdefine, registerStem,
    List.filterMap_some]
  split <;> simp [hblank, hcomment]

/-- A header defines the names of the file, and then those of each register and of its fields. -/
theorem defined_ofConfig :
    (File.ofConfig config provenance).defined =
      spelled [(config.moduleName.toUpper, fileEndings)] ++
        config.registers.flatMap fun register =>
          spelled [registerEntry config register] ++ spelled (positionEntries config register) := by
  simp only [File.defined, File.definitions_eq, File.ofConfig, List.filterMap_append,
    List.filterMap_flatMap, definitions_registerLines, List.map_append, List.map_flatMap,
    names_registerMacros]
  rfl

theorem defined_perm :
    (File.ofConfig config provenance).defined.Perm
      (spelled [(config.moduleName.toUpper, fileEndings)] ++
        (spelled (config.registers.map (registerEntry config)) ++
          spelled (config.registers.flatMap (positionEntries config)))) := by
  rw [defined_ofConfig, spelled_flatMap, List.map_eq_flatMap, spelled_flatMap]
  exact (List.flatMap_append_perm _ _ _).symm.append_left _

/-! ### What the names have in common -/

theorem constantEndings_reset (width : Nat) :
    constantEndings "_RESET" width ⊆ registerEndings ∧ (constantEndings "_RESET" width).Nodup ∧
      "_ADDR" ∉ constantEndings "_RESET" width := by
  unfold constantEndings
  split <;> decide

theorem registerEntry_endings (register : Register) :
    (registerEntry config register).2 ⊆ registerEndings ∧
      (registerEntry config register).2.Nodup ∧
      "_ADDR" ∈ (registerEntry config register).2 := by
  obtain ⟨hsubset, hnodup, hapart⟩ :=
    constantEndings_reset (config.registerWidth register).toNat
  exact ⟨List.cons_subset.mpr ⟨by decide, hsubset⟩, List.nodup_cons.mpr ⟨hapart, hnodup⟩,
    List.mem_cons_self⟩

/-- The masks and shifts of fields and of a register without fields end in the same way. -/
theorem positionEntries_endings {register : Register} :
    ∀ entry ∈ positionEntries config register,
      entry.2 ⊆ positionEndings ∧ entry.2.Nodup ∧ "_SHIFT" ∈ entry.2 := by
  intro entry hentry
  simp only [positionEntries] at hentry
  split at hentry
  · obtain rfl := List.mem_singleton.mp hentry
    unfold constantEndings
    split <;> (dsimp only; decide)
  · obtain ⟨field, -, rfl⟩ := List.mem_map.mp hentry
    unfold constantEndings
    split <;> (dsimp only; decide)

theorem stems_positionEntries :
    (config.registers.flatMap (positionEntries config)).map Prod.fst = positionStems config := by
  rw [List.map_flatMap, positionStems]
  congr 1
  funext register
  simp only [positionEntries]
  split
  · rfl
  · rw [List.map_map]
    rfl

theorem ident_eq_of_toUpper_eq {name other : String} (heq : name.toUpper = other.toUpper) :
    ident name = ident other := by
  have hlower := congrArg (fun upper => upper.toList.map Char.toLower) heq
  apply String.toList_inj.mp
  simpa [Hardware.toList_ident, String.toUpper, Function.comp_def,
    Char.toLower_toUpper_eq_toLower] using hlower

theorem nodup_registerStems (hwf : config.WellFormed) :
    (config.registers.map (registerStem config)).Nodup := by
  refine List.pairwise_map.mpr ((List.pairwise_map.mp hwf.registersDistinct).imp ?_)
  intro register other hne heq
  exact hne (ident_eq_of_toUpper_eq (String.append_right_inj _ |>.mp heq))

/-! ### Names of one kind -/

theorem nodup_fileNames (name : String) : (spelled [(name, fileEndings)]).Nodup := by
  refine (nodup_spelled_iff "_H" fun entry hentry => ?_).mpr (List.nodup_singleton _)
  obtain rfl := List.mem_singleton.mp hentry
  dsimp only
  decide

theorem nodup_registerNames (hwf : config.WellFormed) :
    (spelled (config.registers.map (registerEntry config))).Nodup := by
  refine (nodup_spelled_iff "_ADDR" fun entry hentry => ?_).mpr ?_
  · obtain ⟨register, -, rfl⟩ := List.mem_map.mp hentry
    obtain ⟨hsubset, hrest⟩ := @registerEntry_endings config register
    exact ⟨List.Subset.trans hsubset (by decide), hrest⟩
  · rw [List.map_map]
    exact nodup_registerStems hwf

theorem nodup_positionNames_iff :
    (spelled (config.registers.flatMap (positionEntries config))).Nodup ↔
      (positionStems config).Nodup := by
  rw [← stems_positionEntries]
  refine nodup_spelled_iff "_SHIFT" fun entry hentry => ?_
  obtain ⟨register, -, hentry⟩ := List.mem_flatMap.mp hentry
  obtain ⟨hsubset, hrest⟩ := positionEntries_endings entry hentry
  exact ⟨List.Subset.trans hsubset (by decide), hrest⟩

end RegisterFile.Header

namespace RegisterFile

open Header

/-- A header of a valid register file defines each name once exactly if no two masks have the same
    stem. -/
theorem defined_nodup_iff {config : Config} {provenance : Provenance}
    (hvalid : (validate config).isValid = true) :
    (File.ofConfig config provenance).defined.Nodup ↔ (positionStems config).Nodup := by
  have hwf := (isValid_validate_iff config).mp hvalid
  have hfile : ∀ entry ∈ [(config.moduleName.toUpper, fileEndings)],
      entry.2 ⊆ fileEndings := by simp
  have hregister : ∀ entry ∈ config.registers.map (registerEntry config),
      entry.2 ⊆ registerEndings := by
    intro entry hentry
    obtain ⟨register, -, rfl⟩ := List.mem_map.mp hentry
    exact (registerEntry_endings register).1
  have hposition : ∀ entry ∈ config.registers.flatMap (positionEntries config),
      entry.2 ⊆ positionEndings := by
    intro entry hentry
    obtain ⟨register, -, hentry⟩ := List.mem_flatMap.mp hentry
    exact (positionEntries_endings entry hentry).1
  -- Names of different kinds end differently, so only masks and shifts can meet.
  have hfileRegister := disjoint_spelled hfile hregister (by decide) (by decide) (by decide)
  have hfilePosition := disjoint_spelled hfile hposition (by decide) (by decide) (by decide)
  have hapart := disjoint_spelled hregister hposition (by decide) (by decide) (by decide)
  rw [defined_perm.nodup_iff, List.nodup_append', List.nodup_append', nodup_positionNames_iff,
    List.disjoint_append_right]
  constructor
  · exact fun h => h.2.1.2.1
  · exact fun h => ⟨nodup_fileNames _, ⟨nodup_registerNames hwf, h, hapart⟩, hfileRegister,
      hfilePosition⟩

/-- Registers `A` and `A_B` with a field each, `B_C` and `field`. -/
def Config.joined (field : String) : Config where
  moduleName := "regs"
  registers := [
    { name := "A", address := some 0
      fields := [{ name := "B_C", bits := BitRange.bit 0 }] },
    { name := "A_B", address := some 4
      fields := [{ name := field, bits := BitRange.bit 1 }] }]

theorem defined_nodup_joined :
    (validate (Config.joined "D")).isValid = true ∧
      (File.ofConfig (Config.joined "D") ⟨"regforge", "unspecified", ""⟩).defined.Nodup :=
  have hvalid : (validate (Config.joined "D")).isValid = true := by decide +kernel
  ⟨hvalid, (defined_nodup_iff hvalid).mpr (by decide +kernel)⟩

/-- A valid register file whose header defines a mask twice. -/
theorem not_nodup_defined_joined :
    (validate (Config.joined "C")).isValid = true ∧
      ¬ (File.ofConfig (Config.joined "C") ⟨"regforge", "unspecified", ""⟩).defined.Nodup :=
  ⟨by decide +kernel, by decide +kernel⟩

end RegisterFile
