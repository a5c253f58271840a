import Mathlib
import RegisterFile.Proofs.WellFormed

/-!
Register files that differ in the order of their declarations only: of the registers, of the fields
in a register, and of the locks on either. Validation does not tell them apart.
-/

namespace RegisterFile

/-- Where names are told apart, the first item of a name is the one item of it. -/
theorem find?_key_eq_some_iff {α : Type} {key : α → String} {items : List α}
    (hdistinct : (items.map key).Nodup) {name : String} {item : α} :
    items.find? (fun item => key item == name) = some item ↔ item ∈ items ∧ key item = name := by
  constructor
  · intro hfind
    have hname := List.find?_some (p := fun item => key item == name) hfind
    exact ⟨List.mem_of_find?_eq_some hfind, beq_iff_eq.mp hname⟩
  · rintro ⟨hmem, rfl⟩
    have hsome : (items.find? fun other => key other == key item).isSome = true :=
      List.find?_isSome.mpr ⟨item, hmem, beq_self_eq_true _⟩
    obtain ⟨found, hfound⟩ := Option.isSome_iff_exists.mp hsome
    have hname := List.find?_some (p := fun other => key other == key item) hfound
    rw [hfound, List.inj_on_of_nodup_map hdistinct (List.mem_of_find?_eq_some hfound) hmem
      (beq_iff_eq.mp hname)]

/-- The items of two lists correspond one to one, in whatever order they stand. -/
def Rearranged {α β : Type} (r : α → β → Prop) (items : List α) (others : List β) : Prop :=
  Multiset.Rel r (items : Multiset α) (others : Multiset β)

namespace Rearranged

variable {α β γ δ : Type} {r : α → β → Prop} {items between : List α} {others : List β}

theorem of_perm (hperm : items.Perm between) (hcorrespond : List.Forall₂ r between others) :
    Rearranged r items others := by
  rw [Rearranged, Multiset.coe_eq_coe.mpr hperm]
  clear hperm
  induction hcorrespond with
  | nil => exact Multiset.Rel.zero
  | cons hfirst _ ih => exact Multiset.Rel.cons hfirst ih

theorem flip (hitems : Rearranged r items others) :
    Rearranged (fun other item => r item other) others items :=
  Multiset.rel_flip.mpr hitems

theorem exists_of_mem (hitems : Rearranged r items others) {item : α} (hmem : item ∈ items) :
    ∃ other ∈ others, r item other :=
  Multiset.exists_mem_of_rel_of_mem hitems hmem

theorem exists_of_mem_others (hitems : Rearranged r items others) {other : β}
    (hmem : other ∈ others) : ∃ item ∈ items, r item other :=
  hitems.flip.exists_of_mem hmem

theorem map {p : γ → δ → Prop} {f : α → γ} {g : β → δ} (hitems : Rearranged r items others)
    (hmap : ∀ item ∈ items, ∀ other ∈ others, r item other → p (f item) (g other)) :
    Rearranged p (items.map f) (others.map g) :=
  Multiset.rel_map.mpr (hitems.mono hmap)

/-- What corresponding items have in common comes out as a permutation. -/
theorem map_perm {f : α → γ} {g : β → γ} (hitems : Rearranged r items others)
    (hsame : ∀ item ∈ items, ∀ other ∈ others, r item other → f item = g other) :
    (items.map f).Perm (others.map g) :=
  Multiset.coe_eq_coe.mp (Multiset.rel_eq.mp (hitems.map hsame))

theorem flatMap_perm {f : α → List γ} {g : β → List γ} (hitems : Rearranged r items others)
    (hperm : ∀ item other, r item other → (f item).Perm (g other)) :
    (items.flatMap f).Perm (others.flatMap g) := by
  apply Multiset.coe_eq_coe.mp
  rw [← Multiset.coe_bind, ← Multiset.coe_bind]
  refine Multiset.rel_eq.mp (Multiset.rel_bind (fun item other hcorrespond => ?_) hitems)
  exact Multiset.rel_eq.mpr (Multiset.coe_eq_coe.mpr (hperm item other hcorrespond))

theorem filterMap_perm {f : α → Option γ} {g : β → Option γ} (hitems : Rearranged r items others)
    (hsame : ∀ item other, r item other → f item = g other) :
    (items.filterMap f).Perm (others.filterMap g) := by
  rw [List.filterMap_eq_flatMap_toList, List.filterMap_eq_flatMap_toList]
  exact hitems.flatMap_perm fun item other hcorrespond => by rw [hsame item other hcorrespond]

section

variable {q : α → α → Prop} {key : α → String} {rest : List α} {name : String}

variable (hitems : Rearranged q items rest)
  (hkey : ∀ item other, q item other → key item = key other)

include hitems hkey

theorem find?_eq_some (hdistinct : (items.map key).Nodup) {item : α}
    (hfind : items.find? (fun item => key item == name) = some item) :
    ∃ other, rest.find? (fun other => key other == name) = some other ∧ q item other := by
  obtain ⟨hitem, rfl⟩ := (find?_key_eq_some_iff hdistinct).mp hfind
  obtain ⟨other, hother, hcorrespond⟩ := hitems.exists_of_mem hitem
  have hrest : (rest.map key).Nodup :=
    (hitems.map_perm fun item _ other _ => hkey item other).nodup_iff.mp hdistinct
  exact ⟨other, (find?_key_eq_some_iff hrest).mpr ⟨hother, (hkey item other hcorrespond).symm⟩,
    hcorrespond⟩

theorem find?_eq_none (hfind : items.find? (fun item => key item == name) = none) :
    rest.find? (fun other => key other == name) = none := by
  refine List.find?_eq_none.mpr fun other hmem hname => ?_
  obtain ⟨item, hitem, hcorrespond⟩ := hitems.exists_of_mem_others hmem
  exact List.find?_eq_none.mp hfind item hitem (by rwa [hkey item other hcorrespond])

end

end Rearranged

/-- A field with its locks in another order. -/
structure Field.Reorders (field other : Field) : Prop where
  lockedBy : field.lockedBy.Perm other.lockedBy
  rest : { field with lockedBy := other.lockedBy } = other

/-- A register with its fields and locks in another order. -/
structure Register.Reorders (register other : Register) : Prop where
  fields : Rearranged Field.Reorders register.fields other.fields
  lockedBy : register.lockedBy.Perm other.lockedBy
  rest : { register with fields := other.fields, lockedBy := other.lockedBy } = other

/-- A register file with its registers, fields and locks in another order. -/
structure Config.Reorders (config other : Config) : Prop where
  registers : Rearranged Register.Reorders config.registers other.registers
  rest : { config with registers := other.registers } = other

namespace Field.Reorders

variable {field other : Field}

theorem symm (hfield : field.Reorders other) : other.Reorders field where
  lockedBy := hfield.lockedBy.symm
  rest := by rw [← hfield.rest]

theorem name (hfield : field.Reorders other) : field.name = other.name := by
  rw [← hfield.rest]

theorem bits (hfield : field.Reorders other) : field.bits = other.bits := by
  rw [← hfield.rest]

end Field.Reorders

namespace Register.Reorders

variable {register other : Register}

theorem symm (hregister : register.Reorders other) : other.Reorders register where
  fields := hregister.fields.flip.mono fun _ _ _ _ hfield => hfield.symm
  lockedBy := hregister.lockedBy.symm
  rest := by rw [← hregister.rest]

theorem name (hregister : register.Reorders other) : register.name = other.name := by
  rw [← hregister.rest]

theorem address (hregister : register.Reorders other) : register.address = other.address := by
  rw [← hregister.rest]

theorem type (hregister : register.Reorders other) : register.type = other.type := by
  rw [← hregister.rest]

theorem width (hregister : register.Reorders other) : register.width = other.width := by
  rw [← hregister.rest]

theorem magic (hregister : register.Reorders other) : register.magic = other.magic := by
  rw [← hregister.rest]

theorem typeIn (hregister : register.Reorders other) {field otherField : Field}
    (hfield : field.Reorders otherField) : field.typeIn register = otherField.typeIn other := by
  rw [Field.typeIn, Field.typeIn, ← hfield.rest, hregister.type]

theorem fields_isEmpty (hregister : register.Reorders other) :
    register.fields.isEmpty = other.fields.isEmpty := by
  have hnames : (register.fields.map Field.name).Perm (other.fields.map Field.name) :=
    hregister.fields.map_perm fun _ _ _ _ hfield => hfield.name
  simpa only [List.isEmpty_map] using hnames.isEmpty_eq

theorem hasOverrides_eq (hregister : register.Reorders other) :
    register.hasOverrides = other.hasOverrides := by
  have hoverrides : (register.fields.map fun field => field.overrides register).Perm
      (other.fields.map fun field => field.overrides other) := by
    refine hregister.fields.map_perm fun field _ otherField _ hfield => ?_
    have hlocks : field.lockedBy.isEmpty = otherField.lockedBy.isEmpty :=
      hfield.lockedBy.isEmpty_eq
    rw [Field.overrides, Field.overrides, hlocks, ← hfield.rest, ← hregister.rest]
  have hany := hoverrides.any_eq (f := id)
  rwa [List.any_map, List.any_map] at hany

theorem field?_eq_some (hregister : register.Reorders other)
    (hdistinct : (register.fields.map Field.name).Nodup) {name : String} {field : Field}
    (hfind : register.field? name = some field) :
    ∃ otherField, other.field? name = some otherField ∧ field.Reorders otherField :=
  hregister.fields.find?_eq_some (fun _ _ hfield => hfield.name) hdistinct hfind

theorem allLocks_perm (hregister : register.Reorders other) :
    register.allLocks.Perm other.allLocks :=
  hregister.lockedBy.append (hregister.fields.flatMap_perm fun _ _ hfield => hfield.lockedBy)

theorem allMagic_perm (hregister : register.Reorders other) :
    register.allMagic.Perm other.allMagic := by
  rw [Register.allMagic, Register.allMagic, hregister.magic]
  refine (hregister.fields.filterMap_perm fun _ _ hfield => ?_).append_left _
  rw [← hfield.rest]

end Register.Reorders

namespace Config.Reorders

variable {config other : Config} {register otherRegister : Register}

theorem symm (hconfig : config.Reorders other) : other.Reorders config where
  registers := hconfig.registers.flip.mono fun _ _ _ _ hregister => hregister.symm
  rest := by rw [← hconfig.rest]

theorem registerWidth (hconfig : config.Reorders other)
    (hregister : register.Reorders otherRegister) :
    config.registerWidth register = other.registerWidth otherRegister := by
  rw [Config.registerWidth, Config.registerWidth, ← hconfig.rest, hregister.width]

theorem register?_eq_some (hconfig : config.Reorders other)
    (hdistinct : (config.registers.map Register.name).Nodup) {name : String}
    (hfind : config.register? name = some register) :
    ∃ found, other.register? name = some found ∧ register.Reorders found :=
  hconfig.registers.find?_eq_some (fun _ _ hregister => hregister.name) hdistinct hfind

end Config.Reorders

end RegisterFile
