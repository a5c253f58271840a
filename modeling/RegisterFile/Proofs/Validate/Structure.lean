import RegisterFile.Proofs.WellFormed
import RegisterFile.Validate

/-!
What the structural checks accept: the file as a whole, names, addresses and fields. A check that
walks a list with what it has seen so far accepts exactly if the list continues what was seen.
-/

namespace RegisterFile

namespace Report

@[simp] theorem isValid_nil : isValid [] = true :=
  rfl

@[simp] theorem isValid_append (first second : Report) :
    isValid (first ++ second) = (isValid first && isValid second) := by
  simp [isValid]

@[simp] theorem isValid_cons (finding : Diagnostic) (rest : Report) :
    isValid (finding :: rest) = (!finding.isError && isValid rest) := by
  simp [isValid]

theorem isValid_iff {report : Report} :
    report.isValid = true ↔ ∀ finding ∈ report, finding.isError = false := by
  simp [isValid]

theorem isValid_flatMap_iff {α : Type} {items : List α} {check : α → Report} :
    isValid (items.flatMap check) = true ↔ ∀ item ∈ items, (check item).isValid = true := by
  induction items with
  | nil => simp
  | cons item rest ih => simp [ih]

end Report

@[simp] theorem Diagnostic.isError_error (kind : Diagnostic.Kind) (location : Location)
    (message : String) : (Diagnostic.error kind location message).isError = true :=
  rfl

@[simp] theorem Diagnostic.isError_warning (kind : Diagnostic.Kind) (location : Location)
    (message : String) : (Diagnostic.warning kind location message).isError = false :=
  rfl

theorem Text.isIdentifier_iff {name : String} :
    Text.isIdentifier name = true ↔ IsIdentifier name := by
  unfold Text.isIdentifier IsIdentifier
  cases hname : name.toList with
  | nil => simp
  | cons first rest =>
    simp only [Text.startsIdentifier, Text.continuesIdentifier, Bool.and_eq_true,
      Bool.or_eq_true, beq_iff_eq, List.all_eq_true, List.cons.injEq]
    constructor
    · rintro ⟨hfirst, hrest⟩
      exact ⟨first, rest, ⟨rfl, rfl⟩, hfirst, hrest⟩
    · rintro ⟨_, _, ⟨rfl, rfl⟩, hfirst, hrest⟩
      exact ⟨hfirst, hrest⟩

namespace Validate

@[simp] theorem isValid_expect_error (holds : Bool) (kind : Diagnostic.Kind) (location : Location)
    (message : String) :
    (expect holds (Diagnostic.error kind location message)).isValid = holds := by
  cases holds <;> rfl

@[simp] theorem isValid_expect_warning (holds : Bool) (kind : Diagnostic.Kind)
    (location : Location) (message : String) :
    (expect holds (Diagnostic.warning kind location message)).isValid = true := by
  cases holds <;> rfl

/-! ### The file as a whole -/

theorem isValid_dataWidth_iff {config : Config} :
    (dataWidth config).isValid = true ↔
      8 ∣ config.dataWidth.toNat ∧ 8 ≤ config.dataWidth.toNat ∧ config.dataWidth.toNat ≤ 128 := by
  have hwidth : isDataWidth config.dataWidth.toNat = true ↔
      8 ∣ config.dataWidth.toNat ∧ 8 ≤ config.dataWidth.toNat ∧
        config.dataWidth.toNat ≤ 128 := by
    simp only [isDataWidth, Bool.and_eq_true, bne_iff_ne, beq_iff_eq, decide_eq_true_eq]
    omega
  rw [← hwidth]
  simp only [dataWidth]
  by_cases hpossible : isDataWidth config.dataWidth.toNat = true
  · simp [hpossible]
  · simp [hpossible]

theorem isValid_registerWidth_iff {config : Config} {register : Register} :
    (registerWidth config register).isValid = true ↔
      ∀ width, register.width = some width →
        1 ≤ width.toNat ∧ width.toNat ≤ config.dataWidth.toNat := by
  unfold registerWidth
  cases register.width with
  | none => simp
  | some width =>
    simp only [isValid_expect_error, Bool.and_eq_true, bne_iff_ne, decide_eq_true_eq,
      Option.some.injEq, forall_eq', UInt32.le_iff_toNat_le]
    rw [Ne, ← UInt32.toNat_inj, UInt32.toNat_zero]
    omega

theorem isValid_portCount_iff {name : String} {count : UInt32} :
    (portCount name count).isValid = true ↔ 1 ≤ count.toNat := by
  simp only [portCount, isValid_expect_error, bne_iff_ne]
  rw [Ne, ← UInt32.toNat_inj, UInt32.toNat_zero]
  omega

theorem isValid_file_iff {config : Config} :
    (file config).isValid = true ↔
      IsIdentifier config.moduleName ∧
      (8 ∣ config.dataWidth.toNat ∧ 8 ≤ config.dataWidth.toNat ∧ config.dataWidth.toNat ≤ 128) ∧
      (1 ≤ config.addrWidth.toNat ∧ config.addrWidth.toNat ≤ 64) ∧
      1 ≤ config.writePorts.toNat ∧ 1 ≤ config.readPorts.toNat ∧
      ∀ register ∈ config.registers, ∀ width, register.width = some width →
        1 ≤ width.toNat ∧ width.toNat ≤ config.dataWidth.toNat := by
  have haddr : (addrWidth config).isValid = true ↔
      1 ≤ config.addrWidth.toNat ∧ config.addrWidth.toNat ≤ 64 := by
    simp only [addrWidth, isValid_expect_error, Bool.and_eq_true, bne_iff_ne, decide_eq_true_eq]
    omega
  simp only [file, Report.isValid_append, Bool.and_eq_true, Report.isValid_flatMap_iff,
    isValid_dataWidth_iff, haddr, isValid_portCount_iff, isValid_registerWidth_iff, moduleName,
    isValid_expect_error, Text.isIdentifier_iff, and_assoc]

/-! ### Names -/

theorem isValid_fieldNames_iff {register : Register} {fields : List Field} {seen : List String} :
    (fieldNames register seen fields).isValid = true ↔
      (∀ field ∈ fields, IsIdentifier field.name) ∧
      (∀ field ∈ fields, ident field.name ∉ seen) ∧
      (fields.map fun field => ident field.name).Nodup := by
  induction fields generalizing seen with
  | nil => simp [fieldNames]
  | cons field rest ih =>
    simp only [fieldNames, Report.isValid_append, isValid_expect_error, Bool.and_eq_true,
      Text.isIdentifier_iff, ih, List.map_cons, List.nodup_cons, List.mem_cons, not_or,
      List.mem_map, Bool.not_eq_true', List.contains_eq_mem,
      decide_eq_false_iff_not]
    grind

theorem isValid_names_iff {registers : List Register} {seen : List String} :
    (names seen registers).isValid = true ↔
      (∀ register ∈ registers, IsIdentifier register.name) ∧
      (∀ register ∈ registers, ident register.name ∉ seen) ∧
      (registers.map fun register => ident register.name).Nodup ∧
      (∀ register ∈ registers, ∀ field ∈ register.fields, IsIdentifier field.name) ∧
      ∀ register ∈ registers, (register.fields.map fun field => ident field.name).Nodup := by
  induction registers generalizing seen with
  | nil => simp [names]
  | cons register rest ih =>
    simp only [names, Report.isValid_append, isValid_expect_error, Bool.and_eq_true,
      Text.isIdentifier_iff, ih, isValid_fieldNames_iff, List.map_cons, List.nodup_cons,
      List.mem_cons, not_or, List.mem_map, Bool.not_eq_true',
      List.contains_eq_mem, decide_eq_false_iff_not, List.not_mem_nil, not_false_eq_true,
      implies_true, true_and]
    grind

/-! ### Addresses -/

theorem fitsAddressBits_iff {config : Config} {address : UInt64} :
    fitsAddressBits config address = true ↔ address.toNat < 2 ^ config.addrWidth.toNat := by
  simp only [fitsAddressBits, Bool.or_eq_true, decide_eq_true_eq, Nat.one_shiftLeft]
  constructor
  · rintro (hwide | hfits)
    · exact Nat.lt_of_lt_of_le address.toNat_lt (Nat.pow_le_pow_right (by decide) hwide)
    · exact hfits
  · exact Or.inr

theorem lookup_eq_none_iff {α β : Type} [BEq α] [LawfulBEq α] {entries : List (α × β)} {key : α} :
    entries.lookup key = none ↔ key ∉ entries.map Prod.fst := by
  rw [List.lookup_eq_none_iff]
  constructor
  · intro hall hmem
    obtain ⟨entry, hentry, rfl⟩ := List.mem_map.mp hmem
    exact bne_iff_ne.mp (hall entry hentry) rfl
  · intro habsent entry hentry
    exact bne_iff_ne.mpr fun hkey => habsent (hkey ▸ List.mem_map_of_mem hentry)

theorem isValid_address_iff {config : Config} {owners : List (UInt64 × String)} {name : String}
    {a : UInt64} (hwidth : 8 ≤ config.dataWidth.toNat) :
    (address config owners name a).isValid = true ↔
      a ∉ owners.map Prod.fst ∧ a.toNat < 2 ^ config.addrWidth.toNat ∧
      (config.interface.misalignedIsError = true → config.dataWidth.toNat / 8 ∣ a.toNat) := by
  have hstride : stride config = config.dataWidth.toNat / 8 := by
    simp only [stride]
    omega
  rw [← lookup_eq_none_iff, Nat.dvd_iff_mod_eq_zero]
  simp only [address, Report.isValid_append, Bool.and_eq_true, isValid_expect_error,
    fitsAddressBits_iff, hstride, and_assoc]
  cases hmisaligned : config.interface.misalignedIsError <;>
    cases howner : owners.lookup a <;> simp

theorem isValid_addresses_iff {config : Config} {registers : List Register}
    {owners : List (UInt64 × String)} (hwidth : 8 ≤ config.dataWidth.toNat) :
    (addresses config owners registers).isValid = true ↔
      (∀ register ∈ registers, config.Addressed register) ∧
      (∀ register ∈ registers, ∀ a, register.address = some a → a ∉ owners.map Prod.fst) ∧
      (registers.map Register.address).Nodup := by
  induction registers generalizing owners with
  | nil => simp [addresses]
  | cons register rest ih =>
    cases haddress : register.address with
    | none => simp [addresses, haddress, Config.Addressed]
    | some a =>
      simp only [addresses, haddress, Report.isValid_append, Bool.and_eq_true,
        isValid_address_iff hwidth, ih, List.map_cons, List.nodup_cons, Config.Addressed,
        List.mem_cons, not_or, List.mem_map]
      grind

/-! ### Fields -/

theorem overlaps_iff {a b : BitRange} : a.overlaps b = true ↔ ∃ i, i ∈ a ∧ i ∈ b := by
  have ha := a.low_le_high
  have hb := b.low_le_high
  simp only [BitRange.overlaps, Bool.and_eq_true, decide_eq_true_eq, BitRange.mem_iff]
  constructor
  · rintro ⟨hab, hba⟩
    exact ⟨max a.low b.low, by omega, by omega⟩
  · rintro ⟨i, hia, hib⟩
    omega

theorem fitsIn_iff {range : BitRange} {width : Nat} :
    range.fitsIn width = true ↔ ∀ i ∈ range, i < width := by
  have hle := range.low_le_high
  simp only [BitRange.fitsIn, decide_eq_true_eq, BitRange.mem_iff]
  constructor
  · intro hhigh i hi
    omega
  · intro hall
    exact hall range.high ⟨hle, Nat.le_refl _⟩

theorem isValid_fieldsFrom_iff {register : Register} {width : Nat} {before fields : List Field} :
    (fieldsFrom register width before fields).isValid = true ↔
      (∀ field ∈ fields, ∀ i ∈ field.bits, i < width) ∧
      (∀ field ∈ fields, ∀ other ∈ before, ∀ i, ¬ (i ∈ other.bits ∧ i ∈ field.bits)) ∧
      fields.Pairwise fun a b => ∀ i, ¬ (i ∈ a.bits ∧ i ∈ b.bits) := by
  induction fields generalizing before with
  | nil => simp [fieldsFrom]
  | cons field rest ih =>
    have hapart (other : Field) : (!field.bits.overlaps other.bits) = true ↔
        ∀ i, ¬ (i ∈ other.bits ∧ i ∈ field.bits) := by
      rw [Bool.not_eq_true', ← Bool.not_eq_true, overlaps_iff]
      grind
    simp only [fieldsFrom, fieldBits, outOfRegister, Report.isValid_append, Bool.and_eq_true,
      Report.isValid_flatMap_iff, isValid_expect_error, fitsIn_iff, hapart, ih,
      List.forall_mem_cons, List.pairwise_cons, List.forall_mem_append, List.mem_singleton,
      forall_eq]
    grind

theorem isValid_fields_iff {config : Config} :
    (fields config).isValid = true ↔
      ∀ register ∈ config.registers,
        (∀ field ∈ register.fields, ∀ i ∈ field.bits,
          i < (config.registerWidth register).toNat) ∧
        register.fields.Pairwise fun a b => ∀ i, ¬ (i ∈ a.bits ∧ i ∈ b.bits) := by
  simp [fields, Report.isValid_flatMap_iff, isValid_fieldsFrom_iff]

end Validate

end RegisterFile
