import RegisterFile.Proofs.Validate.References

/-!
The kinds of findings that each check makes. Only the check of addresses speaks of addresses; it
does so register by register.
-/

namespace RegisterFile

namespace Report

/-- Every finding is of one of the given kinds. -/
def Within (report : Report) (kinds : List Diagnostic.Kind) : Prop :=
  ∀ finding ∈ report, finding.kind ∈ kinds

variable {first second report : Report} {kinds more : List Diagnostic.Kind}

@[simp] theorem within_nil : Within [] kinds := by
  simp [Within]

@[simp] theorem within_cons {finding : Diagnostic} :
    Within (finding :: report) kinds ↔ finding.kind ∈ kinds ∧ report.Within kinds := by
  simp [Within]

@[simp] theorem within_append :
    Within (first ++ second) kinds ↔ first.Within kinds ∧ second.Within kinds := by
  simp [Within, or_imp, forall_and]

@[simp] theorem within_flatMap {α : Type} {items : List α} {check : α → Report} :
    Within (items.flatMap check) kinds ↔ ∀ item ∈ items, (check item).Within kinds := by
  simp only [Within, List.mem_flatMap]
  constructor
  · exact fun hall item hitem finding hfinding => hall finding ⟨item, hitem, hfinding⟩
  · rintro hall finding ⟨item, hitem, hfinding⟩
    exact hall item hitem finding hfinding

theorem Within.mono (hreport : report.Within kinds) (hsubset : kinds ⊆ more) :
    report.Within more :=
  fun finding hfinding => hsubset (hreport finding hfinding)

end Report

@[simp] theorem Diagnostic.kind_error (kind : Diagnostic.Kind) (location : Location)
    (message : String) : (Diagnostic.error kind location message).kind = kind :=
  rfl

@[simp] theorem Diagnostic.kind_warning (kind : Diagnostic.Kind) (location : Location)
    (message : String) : (Diagnostic.warning kind location message).kind = kind :=
  rfl

namespace Validate

theorem within_expect {holds : Bool} {finding : Diagnostic} {kinds : List Diagnostic.Kind}
    (hkind : finding.kind ∈ kinds) : (expect holds finding).Within kinds := by
  cases holds <;> simp [expect, hkind]

/-! ### The checks other than that of addresses -/

theorem within_file (config : Config) :
    (file config).Within
      [.invalidIdentifier, .invalidWidth, .nonStandardDataWidth, .invalidBusOption] := by
  have hwidth : (dataWidth config).Within [.invalidWidth, .nonStandardDataWidth] := by
    simp only [dataWidth]
    split
    · exact within_expect (by simp)
    · simp
  have hregisters (register : Register) :
      (registerWidth config register).Within [.invalidWidth] := by
    unfold registerWidth
    split
    · simp
    · exact within_expect (by simp)
  simp only [file, Report.within_append, Report.within_flatMap]
  exact ⟨⟨⟨⟨⟨within_expect (by simp), hwidth.mono (by simp)⟩, within_expect (by simp)⟩,
    within_expect (by simp)⟩, within_expect (by simp)⟩,
    fun register _ => (hregisters register).mono (by simp)⟩

theorem within_fieldNames (register : Register) (seen : List String) (fields : List Field) :
    (fieldNames register seen fields).Within [.invalidIdentifier, .duplicateName] := by
  induction fields generalizing seen with
  | nil => simp [fieldNames]
  | cons field rest ih =>
    simp only [fieldNames, Report.within_append]
    exact ⟨⟨within_expect (by simp), within_expect (by simp)⟩, ih _⟩

theorem within_names (seen : List String) (registers : List Register) :
    (names seen registers).Within [.invalidIdentifier, .duplicateName] := by
  induction registers generalizing seen with
  | nil => simp [names]
  | cons register rest ih =>
    simp only [names, Report.within_append]
    exact ⟨⟨⟨within_expect (by simp), within_expect (by simp)⟩, within_fieldNames _ _ _⟩, ih _⟩

theorem within_fields (config : Config) :
    (fields config).Within [.fieldOutOfRegisterWidth, .fieldOverlap] := by
  have hfrom (register : Register) (width : Nat) (before rest : List Field) :
      (fieldsFrom register width before rest).Within [.fieldOutOfRegisterWidth, .fieldOverlap] := by
    induction rest generalizing before with
    | nil => simp [fieldsFrom]
    | cons field rest ih =>
      simp only [fieldsFrom, fieldBits, Report.within_append, Report.within_flatMap]
      exact ⟨⟨within_expect (by simp [outOfRegister]), fun _ _ => within_expect (by simp)⟩, ih _⟩
  simp only [fields, Report.within_flatMap]
  exact fun register _ => hfrom _ _ _ _

theorem within_locks (config : Config) : (locks config).Within [.unresolvedLockTarget] := by
  have hat (location : Location) (locks : List Lock) :
      (locksAt config location locks).Within [.unresolvedLockTarget] := by
    intro finding hfinding
    obtain ⟨problem, -, rfl⟩ := List.mem_map.mp hfinding
    exact List.mem_singleton_self _
  simp only [locks, Report.within_flatMap, Report.within_append]
  exact fun register _ => ⟨hat _ _, fun field _ => hat _ _⟩

theorem within_magicGates (config : Config) :
    (magicGates config).Within [.unresolvedMagicTarget, .magicValueTruncated] := by
  have hgate (location : Location) (magic : MagicDependency) :
      (magicGate config location magic).Within [.unresolvedMagicTarget, .magicValueTruncated] := by
    unfold magicGate
    split
    · simp [magicUnresolved]
    · exact within_expect (by simp [magicTruncated])
  simp only [magicGates, magicAt, Report.within_flatMap, Report.within_append]
  exact fun register _ => ⟨fun _ _ => hgate _ _, fun field _ _ _ => hgate _ _⟩

theorem within_cycles (config : Config) : (cycles config).Within [.cyclicDependency] := by
  unfold cycles cyclesAlong
  split <;> simp

theorem within_resets (config : Config) : (resets config).Within [.resetValueTruncated] := by
  simp only [resets, resetValue, Report.within_flatMap, Report.within_append]
  exact fun register _ => ⟨within_expect (by simp [resetTruncated]),
    fun _ _ _ _ => within_expect (by simp [resetTruncated])⟩

theorem within_usage (register : Register) : (usage register).Within [.unusedField] := by
  unfold usage
  split
  · exact within_expect (by simp)
  · simp only [Report.within_flatMap]
    exact fun field _ => within_expect (by simp)

theorem within_portsFrom (owners entries : List (String × String)) :
    (portsFrom owners entries).Within [.duplicateName] := by
  induction entries generalizing owners with
  | nil => simp [portsFrom]
  | cons entry rest ih =>
    simp only [portsFrom, Report.within_append]
    refine ⟨?_, ih _⟩
    split <;> simp

theorem within_protocol (config : Config) :
    (protocol config).Within [.nonStandardDataWidth, .invalidBusOption, .typeProtocolMismatch] := by
  have hwidth : (Bus.widthFindings config).Within [.nonStandardDataWidth] := by
    simp only [Bus.widthFindings]
    split <;> simp
  have hoptions : config.interface.findings.Within [.invalidBusOption] := by
    cases hprotocol : config.protocol with
    | apb =>
      simp only [Config.interface, hprotocol, Bus.Apb.interface, Bus.Apb.findings]
      split <;> simp
    | axi4Lite => simp [Config.interface, hprotocol, Bus.AxiLite.interface]
    | wishbone => simp [Config.interface, hprotocol, Bus.Wishbone.interface]
    | ocp => simp [Config.interface, hprotocol, Bus.Ocp.interface]
    | custom => simp [Config.interface, hprotocol, Bus.Custom.interface]
  have htypes (register : RegisterLayout) :
      Report.Within (register.segments.filterMap (Bus.segmentFinding? config register))
        [.typeProtocolMismatch] := by
    intro finding hfinding
    obtain ⟨segment, -, hsome⟩ := List.mem_filterMap.mp hfinding
    obtain ⟨reason, -, rfl⟩ := Option.map_eq_some_iff.mp hsome
    exact List.mem_singleton_self _
  unfold protocol
  split
  · simp only [Bus.findings, Bus.layoutFindings, Report.within_append, Report.within_flatMap]
    exact ⟨⟨hwidth.mono (by simp), hoptions.mono (by simp)⟩,
      fun register _ => (htypes register).mono (by simp)⟩
  · simp

/-! ### The check of addresses -/

/-- The kinds that findings about addresses have. -/
def addressKinds : List Diagnostic.Kind :=
  [.missingAddress, .addressConflict, .addressOutOfRange, .misalignedAddress]

/-- What is found about addresses is found by their check. -/
theorem mem_addresses_of_kind {config : Config} {finding : Diagnostic}
    (hfinding : finding ∈ validate config) (hkind : finding.kind ∈ addressKinds) :
    finding ∈ addresses config [] config.registers := by
  have hnot {report : Report} {kinds : List Diagnostic.Kind} (hwithin : report.Within kinds)
      (hapart : ∀ kind ∈ addressKinds, kind ∉ kinds) : finding ∉ report := fun hmem =>
    hapart finding.kind hkind (hwithin finding hmem)
  have husage : Report.Within (config.registers.flatMap usage) [.unusedField] := by
    simp only [Report.within_flatMap]
    exact fun register _ => within_usage register
  have hcollisions : (writeCollisions config).Within [.multiPortWriteCollision] :=
    within_expect (by simp)
  simp only [validate, List.mem_append] at hfinding
  simpa only [hnot (within_file config) (by decide),
    hnot (within_names [] config.registers) (by decide),
    hnot (within_fields config) (by decide), hnot (within_locks config) (by decide),
    hnot (within_magicGates config) (by decide), hnot (within_cycles config) (by decide),
    hnot (within_resets config) (by decide), hnot husage (by decide),
    hnot hcollisions (by decide), hnot (within_portsFrom [] (ownedPorts config)) (by decide),
    hnot (within_protocol config) (by decide), false_or, or_false] using hfinding

theorem mem_addresses_of_mem_validate {config : Config} {finding : Diagnostic}
    (hfinding : finding ∈ validate config)
    (hkind : finding.kind = .missingAddress ∨ finding.kind = .misalignedAddress) :
    finding ∈ addresses config [] config.registers := by
  refine mem_addresses_of_kind hfinding ?_
  rcases hkind with hkind | hkind <;> simp [hkind, addressKinds]

theorem mem_validate_of_mem_addresses {config : Config} {finding : Diagnostic}
    (hfinding : finding ∈ addresses config [] config.registers) : finding ∈ validate config := by
  simp only [validate, List.mem_append]
  simp only [hfinding, or_true, true_or]

theorem within_address (config : Config) (owners : List (UInt64 × String)) (name : String)
    (a : UInt64) :
    (address config owners name a).Within
      [.addressConflict, .addressOutOfRange, .misalignedAddress] := by
  simp only [address, Report.within_append]
  refine ⟨⟨?_, within_expect (by simp)⟩, within_expect ?_⟩
  · split <;> simp
  · split <;> simp

/-- The check of one address speaks of its alignment exactly if it is no multiple of the stride. -/
theorem exists_misaligned_address_iff {config : Config} {owners : List (UInt64 × String)}
    {name : String} {a : UInt64} {location : Location} :
    (∃ finding ∈ address config owners name a,
        finding.kind = .misalignedAddress ∧ finding.location = location) ↔
      location = .register name ∧ ¬ stride config ∣ a.toNat := by
  rw [Nat.dvd_iff_mod_eq_zero]
  unfold address
  by_cases hfits : fitsAddressBits config a = true <;>
    by_cases hmultiple : a.toNat % stride config = 0 <;>
    cases hmisaligned : config.interface.misalignedIsError <;>
    cases howner : owners.lookup a <;>
    simp [expect, hfits, hmultiple, Diagnostic.error, Diagnostic.warning, @eq_comm _ location]

theorem forall_not_missing {config : Config} {registers : List Register}
    {owners : List (UInt64 × String)}
    (hsome : ∀ register ∈ registers, register.address ≠ none) :
    ∀ finding ∈ addresses config owners registers, finding.kind ≠ .missingAddress := by
  induction registers generalizing owners with
  | nil => simp [addresses]
  | cons register rest ih =>
    obtain ⟨hregister, hrest⟩ := List.forall_mem_cons.mp hsome
    cases haddress : register.address with
    | none => exact absurd haddress hregister
    | some a =>
      simp only [addresses, haddress, List.forall_mem_append]
      refine ⟨fun finding hfinding heq => ?_, ih hrest⟩
      have hkind := within_address config owners register.name a finding hfinding
      rw [heq] at hkind
      exact absurd hkind (by decide)

/-- A misaligned address is reported at its register. -/
theorem exists_misaligned_iff {config : Config} {registers : List Register}
    {owners : List (UInt64 × String)} {location : Location} :
    (∃ finding ∈ addresses config owners registers,
        finding.kind = .misalignedAddress ∧ finding.location = location) ↔
      ∃ register ∈ registers, location = .register register.name ∧
        ∃ a, register.address = some a ∧ ¬ stride config ∣ a.toNat := by
  induction registers generalizing owners with
  | nil => simp [addresses]
  | cons register rest ih =>
    cases haddress : register.address with
    | none => simp [addresses, haddress, ih]
    | some a =>
      simp only [addresses, haddress, List.mem_append, or_and_right, exists_or,
        exists_misaligned_address_iff, ih,
        List.mem_cons, exists_eq_left, Option.some.injEq, exists_eq_left']

end Validate

end RegisterFile
