import RegisterFile.Proofs.Validate.Cycles
import RegisterFile.Proofs.Validate.References

/-!
The validator accepts exactly the well-formed register files. Its passes are independent except
that alignment is judged by a data width and cycles by names that earlier passes may reject.
-/

namespace RegisterFile

namespace Validate

theorem names_nodup_of_idents {registers : List Register}
    (hidents : (registers.map fun register => ident register.name).Nodup) :
    (registers.map Register.name).Nodup := by
  apply List.Nodup.of_map ident
  rwa [List.map_map]

/-- The passes that depend on no other one. -/
theorem isValid_validate_iff_passes {config : Config} :
    (validate config).isValid = true ↔
      (file config).isValid = true ∧ (names [] config.registers).isValid = true ∧
      (addresses config [] config.registers).isValid = true ∧
      (fields config).isValid = true ∧ (locks config).isValid = true ∧
      (magicGates config).isValid = true ∧ (cycles config).isValid = true ∧
      (portsFrom [] (ownedPorts config)).isValid = true ∧ (protocol config).isValid = true := by
  have husage : Report.isValid (config.registers.flatMap usage) = true :=
    Report.isValid_flatMap_iff.mpr fun register _ => isValid_usage register
  simp only [validate, Report.isValid_append, Bool.and_eq_true, isValid_resets, husage,
    isValid_writeCollisions, and_true, and_assoc]

theorem wellFormed_of_isValid {config : Config} (hvalid : (validate config).isValid = true) :
    config.WellFormed := by
  obtain ⟨hfile, hnames, haddresses, hfields, hlocks, hmagic, hcycles, hports, hprotocol⟩ :=
    isValid_validate_iff_passes.mp hvalid
  obtain ⟨hmodule, hdata, haddr, hwrite, hread, hwidths⟩ := isValid_file_iff.mp hfile
  obtain ⟨hregname, -, hregs, hfieldname, hfieldset⟩ := isValid_names_iff.mp hnames
  obtain ⟨haddressed, -, hdistinct⟩ := (isValid_addresses_iff hdata.2.1).mp haddresses
  have hbits := isValid_fields_iff.mp hfields
  exact {
    moduleName := hmodule
    dataWidth := hdata
    addrWidth := haddr
    writePorts := hwrite
    readPorts := hread
    registerWidth := hwidths
    registerName := hregname
    fieldName := hfieldname
    registersDistinct := hregs
    fieldsDistinct := hfieldset
    addressed := haddressed
    addressesDistinct := hdistinct
    fieldsInside := fun register hmem => (hbits register hmem).1
    fieldsDisjoint := fun register hmem => (hbits register hmem).2
    locks := isValid_locks_iff.mp hlocks
    magic := isValid_magicGates_iff.mp hmagic
    acyclic := (isValid_cycles_iff (names_nodup_of_idents hregs)).mp hcycles
    portsDistinct := isValid_ports_iff.mp hports
    waitStates := (isValid_protocol_iff ⟨by omega, hdata.2.2⟩).mp hprotocol }

theorem isValid_of_wellFormed {config : Config} (h : config.WellFormed) :
    (validate config).isValid = true := by
  have hdata := h.dataWidth
  apply isValid_validate_iff_passes.mpr
  refine ⟨?_, ?_, ?_, ?_, ?_, ?_, ?_, ?_, ?_⟩
  · exact isValid_file_iff.mpr
      ⟨h.moduleName, h.dataWidth, h.addrWidth, h.writePorts, h.readPorts, h.registerWidth⟩
  · exact isValid_names_iff.mpr
      ⟨h.registerName, by simp, h.registersDistinct, h.fieldName, h.fieldsDistinct⟩
  · exact (isValid_addresses_iff h.dataWidth.2.1).mpr
      ⟨h.addressed, by simp, h.addressesDistinct⟩
  · exact isValid_fields_iff.mpr fun register hmem =>
      ⟨h.fieldsInside register hmem, h.fieldsDisjoint register hmem⟩
  · exact isValid_locks_iff.mpr h.locks
  · exact isValid_magicGates_iff.mpr h.magic
  · exact (isValid_cycles_iff (names_nodup_of_idents h.registersDistinct)).mpr h.acyclic
  · exact isValid_ports_iff.mpr h.portsDistinct
  · exact (isValid_protocol_iff ⟨by omega, hdata.2.2⟩).mpr h.waitStates

end Validate

/-- The report of the validator has no error exactly if the register file is well-formed. -/
theorem isValid_validate_iff (config : Config) :
    (validate config).isValid = true ↔ config.WellFormed :=
  ⟨Validate.wellFormed_of_isValid, Validate.isValid_of_wellFormed⟩

end RegisterFile
