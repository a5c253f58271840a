import RegisterFile.Proofs.Arithmetic.Documents
import RegisterFile.Proofs.Arithmetic.Model
import RegisterFile.Proofs.Arithmetic.Module
import RegisterFile.Proofs.Validate.Accepts

/-!
Validation is all that the resolved view, the generators and the model rely on. They subtract bit
numbers, add to them and shift words without looking at them again; for an accepted register file
each of these steps has a result.
-/

namespace RegisterFile

/-- What is made of a register file refers to nothing unknown, and no step of making it leaves the
    bounds of machine numbers. -/
structure Config.WithinBounds (config : Config) : Prop where
  /-- No lock and no magic gate is passed over. -/
  complete : Layout.Complete config
  /-- Segments, hardware fields and lock bits lie within their registers, segments share no bit,
      and reset and magic values fit. -/
  regular : (Layout.ofConfig config).Regular
  layout : Layout.ofConfigM config = pure (Layout.ofConfig config)
  verilog : ∀ provenance,
    Hardware.textM config provenance = pure (Hardware.text config provenance)
  header : ∀ provenance,
    Header.File.ofConfigM config provenance = pure (Header.File.ofConfig config provenance)
  registerMap : ∀ provenance,
    RegisterMap.textM config provenance = pure (RegisterMap.text config provenance)
  accessors : Accessors.textM config = pure (Accessors.text? config)
  /-- Whatever is done with the model. -/
  model : ∀ operations,
    Model.runM config operations = pure ((Model.ofConfig config).run operations)

/-- An accepted register file is resolved, generated and simulated within the bounds of machine
    numbers. -/
theorem Validate.withinBounds_of_isValid {config : Config}
    (hvalid : (validate config).isValid = true) : config.WithinBounds := by
  have hwf := wellFormed_of_isValid hvalid
  have hfields : config.InWord := fun register hmem => hwf.inWord hmem
  exact
    { complete := hwf.complete
      regular := hwf.regular
      layout := hwf.layoutM_eq
      verilog := Hardware.textM_eq hwf
      header := Header.File.ofConfigM_eq hfields
      registerMap := RegisterMap.textM_eq hfields
      accessors := Accessors.textM_eq hfields
      model := Model.runM_eq hwf }

/-- A register file of the widest words: a register of two fields that behave differently, the
    upper one locked and reachable by hardware, and the register with the lock bit. -/
def Config.wide : Config where
  moduleName := "wide"
  dataWidth := 128
  byteEnable := true
  registers := [
    { name := "KEY", address := some 0, type := .lockField, width := some 8 },
    { name := "CTRL", address := some 16, magic := some ⟨"KEY", 0x1A5⟩
      fields := [
        { name := "GO", bits := ⟨0, 0, by decide, by decide⟩, type := some .write1Pulse },
        { name := "TOP", bits := ⟨127, 120, by decide, by decide⟩, resetValue := some 0x1FF
          lockedBy := [⟨"KEY", .bit 7⟩], hwAccess := some .readWrite }] }]

theorem Validate.withinBounds_wide :
    (validate Config.wide).isValid = true ∧ Config.wide.WithinBounds := by
  have hvalid : (validate Config.wide).isValid = true := by decide +kernel
  exact ⟨hvalid, withinBounds_of_isValid hvalid⟩

end RegisterFile
