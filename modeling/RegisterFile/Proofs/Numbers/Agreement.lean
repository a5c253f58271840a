import Mathlib
import RegisterFile.Proofs.Model.Operations
import RegisterFile.Proofs.Numbers.Accessors
import RegisterFile.Proofs.Numbers.Hardware
import RegisterFile.Proofs.Numbers.Header
import RegisterFile.Proofs.Numbers.RegisterMap

/-!
All artifacts state the same numbers for a register: its address, and the value that it holds after
reset. The paddings, suffixes and halves in which they are written do not show once they are read.
-/

namespace RegisterFile

/-- The texts of the artifacts state an address and a reset value for a register. The accessor
    module does so where there is one. -/
structure ArtifactsState (config : Config) (provenance : Provenance) (register : Register)
    (address reset : Nat) : Prop where
  hardware : Hardware.States config register (Hardware.text config provenance) address reset
  header : Header.States config register (Header.File.ofConfig config provenance).text address reset
  registerMap :
    RegisterMap.States config register (RegisterMap.text config provenance) address reset
  accessors : ∀ text, Accessors.text? config = some text →
    Accessors.States config register text address reset

theorem Accessors.eq_of_text? {config : Config} {text : String} (htext : text? config = some text) :
    text = (Module.ofConfig config).text := by
  simp only [text?] at htext
  split at htext
  · cases htext
  · exact (Option.some.inj htext).symm

/-- Whatever artifact a number is read from, it is the address of the register or the value that
    it holds after reset. -/
theorem artifactsState_of_isValid {config : Config} (provenance : Provenance)
    (hvalid : (validate config).isValid = true) {register : Register}
    (hmem : register ∈ config.registers) :
    ∃ (address : UInt64) (cell : Model.Cell), register.address = some address ∧
      (Model.ofConfig config).cell? (Model.ofConfig config).reset register.name = some cell ∧
      ArtifactsState config provenance register address.toNat cell.value.toNat := by
  have hwf := Validate.wellFormed_of_isValid hvalid
  obtain ⟨address, haddress, -, -⟩ := hwf.addressed register hmem
  refine ⟨address, _, haddress, hwf.cell?_reset hmem, ?_⟩
  exact {
    hardware := Hardware.states_text hwf hmem haddress
    header := Header.states_text hwf hmem haddress
    registerMap := RegisterMap.states_text hwf hmem haddress
    accessors := fun text htext =>
      Accessors.eq_of_text? htext ▸ Accessors.states_text hwf hmem haddress }

/-- A register of 96 bits with a field in its upper half. -/
def Register.counter : Register where
  name := "COUNTER"
  address := some 16
  width := some 96
  resetValue := 2
  fields := [{ name := "EPOCH", bits := ⟨95, 64, by decide, by decide⟩, resetValue := some 5 }]

/-- A register file of that register. -/
def Config.counter : Config where
  moduleName := "regs"
  dataWidth := 128
  registers := [.counter]

/-- The reset value `5 * 2 ^ 64 + 2` is read from every artifact. -/
theorem artifactsState_of_isValid_counter :
    (validate Config.counter).isValid = true ∧ Register.counter ∈ Config.counter.registers ∧
      ArtifactsState .counter ⟨"regforge", "unspecified", ""⟩ .counter 16 92233720368547758082 := by
  have hvalid : (validate Config.counter).isValid = true := by decide +kernel
  have hmem : Register.counter ∈ Config.counter.registers := List.mem_singleton_self _
  obtain ⟨address, cell, haddress, hcell, hstated⟩ :=
    artifactsState_of_isValid ⟨"regforge", "unspecified", ""⟩ hvalid hmem
  obtain rfl : 16 = address := Option.some.inj haddress
  have hreset : ((Model.ofConfig .counter).cell? (Model.ofConfig .counter).reset "COUNTER").map
      (fun cell => cell.value.toNat) = some 92233720368547758082 := by decide +kernel
  rw [show Register.counter.name = "COUNTER" from rfl] at hcell
  rw [hcell] at hreset
  have hvalue : cell.value.toNat = 92233720368547758082 := Option.some.inj hreset
  rw [hvalue] at hstated
  exact ⟨hvalid, hmem, hstated⟩

end RegisterFile
