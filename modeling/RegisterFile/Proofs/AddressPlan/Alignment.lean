import RegisterFile.Proofs.AddressPlan.Slots
import RegisterFile.Proofs.Validate.Kinds

/-!
Alignment of assigned addresses. Assignment puts every register on a slot, and the validator asks
for bus words. A slot is a multiple of a word for every data width but 24 bits, where words have
three bytes and slots four.
-/

namespace RegisterFile

namespace AddressPlan

/-- Slots are whole words, but for words of three bytes. -/
theorem stride_dvd_alignment_iff {config : Config}
    (hwidth : (Validate.dataWidth config).isValid = true) :
    Validate.stride config ∣ alignment config ↔ config.dataWidth ≠ 24 := by
  obtain ⟨hmultiple, hleast, hmost⟩ := Validate.isValid_dataWidth_iff.mp hwidth
  rw [Ne, ← UInt32.toNat_inj, show (24 : UInt32).toNat = 24 from rfl, Validate.stride, alignment]
  obtain ⟨bytes, hbytes⟩ := hmultiple
  rw [hbytes, Nat.mul_div_cancel_left bytes (by decide)]
  have hall : ∀ bytes ≤ 16, 1 ≤ bytes → (max 1 bytes ∣ max 4 bytes ↔ ¬ 8 * bytes = 24) := by
    decide
  exact hall bytes (by omega) (by omega)

/-- Where registers get their addresses by assignment none is missing, and none is misaligned
    unless the data width is 24 bits; then those are reported that are no multiple of three. -/
theorem findings_of_assign {config planned : Config}
    (hwidth : (Validate.dataWidth config).isValid = true)
    (hassign : assign config = .ok planned) :
    (∀ finding ∈ validate planned, finding.kind ≠ .missingAddress) ∧
      ∀ location,
        (∃ finding ∈ validate planned,
            finding.kind = .misalignedAddress ∧ finding.location = location) ↔
          config.dataWidth = 24 ∧ ∃ register ∈ planned.registers,
            location = .register register.name ∧
              ∃ address, register.address = some address ∧ ¬ 3 ∣ address.toNat := by
  obtain ⟨hplanned, hslots⟩ := slots_of_assign hassign
  have hstride : Validate.stride planned = Validate.stride config := by
    rw [hplanned]
    rfl
  refine ⟨fun finding hfinding hmissing => ?_, fun location => ?_⟩
  · refine Validate.forall_not_missing (fun register hregister => ?_) finding
      (Validate.mem_addresses_of_mem_validate hfinding (Or.inl hmissing)) hmissing
    obtain ⟨address, haddress, -⟩ := hslots register hregister
    rw [haddress]
    exact Option.some_ne_none address
  · have hreported : (∃ finding ∈ validate planned,
          finding.kind = .misalignedAddress ∧ finding.location = location) ↔
        ∃ register ∈ planned.registers, location = .register register.name ∧
          ∃ address, register.address = some address ∧
            ¬ Validate.stride config ∣ address.toNat := by
      rw [← hstride, ← @Validate.exists_misaligned_iff planned planned.registers []]
      constructor
      · rintro ⟨finding, hfinding, hkind, hlocation⟩
        exact ⟨finding, Validate.mem_addresses_of_mem_validate hfinding (Or.inr hkind), hkind,
          hlocation⟩
      · rintro ⟨finding, hfinding, hkind, hlocation⟩
        exact ⟨finding, Validate.mem_validate_of_mem_addresses hfinding, hkind, hlocation⟩
    rw [hreported]
    by_cases hthree : config.dataWidth = 24
    · have hstride : Validate.stride config = 3 := by rw [Validate.stride, hthree]; rfl
      simp only [hstride, hthree, true_and]
    · have hdivides := (stride_dvd_alignment_iff hwidth).mpr hthree
      simp only [hthree, false_and, iff_false]
      rintro ⟨register, hregister, -, address, haddress, hnot⟩
      obtain ⟨slot, hslot, halignment⟩ := hslots register hregister
      obtain rfl := Option.some.inj (haddress.symm.trans hslot)
      exact hnot (Nat.dvd_trans hdivides halignment)

end AddressPlan

/-- A register file with words of three bytes and two registers at the given addresses. -/
def Config.threeBytes (first second : Option UInt64) : Config where
  moduleName := "regs"
  dataWidth := 24
  registers := [{ name := "A", address := first }, { name := "B", address := second }]

namespace AddressPlan

theorem assign_threeBytes :
    assign (.threeBytes none none) = .ok (.threeBytes (some 0) (some 4)) := by
  cbv

/-- The second of two registers is put on the slot behind the first, within a word. -/
theorem findings_of_assign_threeBytes :
    (Validate.dataWidth (.threeBytes none none)).isValid = true ∧
      assign (.threeBytes none none) = .ok (.threeBytes (some 0) (some 4)) ∧
      (∀ finding ∈ validate (.threeBytes (some 0) (some 4)), finding.kind ≠ .missingAddress) ∧
      ∃ finding ∈ validate (.threeBytes (some 0) (some 4)),
        finding.kind = .misalignedAddress ∧ finding.location = .register "B" := by
  have hwidth : (Validate.dataWidth (.threeBytes none none)).isValid = true := by decide
  obtain ⟨hmissing, hmisaligned⟩ := findings_of_assign hwidth assign_threeBytes
  refine ⟨hwidth, assign_threeBytes, hmissing, (hmisaligned (.register "B")).mpr ⟨rfl, ?_⟩⟩
  exact ⟨{ name := "B", address := some 4 }, by decide, rfl, 4, rfl, by decide⟩

/-- An address that assignment has chosen is refused. -/
theorem misaligned_threeBytes :
    (Validate.dataWidth (.threeBytes none none)).isValid = true ∧
      ∃ planned, assign (.threeBytes none none) = .ok planned ∧
        ∃ finding ∈ validate planned, finding.kind = .misalignedAddress ∧
          finding.location = .register "B" ∧ finding.isError = true := by
  refine ⟨by decide, .threeBytes (some 0) (some 4), assign_threeBytes, ?_⟩
  decide +kernel

end AddressPlan

end RegisterFile
