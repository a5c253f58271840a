import Mathlib
import RegisterFile.Proofs.Hardware.Refines
import RegisterFile.Proofs.Lockstep.Run
import RegisterFile.Proofs.Slicing.Layout

/-!
Slicing a register changes nothing that can be observed. One segment with one flag and many segments
with one flag each have the same policy at every bit, so the two register files run in lockstep.
-/

namespace RegisterFile

/-- A list is related to one with a changed item if its items are related to themselves, and the
    item to the changed one. -/
theorem forall₂_modify {α : Type} {r : α → α → Prop} {items : List α} {index : Nat}
    {change : α → α} (hsame : ∀ item ∈ items, r item item)
    (hchange : ∀ item, items[index]? = some item → r item (change item)) :
    List.Forall₂ r items (items.modify index change) := by
  rw [List.forall₂_iff_get]
  refine ⟨(List.length_modify _ _ _).symm, fun j hj hjChanged => ?_⟩
  rw [List.get_eq_getElem, List.get_eq_getElem, List.getElem_modify]
  split
  · next hindex =>
    subst hindex
    exact hchange _ (List.getElem?_eq_getElem hj)
  · exact hsame _ (List.getElem_mem hj)

namespace Config.WellFormed

variable {config : Config} (hwf : config.WellFormed) {index : Nat} {register : Register}
  (hregister : config.registers[index]? = some register) (hwhole : register.hasOverrides = false)
  (htiled : register.Tiled (config.registerWidth register).toNat) (hlocked : register.lockedBy ≠ [])

include hwf hregister hwhole htiled hlocked

theorem layout_sliced : Rearranged RegisterLayout.Matches (Layout.ofConfig config).registers
    (Layout.ofConfig (config.sliced index)).registers := by
  have hregisters : List.Forall₂ (fun register other =>
      (Layout.ofRegister config register).Matches (Layout.ofRegister config other))
      config.registers (config.registers.modify index Register.sliced) := by
    refine forall₂_modify (fun _ _ => .refl _) fun found hfound => ?_
    obtain rfl : register = found := Option.some.inj (hregister.symm.trans hfound)
    exact hwf.matches_sliced (List.mem_of_getElem? hregister) hwhole htiled hlocked
  refine .of_perm (List.Perm.refl _) ?_
  rw [Layout.ofConfig, Layout.ofConfig, funext (Layout.ofRegister_sliced config index)]
  exact List.forall₂_map_left_iff.mpr (List.forall₂_map_right_iff.mpr hregisters)

theorem regular_of_mem_sliced {other : RegisterLayout}
    (hother : other ∈ (Layout.ofConfig (config.sliced index)).registers) : other.Regular := by
  obtain ⟨changed, hchanged, rfl⟩ := List.mem_map.mp hother
  rw [Layout.ofRegister_sliced]
  obtain ⟨j, hj⟩ := List.mem_iff_getElem?.mp hchanged
  simp only [Config.sliced, List.getElem?_modify, Option.map_eq_map, Option.map_eq_some_iff] at hj
  obtain ⟨found, hfound, rfl⟩ := hj
  split
  · next hindex =>
    obtain rfl : register = found := Option.some.inj (hregister.symm.trans (hindex ▸ hfound))
    exact hwf.regular_sliced (List.mem_of_getElem? hregister) hwhole htiled hlocked
  · exact hwf.regular_ofRegister (List.mem_of_getElem? hfound)

theorem comparable_sliced :
    (Model.ofConfig config).Comparable (Model.ofConfig (config.sliced index)) :=
  Model.Matches.comparable ⟨hwf.layout_sliced hregister hwhole htiled hlocked, rfl⟩
    hwf.regular_model (Hardware.stemsDistinct hwf)
    fun _ => hwf.regular_of_mem_sliced hregister hwhole htiled hlocked

end Config.WellFormed

/-- A register whose fields tile it and inherit everything is one segment, and handing its locks
    down to the fields makes one segment of each. The register file answers the same to the same
    operations then, and shows the same values and pulses under every name, from reset on and after
    every step. -/
theorem run_sliced (config : Config) (hvalid : (validate config).isValid = true) (index : Nat)
    (register : Register) (hregister : config.registers[index]? = some register)
    (hwhole : register.hasOverrides = false)
    (htiled : register.Tiled (config.registerWidth register).toNat)
    (hlocked : register.lockedBy ≠ []) (operations : List Model.Operation) :
    (Layout.ofRegister config register).segments.length = 1 ∧
      (Layout.ofRegister (config.sliced index) register.sliced).segments.length =
        register.fields.length ∧
      (Model.ofConfig config).answers (Model.ofConfig config).reset operations =
        (Model.ofConfig (config.sliced index)).answers (Model.ofConfig (config.sliced index)).reset
          operations ∧
      ∀ (steps : Nat) (name : String),
        (Model.ofConfig config).shown? ((Model.ofConfig config).run (operations.take steps)) name =
          (Model.ofConfig (config.sliced index)).shown?
            ((Model.ofConfig (config.sliced index)).run (operations.take steps)) name := by
  have hwf := Validate.wellFormed_of_isValid hvalid
  have hmem := List.mem_of_getElem? hregister
  have hmodel := hwf.comparable_sliced hregister hwhole htiled hlocked
  have hreset := Model.alike_reset hmodel.toMatches hmodel.regular hmodel.otherRegular
  refine ⟨?_, ?_, (hreset.performAll hmodel operations).2, fun steps name => ?_⟩
  · rw [Layout.segments_whole hwhole, List.length_singleton]
  · rw [Layout.ofRegister_sliced, hwf.segments_sliced hmem htiled hlocked, List.length_map]
  · exact (hreset.performAll hmodel (operations.take steps)).1.shown?_eq hmodel name

/-- A register of two halves that takes a single write while a lock is open. -/
def Register.halves : Register where
  name := "DATA"
  address := some 4
  type := .writeOnce
  fields := [{ name := "LOW", bits := .full 16 },
    { name := "HIGH", bits := ⟨31, 16, by decide, by decide⟩ }]
  lockedBy := [⟨"LOCK", .bit 0⟩]

/-- A register file of the register and its lock, written byte by byte. -/
def Config.halves : Config where
  moduleName := "regs"
  byteEnable := true
  registers := [{ name := "LOCK", address := some 0, type := .lockField }, .halves]

/-- A write to the lower half uses up the one write of the upper half, cut or not. -/
theorem run_sliced_halves :
    (validate Config.halves).isValid = true ∧ Config.halves.registers[1]? = some .halves ∧
      Register.halves.hasOverrides = false ∧ Register.halves.Tiled 32 ∧
      Register.halves.lockedBy ≠ [] ∧
      (Model.ofConfig (Config.halves.sliced 1)).answers
          (Model.ofConfig (Config.halves.sliced 1)).reset
          [.write 4 0x1234 3, .write 4 0x56780000 12, .read 4] =
        [.written .okay, .written .okay, .data 0x1234 .okay] := by
  have hvalid : (validate Config.halves).isValid = true := by decide +kernel
  have htiled : Register.halves.Tiled 32 := by decide +kernel
  have hanswers := (run_sliced Config.halves hvalid 1 .halves rfl rfl htiled (by decide)
    [.write 4 0x1234 3, .write 4 0x56780000 12, .read 4]).2.2.1
  exact ⟨hvalid, rfl, rfl, htiled, by decide, hanswers ▸ by decide +kernel⟩

end RegisterFile
