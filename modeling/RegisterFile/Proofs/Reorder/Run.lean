import Mathlib
import RegisterFile.Proofs.Hardware.Refines
import RegisterFile.Proofs.Lockstep.Run
import RegisterFile.Proofs.Reorder.Layout

/-!
Runs do not tell the order of declarations: reordered register files run in lockstep.
-/

namespace RegisterFile

namespace Config.Reorders

variable {config other : Config} {state otherState : Model.State}
  (hconfig : config.Reorders other) (hwf : config.WellFormed)

include hconfig hwf

theorem model : (Model.ofConfig config).Matches (Model.ofConfig other) where
  registers := (hconfig.layout hwf).mono fun _ _ _ _ hregister => hregister.toMatches
  rest := by rw [← hconfig.rest]; rfl

theorem comparable : (Model.ofConfig config).Comparable (Model.ofConfig other) :=
  (hconfig.model hwf).comparable hwf.regular_model (Hardware.stemsDistinct hwf)
    (hconfig.wellFormed hwf).regular.registers

/-- Operations on states that are alike leave states that are alike, with the same answers. -/
theorem performAll (operations : List Model.Operation)
    (halike : (Model.ofConfig config).Alike (Model.ofConfig other) state otherState) :
    (Model.ofConfig config).Alike (Model.ofConfig other)
        (operations.foldl (Model.ofConfig config).perform state)
        (operations.foldl (Model.ofConfig other).perform otherState) ∧
      (Model.ofConfig config).answers state operations =
        (Model.ofConfig other).answers otherState operations :=
  halike.performAll (hconfig.comparable hwf) operations

/-- States that are alike show the same under every name. -/
theorem shown (halike : (Model.ofConfig config).Alike (Model.ofConfig other) state otherState)
    (name : String) :
    (Model.ofConfig config).shown? state name = (Model.ofConfig other).shown? otherState name :=
  halike.shown?_eq (hconfig.comparable hwf) name

end Config.Reorders

/-- A valid register file and a reordered one give the same answers to the same operations, and
    show the same values and pulses under every name, from reset on and after every step. -/
theorem run_of_reorders (config other : Config) (hvalid : (validate config).isValid = true)
    (hreorders : config.Reorders other) (operations : List Model.Operation) :
    (Model.ofConfig config).answers (Model.ofConfig config).reset operations =
        (Model.ofConfig other).answers (Model.ofConfig other).reset operations ∧
      ∀ (steps : Nat) (name : String),
        (Model.ofConfig config).shown? ((Model.ofConfig config).run (operations.take steps)) name =
          (Model.ofConfig other).shown? ((Model.ofConfig other).run (operations.take steps))
            name := by
  have hwf := Validate.wellFormed_of_isValid hvalid
  have hreset := Model.alike_reset (hreorders.model hwf) hwf.regular_model
    (hreorders.wellFormed hwf).regular_model
  refine ⟨(hreorders.performAll hwf operations hreset).2, fun steps name => ?_⟩
  exact hreorders.shown hwf (hreorders.performAll hwf (operations.take steps) hreset).1 name

/-- Two locks and a register of two fields, one of them held back by both locks. -/
def Config.latched : Config where
  moduleName := "regs"
  registers :=
    [{ name := "LOCK", address := some 0, type := .lockField },
      { name := "DATA", address := some 4
        fields := [{ name := "LOW", bits := ⟨2, 0, by decide, by decide⟩, resetValue := some 5
                     lockedBy := [⟨"LOCK", .bit 0⟩, ⟨"LOCK", .bit 1⟩] },
          { name := "HIGH", bits := ⟨6, 3, by decide, by decide⟩, resetValue := some 10
            type := some .writeOnce }] }]

/-- The same from the last register, field and lock to the first. -/
def Config.latchedReversed : Config where
  moduleName := "regs"
  registers :=
    [{ name := "DATA", address := some 4
       fields := [{ name := "HIGH", bits := ⟨6, 3, by decide, by decide⟩, resetValue := some 10
                    type := some .writeOnce },
         { name := "LOW", bits := ⟨2, 0, by decide, by decide⟩, resetValue := some 5
           lockedBy := [⟨"LOCK", .bit 1⟩, ⟨"LOCK", .bit 0⟩] }] },
      { name := "LOCK", address := some 0, type := .lockField }]

theorem Config.reorders_latched : Config.latched.Reorders Config.latchedReversed where
  registers := by
    refine .of_perm (List.Perm.swap _ _ _) (.cons ⟨?_, List.Perm.refl _, rfl⟩
      (.cons ⟨Multiset.Rel.zero, List.Perm.refl _, rfl⟩ .nil))
    exact .of_perm (List.Perm.swap _ _ _) (.cons ⟨List.Perm.refl _, rfl⟩
      (.cons ⟨List.Perm.swap _ _ _, rfl⟩ .nil))
  rest := rfl

theorem run_of_reorders_latched :
    (validate Config.latched).isValid = true ∧ Config.latched.Reorders Config.latchedReversed ∧
      (Model.ofConfig Config.latchedReversed).answers (Model.ofConfig Config.latchedReversed).reset
          [.write 4 0x3c 0, .write 0 2 0, .write 4 0xff 0, .read 4] =
        [.written .okay, .written .okay, .written .okay, .data 0x3c .okay] := by
  have hvalid : (validate Config.latched).isValid = true := by decide +kernel
  have hanswers := (run_of_reorders Config.latched Config.latchedReversed hvalid
    Config.reorders_latched [.write 4 0x3c 0, .write 0 2 0, .write 4 0xff 0, .read 4]).1
  exact ⟨hvalid, Config.reorders_latched, hanswers ▸ by decide +kernel⟩

end RegisterFile
