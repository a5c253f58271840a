import RegisterFile.Proofs.Bus.Apb
import RegisterFile.Proofs.Bus.Custom
import RegisterFile.Proofs.Bus.Ocp
import RegisterFile.Proofs.Bus.Wishbone

/-!
One write or read for each transfer, on the protocols that keep their master waiting for an answer.
The registers change, pulse and are read in the cycle of that write or read, so it must be neither
repeated while a request is held nor left out.
-/

namespace RegisterFile.Bus

open Verilog

/-- Through any run, each completed transfer makes exactly one write or read. An access phase of APB
    makes it in its last cycle, and the other protocols answer it exactly once, in the cycle after
    it. -/
theorem one_enable_per_transfer (config : Config) (provenance : Provenance) (length : Nat)
    (values : Nat → Env)
    (hrun : Run config (Hardware.ofConfig config provenance).widths length values) :
    (config.protocol = .apb → 1 ≤ config.options.waitStates.toNat →
      config.options.waitStates.toNat ≤ 15 →
      Apb.Conforms (Hardware.ofConfig config provenance).widths length values →
        Apb.InPhases config (Hardware.ofConfig config provenance).widths values
          config.options.waitStates.toNat length) ∧
    (config.protocol = .wishbone →
      Wishbone.answering (Hardware.ofConfig config provenance).widths (values 0) = false ∧
        ∀ t < length,
          Wishbone.Transfers config (Hardware.ofConfig config provenance).widths values t) ∧
    (config.protocol = .ocp →
      (∀ e, Ocp.ResetCycle config (Hardware.ofConfig config provenance).widths e values →
        (values 0).value (Hardware.ofConfig config provenance).widths "SResp" = 0) ∧
      ∀ t < length,
        Ocp.Transfers config (Hardware.ofConfig config provenance).widths values t) ∧
    (config.protocol = .custom → config.options.registeredRead = true →
      Custom.OneDirection (Hardware.ofConfig config provenance).widths length values →
        Custom.AcknowledgedOnce config (Hardware.ofConfig config provenance).widths values
          length) := by
  refine ⟨fun hprotocol hleast hmost hmaster => ?_, fun hprotocol => ?_, fun hprotocol => ?_,
    fun hprotocol hregistered hmaster => ?_⟩
  · have hwaitStates : Apb.waitStates config = config.options.waitStates.toNat :=
      Nat.min_eq_left hmost
    have hwaits : 0 < Apb.waitStates config := by omega
    rw [← hwaitStates]
    exact Apb.inPhases_of_run hprotocol hwaits (Apb.sized provenance hprotocol hwaits) hrun hmaster
  · have hsized := Wishbone.sized provenance hprotocol
    exact ⟨Wishbone.not_answering_zero hsized hprotocol hrun,
      fun t ht => Wishbone.transfers_of_run hsized hprotocol hrun ht⟩
  · have hsized := Ocp.sized provenance hprotocol
    exact ⟨fun e hreset => Ocp.silent_of_reset hsized hprotocol hreset,
      fun t ht => Ocp.transfers_of_run hsized hprotocol hrun ht⟩
  · exact Custom.acknowledgedOnce_of_run (Custom.sized provenance hprotocol) hprotocol hregistered
      hrun hmaster

/-- On each of the protocols a write and a read are made, the read from an address without a
    register but for APB. -/
theorem one_enable_per_transfer_traffic :
    Apb.InPhases Apb.register
        (Hardware.ofConfig Apb.register ⟨"regforge", "unspecified", ""⟩).widths Apb.traffic 2 9 ∧
      Wishbone.Transfers Wishbone.register
        (Hardware.ofConfig Wishbone.register ⟨"regforge", "unspecified", ""⟩).widths
        Wishbone.traffic 2 ∧
      (Ocp.traffic 0).value (Hardware.ofConfig Ocp.register ⟨"regforge", "unspecified", ""⟩).widths
        "SResp" = 0 ∧
      Ocp.Transfers Ocp.register
        (Hardware.ofConfig Ocp.register ⟨"regforge", "unspecified", ""⟩).widths Ocp.traffic 1 ∧
      Custom.AcknowledgedOnce Custom.registered
        (Hardware.ofConfig Custom.registered ⟨"regforge", "unspecified", ""⟩).widths
        Custom.traffic 3 := by
  obtain ⟨hapb, -, -, -⟩ := one_enable_per_transfer Apb.register ⟨"regforge", "unspecified", ""⟩ 9
    Apb.traffic Apb.run_traffic
  obtain ⟨-, hwishbone, -, -⟩ := one_enable_per_transfer Wishbone.register
    ⟨"regforge", "unspecified", ""⟩ 3 Wishbone.traffic Wishbone.run_traffic
  obtain ⟨-, -, hocp, -⟩ := one_enable_per_transfer Ocp.register ⟨"regforge", "unspecified", ""⟩ 3
    Ocp.traffic Ocp.run_traffic
  obtain ⟨-, -, -, hcustom⟩ := one_enable_per_transfer Custom.registered
    ⟨"regforge", "unspecified", ""⟩ 3 Custom.traffic Custom.run_traffic
  have hmaster : Custom.OneDirection
      (Hardware.ofConfig Custom.registered ⟨"regforge", "unspecified", ""⟩).widths 3
      Custom.traffic := by
    unfold Custom.OneDirection
    decide +kernel
  exact ⟨hapb rfl (by decide) (by decide) Apb.conforms_traffic, (hwishbone rfl).2 2 (by decide),
    (hocp rfl).1 _ Ocp.resetCycle_traffic, (hocp rfl).2 1 (by decide), hcustom rfl rfl hmaster⟩

end RegisterFile.Bus
