import RegisterFile.Proofs.Hardware.BusWrite
import RegisterFile.Proofs.Hardware.ReadMux

/-!
The module follows the model. From reset on, through any cycles that the bus and the hardware bring,
its signals show what the model's registers hold, and every transfer is answered as the model
answers it.
-/

namespace RegisterFile

open Verilog

namespace Hardware

variable {config : Config} {widths : Widths} {e e' : Env}
  {state : Model.State}

/-- A valid file whose flags and ports have names of their own declares every signal once. -/
theorem singlePorted_of_nodup (provenance : Provenance) (hwf : config.WellFormed)
    (hwrite : config.writePorts = 1) (hread : config.readPorts = 1)
    (hdistinct : (config.writtenFlags ++
      (ports config (Layout.ofConfig config)).map Port.name).Nodup) :
    SinglePorted config (ofConfig config provenance).widths := by
  obtain ⟨hflags, hports, -⟩ := List.nodup_append.mp hdistinct
  have happart : ∀ port ∈ config.interface.ports, port.name ∉ config.hardwarePorts := by
    intro port hport hhardware
    rw [names_ports] at hports
    refine (List.nodup_append.mp hports).2.2 port.name ?_ port.name hhardware rfl
    exact List.mem_append_left _ (List.mem_append_right _ (List.mem_map_of_mem hport))
  have hnodup : (ofConfig config provenance).declared.Nodup :=
    (declared_nodup_iff_of_wellFormed hwf provenance).mpr ⟨hflags, fun _ => happart⟩
  exact ⟨⟨hwf, signals_of_nodup hnodup, hflags, hwrite⟩, hread⟩

theorem stemsDistinct (hwf : config.WellFormed) : (Model.ofConfig config).StemsDistinct :=
  fun _ hmem _ hother _ hhw _ hotherHw hinput hotherInput hstem =>
    hw_eq_of_stem hwf hmem hother hhw hotherHw hinput hotherInput hstem

/-- The module and the model agree: cells have their shape, segments that the bus does not write do
    not pulse, and the signals show all of it. -/
structure Agrees (config : Config) (widths : Widths) (e : Env) (state : Model.State) : Prop where
  fits : (Model.ofConfig config).Fits state
  quiet : (Model.ofConfig config).Quiet state
  shows : Shows widths e (Model.ofConfig config) state

theorem agrees_reset (hsingle : SinglePorted config widths) (hsteps : StepsTo config widths e e')
    (hactive : (Reset.ofSync config.syncReset).active.holds widths e = true) :
    Agrees config widths e' (Model.ofConfig config).reset where
  fits := Model.fits_reset hsingle.wellFormed.regular
  quiet := Model.quiet_reset
  shows := shows_reset hsingle.wired hsteps hactive

/-- A clock edge keeps module and model in agreement, whatever the cycle brings. -/
theorem Agrees.after (hsingle : SinglePorted config widths) (hsteps : StepsTo config widths e e')
    (hreleased : (Reset.ofSync config.syncReset).active.holds widths e = false)
    (hsettled : Settled config widths e) {cycle : Cycle}
    (hpresents : Presents config widths e cycle) (hagrees : Agrees config widths e state) :
    Agrees config widths e' ((Model.ofConfig config).after state cycle) := by
  obtain ⟨hfits, hquiet, hshows⟩ := hagrees
  have hmodel := hsingle.wellFormed.regular_model
  refine ⟨Model.fits_after hmodel.layout hfits cycle, Model.quiet_after hmodel hfits cycle, ?_⟩
  cases cycle with
  | write address data strobe =>
    exact shows_write hsingle hsteps hreleased hfits hquiet hshows hsettled hpresents
  | read address =>
    exact shows_read hsingle hsteps hreleased hsettled hfits hquiet hshows hpresents
  | idle => exact shows_idle hsingle hsteps hreleased hfits hquiet hshows hpresents
  | hardware writes =>
    exact shows_hardware hsingle hsteps hreleased hfits hquiet hshows
      (stemsDistinct hsingle.wellFormed) hpresents

theorem Agrees.answers (hsingle : SinglePorted config widths) (hsettled : Settled config widths e)
    {cycle : Cycle} (hpresents : Presents config widths e cycle)
    (hagrees : Agrees config widths e state) : Answers config widths e state cycle := by
  cases cycle with
  | write address data strobe =>
    exact answers_write hsingle hsettled hagrees.fits hagrees.shows hpresents
  | read address => exact answers_read hsingle hsettled hagrees.fits hagrees.shows hpresents
  | idle => trivial
  | hardware writes => trivial

/-- Module and model agree at every point of a run. -/
theorem Run.agrees (hsingle : SinglePorted config widths) {cycles : List Cycle}
    {values : Nat → Env} (hrun : Run config widths cycles values) {t : Nat}
    (ht : t ≤ cycles.length) :
    Agrees config widths (values t) ((Model.ofConfig config).afterAll (cycles.take t)) := by
  -- Agreement is the invariant: reset brings it about, and each cycle keeps it.
  induction t with
  | zero =>
    obtain ⟨e, hactive, hsteps⟩ := hrun.reset
    exact agrees_reset hsingle hsteps hactive
  | succ t ih =>
    have hlt : t < cycles.length := ht
    have hafter : (Model.ofConfig config).afterAll (cycles.take (t + 1)) =
        (Model.ofConfig config).after ((Model.ofConfig config).afterAll (cycles.take t))
          cycles[t] := by
      rw [Model.afterAll, List.take_succ_eq_append_getElem hlt, List.foldl_append]
      rfl
    rw [hafter]
    exact (ih (Nat.le_of_lt hlt)).after hsingle (hrun.steps t hlt) (hrun.released t hlt)
      (hrun.settled t hlt) (hrun.presents t hlt)

end Hardware

/-- The module of a valid register file with one port of each kind refines the model: through any
    cycles from reset on, its signals show what the registers of the model hold, and every read and
    write is answered with the model's data and errors. -/
theorem run_refines_model (config : Config) (provenance : Provenance)
    (hvalid : (validate config).isValid = true) (hwrite : config.writePorts = 1)
    (hread : config.readPorts = 1)
    (hdistinct : (config.writtenFlags ++
      (Hardware.ports config (Layout.ofConfig config)).map Port.name).Nodup)
    (cycles : List Cycle) (values : Nat → Env)
    (hrun : Hardware.Run config (Hardware.ofConfig config provenance).widths cycles values) :
    (∀ t ≤ cycles.length,
      (Model.ofConfig config).Fits ((Model.ofConfig config).afterAll (cycles.take t)) ∧
        Hardware.Shows (Hardware.ofConfig config provenance).widths (values t)
          (Model.ofConfig config) ((Model.ofConfig config).afterAll (cycles.take t))) ∧
      ∀ (t : Nat) (ht : t < cycles.length),
        Hardware.Answers config (Hardware.ofConfig config provenance).widths (values t)
          ((Model.ofConfig config).afterAll (cycles.take t)) cycles[t] := by
  have hwf := Validate.wellFormed_of_isValid hvalid
  have hsingle := Hardware.singlePorted_of_nodup provenance hwf hwrite hread hdistinct
  constructor
  · intro t ht
    have hagrees := hrun.agrees hsingle ht
    exact ⟨hagrees.fits, hagrees.shows⟩
  · intro t ht
    exact (hrun.agrees hsingle (Nat.le_of_lt ht)).answers hsingle (hrun.settled t ht)
      (hrun.presents t ht)

/-- A lock, a pulse that it holds back, and a status that hardware writes and a read clears. -/
def Config.gated : Config where
  moduleName := "regs"
  syncReset := true
  registers :=
    [{ name := "LOCK", address := some 0, type := .lockField },
      { name := "KICK", address := some 4, type := .write1Pulse, lockedBy := [⟨"LOCK", .bit 0⟩] },
      { name := "STAT", address := some 8, type := .readClean, hwAccess := some .write }]
  options := { lockError := true }

namespace Hardware

/-- A status comes in, a pulse goes out, the lock is set, the next pulse is refused, and the status
    is read. -/
def gatedCycles : List Cycle :=
  [.hardware [("stat", 7)], .write 4 5 0, .write 0 1 0, .write 4 3 0, .read 8]

/-- The signals that are not zero in a cycle. -/
def gatedSignals : Nat → List (String × Word)
  | 0 => [("stat_we", 1), ("stat_i", 7)]
  | 1 =>
    [("psel", 1), ("penable", 1), ("pwrite", 1), ("paddr", 4), ("pwdata", 5), ("stat_reg", 7)]
  | 2 =>
    [("psel", 1), ("penable", 1), ("pwrite", 1), ("pwdata", 1), ("stat_reg", 7),
      ("kick_pulse", 5)]
  | 3 =>
    [("psel", 1), ("penable", 1), ("pwrite", 1), ("paddr", 4), ("pwdata", 3), ("stat_reg", 7),
      ("lock_reg", 1), ("wr_lock_err", 1), ("bus_wr_err", 1)]
  | 4 =>
    [("psel", 1), ("penable", 1), ("paddr", 8), ("prdata", 7), ("stat_reg", 7), ("lock_reg", 1)]
  | _ => [("lock_reg", 1)]

def gatedValues (t : Nat) : Env := fun name =>
  ((gatedSignals t ++ [("ADDR_KICK", 4), ("ADDR_STAT", 8)]).lookup name).getD 0

theorem run_gated :
    Run Config.gated (ofConfig Config.gated ⟨"regforge", "unspecified", ""⟩).widths gatedCycles
      gatedValues where
  reset := ⟨fun _ => 1, by decide +kernel, by decide +kernel⟩
  released := by decide +kernel
  presents := by decide +kernel
  settled := by decide +kernel
  steps := by decide +kernel

end Hardware

/-- The refused pulse raises the write error, and the status is gone after it is read. -/
theorem run_refines_model_gated :
    (validate Config.gated).isValid = true ∧
      Hardware.Run Config.gated
        (Hardware.ofConfig Config.gated ⟨"regforge", "unspecified", ""⟩).widths
        Hardware.gatedCycles Hardware.gatedValues ∧
      Hardware.Answers Config.gated
        (Hardware.ofConfig Config.gated ⟨"regforge", "unspecified", ""⟩).widths
        (Hardware.gatedValues 3)
        ((Model.ofConfig Config.gated).afterAll (Hardware.gatedCycles.take 3)) (.write 4 3 0) ∧
      Hardware.Shows (Hardware.ofConfig Config.gated ⟨"regforge", "unspecified", ""⟩).widths
        (Hardware.gatedValues 5) (Model.ofConfig Config.gated)
        ((Model.ofConfig Config.gated).afterAll Hardware.gatedCycles) := by
  have hvalid : (validate Config.gated).isValid = true := by decide +kernel
  have hrefines := run_refines_model Config.gated ⟨"regforge", "unspecified", ""⟩ hvalid rfl rfl
    (by decide +kernel) Hardware.gatedCycles Hardware.gatedValues Hardware.run_gated
  exact ⟨hvalid, Hardware.run_gated, hrefines.2 3 (by decide), (hrefines.1 5 (by decide)).2⟩

end RegisterFile
