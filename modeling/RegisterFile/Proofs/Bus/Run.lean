import RegisterFile.Proofs.Hardware.Signals
import RegisterFile.Proofs.Verilog.Whole

/-!
Runs of a bus interface. Its wires follow its registers within a cycle, and its blocks make the step
to the next one. Everything else is an input: the ports that the master drives, and the error wires
and the read data that the registers of the file give.
-/

namespace RegisterFile.Bus

open Verilog

variable {config : Config} {widths : Widths}

/-- The state and the wires of a bus interface and its handshake. -/
def interfaceItems (config : Config) : List Item :=
  config.interface.declarations ++ config.interface.handshake

/-- The bus interface is part of the module. -/
theorem interfaceItems_subset (config : Config) (provenance : Provenance) :
    interfaceItems config ⊆ (Hardware.ofConfig config provenance).items := by
  intro item hitem
  simp only [Hardware.ofConfig, Hardware.items, List.mem_append]
  rcases List.mem_append.mp hitem with hstate | hhandshake
  · exact Or.inl (Or.inl (Or.inl (Or.inl (Or.inl (Or.inl (Or.inr (Hardware.mem_titled hstate)))))))
  · exact Or.inl (Or.inr (Hardware.mem_titled hhandshake))

/-- The values of a bus interface through a number of cycles from reset on. -/
structure Run (config : Config) (widths : Widths) (length : Nat) (values : Nat → Env) : Prop where
  reset : ∃ e, (Reset.ofSync config.syncReset).active.holds widths e = true ∧
    ∀ item ∈ interfaceItems config, item.Steps widths e (values 0)
  released : ∀ t < length, (Reset.ofSync config.syncReset).active.holds widths (values t) = false
  settled : ∀ t < length, ∀ item ∈ interfaceItems config, item.Holds widths (values t)
  steps : ∀ t < length, ∀ item ∈ interfaceItems config,
    item.Steps widths (values t) (values (t + 1))

/-- Whether a write is made. -/
def writeEnabled (config : Config) (widths : Widths) (e : Env) : Bool :=
  config.interface.signals.writeEnable.holds widths e

/-- Whether a read is made. -/
def readEnabled (config : Config) (widths : Widths) (e : Env) : Bool :=
  config.interface.signals.readEnable.holds widths e

/-! ### Beats -/

section Beats

variable {α β : Type} {values : Nat → Env}

/-- What happened in the cycles before `t`, in order. -/
def beats (event : Env → Option α) (values : Nat → Env) (t : Nat) : List α :=
  (List.range t).filterMap fun s => event (values s)

@[simp] theorem beats_zero (event : Env → Option α) : beats event values 0 = [] :=
  rfl

theorem beats_succ (event : Env → Option α) (t : Nat) :
    beats event values (t + 1) = beats event values t ++ (event (values t)).toList := by
  rw [beats, List.range_succ, List.filterMap_append]
  cases hevent : event (values t) <;> simp [beats, hevent]

theorem beats_map (event : Env → Option α) (f : α → β) (t : Nat) :
    beats (fun e => (event e).map f) values t = (beats event values t).map f := by
  rw [beats, beats, List.map_filterMap]

/-- What a place for one beat holds or takes up in a cycle, it gives away or goes on holding. -/
def Passes (held taken given held' : Option α) : Prop :=
  held.toList ++ taken.toList = given.toList ++ held'.toList

/-- A register for one beat and the flag that it is full. It takes a beat up only while it is empty
    and gives away only what it holds. -/
theorem passes_register {full take give : Bool} {held beat : α} (htake : take = true → full = false)
    (hgive : give = true → full = true) :
    Passes (if full then some held else none) (if take then some beat else none)
      (if give then some held else none)
      (if take || full && !give then some (if take then beat else held) else none) := by
  cases htakes : take with
  | true =>
    have hempty := htake htakes
    cases hgives : give with
    | true => exact absurd (hgive hgives) (by simp [hempty])
    | false => simp [Passes, hempty]
  | false =>
    cases hgives : give with
    | true => simp [Passes, hgive hgives]
    | false => simp [Passes]

/-- What went into a place that was empty at first has come out in the same order, but for the beat
    that it holds. -/
theorem beats_eq_append_held {held taken given : Env → Option α} {length : Nat}
    (hempty : held (values 0) = none)
    (hpasses : ∀ t < length, Passes (held (values t)) (taken (values t)) (given (values t))
      (held (values (t + 1)))) {t : Nat} (ht : t ≤ length) :
    beats taken values t = beats given values t ++ (held (values t)).toList := by
  induction t with
  | zero => rw [beats_zero, beats_zero, hempty, Option.toList_none, List.append_nil]
  | succ t ih =>
    rw [beats_succ, ih (Nat.le_of_lt ht), List.append_assoc, hpasses t ht, beats_succ,
      List.append_assoc]

theorem length_toList_ite (full : Bool) (held : α) :
    (if full then some held else none).toList.length = full.toNat := by
  cases full <;> rfl

/-- A flag that giving away lowers and taking up raises. -/
theorem high_of_lowered {e e' : Env} {name : String} {take give : Bool}
    (hnext : e'.value widths name = if give then 0 else if take then 1 else e.value widths name)
    (htake : take = true → e.high widths name = false) (hgive : give = true → e.high widths name) :
    e'.high widths name = (take || e.high widths name && !give) := by
  cases hgives : give with
  | true =>
    have hfull := hgive hgives
    have hidle : take = false := by
      cases htakes : take with
      | true => rw [htake htakes] at hfull; cases hfull
      | false => rfl
    simp [Env.high, hnext, hgives, hidle]
  | false =>
    cases htakes : take <;> simp [Env.high, hnext, hgives, htakes]

/-- A flag that taking up raises and giving away lowers. -/
theorem high_of_raised {e e' : Env} {name : String} {take give : Bool}
    (hnext : e'.value widths name = if take then 1 else if give then 0 else e.value widths name) :
    e'.high widths name = (take || e.high widths name && !give) := by
  cases htakes : take <;> cases hgives : give <;> simp [Env.high, hnext, htakes, hgives]

end Beats

end RegisterFile.Bus
