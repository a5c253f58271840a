import RegisterFile.Proofs.Hardware.Gates

/-!
The write ports of a module and which of them a register follows. Every segment chooses among the
ports for itself, but a port passes the gates of a segment exactly if any other would. So all
segments of a register follow the same port, the first that brings its address.
-/

namespace RegisterFile

open Verilog

/-- A bus write as a port brings it. -/
structure PortWrite where
  address : UInt64
  data : Word
  strobe : Word

/-- Of what the write ports bring in a cycle, the first write to an address. -/
def firstWrite? (writes : List (Option PortWrite)) (address : UInt64) : Option PortWrite :=
  writes.findSome? fun write => write.filter fun write => write.address == address

namespace Hardware

variable {config : Config} {provenance : Provenance} {widths : Widths} {e : Env}
  {state : Model.State} {register : RegisterLayout} {segment : Segment} {port : WritePort}

/-- The write ports, the bus in front. -/
def allWritePorts (config : Config) : List WritePort :=
  busWritePort config :: extraWritePorts config

/-- The read ports, the bus in front. -/
def allReadPorts (config : Config) : List ReadPort :=
  busReadPort config :: extraReadPorts config

/-- What the update block relies on in a write port. -/
structure WritePort.Regular (config : Config) (widths : Widths) (port : WritePort) : Prop where
  enable : port.enable.width widths = 1
  data : widths port.data = config.dataWidth.toNat
  strobe : port.strobe.isSome = config.byteEnable

/-- A valid register file whose signals and write ports have their widths. -/
structure Wired (config : Config) (widths : Widths) : Prop where
  wellFormed : config.WellFormed
  signals : Signals config widths
  flags : config.writtenFlags.Nodup
  writePorts : ∀ port ∈ allWritePorts config, port.Regular config widths

/-- A port brings a write. -/
structure WritePort.Brings (config : Config) (widths : Widths) (e : Env) (port : WritePort)
    (write : PortWrite) : Prop where
  enable : port.enable.holds widths e = true
  addr : e.value widths port.addr = BitVec.ofNat 128 write.address.toNat
  data : e.value widths port.data = write.data &&& Word.lowMask config.dataWidth.toNat
  strobe : ∀ name ∈ port.strobe,
    e.value widths name = write.strobe &&& Word.lowMask config.byteLanes

/-- A port brings a write or nothing. -/
def WritePort.Presents (config : Config) (widths : Widths) (e : Env) (port : WritePort) :
    Option PortWrite → Prop
  | some write => port.Brings config widths e write
  | none => port.enable.holds widths e = false

instance (port : WritePort) (write : PortWrite) :
    Decidable (port.Brings config widths e write) :=
  decidable_of_iff (port.enable.holds widths e = true ∧
      e.value widths port.addr = BitVec.ofNat 128 write.address.toNat ∧
      e.value widths port.data = write.data &&& Word.lowMask config.dataWidth.toNat ∧
      ∀ name ∈ port.strobe,
        e.value widths name = write.strobe &&& Word.lowMask config.byteLanes)
    ⟨fun ⟨henable, haddr, hdata, hstrobe⟩ => ⟨henable, haddr, hdata, hstrobe⟩,
      fun hbrings => ⟨hbrings.enable, hbrings.addr, hbrings.data, hbrings.strobe⟩⟩

instance (port : WritePort) : DecidablePred (port.Presents config widths e)
  | some write => inferInstanceAs (Decidable (port.Brings config widths e write))
  | none => inferInstanceAs (Decidable (port.enable.holds widths e = false))

/-- A port brings a read of an address or nothing. -/
def ReadPort.Presents (widths : Widths) (e : Env) (port : ReadPort) : Option UInt64 → Prop
  | some address => port.enable.holds widths e = true ∧
      e.value widths port.addr = BitVec.ofNat 128 address.toNat
  | none => port.enable.holds widths e = false

instance (port : ReadPort) : DecidablePred (port.Presents widths e)
  | some address => inferInstanceAs (Decidable (port.enable.holds widths e = true ∧
      e.value widths port.addr = BitVec.ofNat 128 address.toNat))
  | none => inferInstanceAs (Decidable (port.enable.holds widths e = false))

/-- Whether a port asks for a write of a register. -/
def WritePort.targets (widths : Widths) (e : Env) (register : RegisterLayout) (port : WritePort) :
    Bool :=
  port.enable.holds widths e && (addressed port.addr register).holds widths e

/-- Whether a port reads a register. -/
def ReadPort.targets (widths : Widths) (e : Env) (register : RegisterLayout) (port : ReadPort) :
    Bool :=
  port.enable.holds widths e && (addressed port.addr register).holds widths e

/-- The port that the segments of a register follow. -/
def leader? (config : Config) (widths : Widths) (e : Env) (register : RegisterLayout) :
    Option WritePort :=
  (allWritePorts config).find? (WritePort.targets widths e register)

/-- Whether the gates of a segment let a write through. -/
def opensGates (widths : Widths) (e : Env) (segment : Segment) : Bool :=
  (gateTerms segment).all fun term => term.holds widths e

/-! ### The signals of ports -/

theorem regular_busWritePort (hbus : BusSignals config widths) :
    (busWritePort config).Regular config widths :=
  ⟨hbus.writeEnable, hbus.writeData, isSome_writeStrobe⟩

theorem writePortPorts_subset {i : Nat} (hi : i ∈ extraPorts config.writePorts) :
    writePortPorts config i ⊆ ports config (Layout.ofConfig config) := by
  intro port hport
  simp only [ports, List.mem_append]
  exact Or.inl (Or.inl (Or.inr (List.mem_flatMap.mpr ⟨i, hi, hport⟩)))

theorem regular_extraWritePort (hnodup : (ofConfig config provenance).declared.Nodup) {i : Nat}
    (hi : i ∈ extraPorts config.writePorts) :
    (extraWritePort config i).Regular config (ofConfig config provenance).widths := by
  have hdeclares {port : Port} (hport : port ∈ writePortPorts config i) :
      port.declares ∈ (ofConfig config provenance).declarations :=
    port_mem_declarations (writePortPorts_subset hi hport)
  refine ⟨?_, ?_, ?_⟩
  · have hport : Port.input s!"wp{i}_en" ∈ writePortPorts config i :=
      List.mem_append_left _ List.mem_cons_self
    exact widths_of_mem hnodup (hdeclares hport)
  · have hport : Port.input s!"wp{i}_wdata" (some config.dataWidth.toNat) ∈
        writePortPorts config i :=
      List.mem_append_left _ (List.mem_cons_of_mem _ (List.mem_cons_of_mem _ List.mem_cons_self))
    exact widths_of_mem hnodup (hdeclares hport)
  · rw [extraWritePort]
    cases config.byteEnable <;> rfl

/-- A valid file whose module declares every name once. -/
theorem wired_of_nodup (hwf : config.WellFormed)
    (hnodup : (ofConfig config provenance).declared.Nodup) :
    Wired config (ofConfig config provenance).widths where
  wellFormed := hwf
  signals := signals_of_nodup hnodup
  flags := ((declared_nodup_iff_of_wellFormed hwf provenance).mp hnodup).1
  writePorts := by
    intro port hport
    rcases List.mem_cons.mp hport with rfl | hextra
    · exact regular_busWritePort (signals_of_nodup hnodup).toBusSignals
    · obtain ⟨i, hi, rfl⟩ := List.mem_map.mp hextra
      exact regular_extraWritePort hnodup hi

theorem width_readEnable (hnodup : (ofConfig config provenance).declared.Nodup) :
    ∀ port ∈ allReadPorts config,
      port.enable.width (ofConfig config provenance).widths = 1 := by
  intro port hport
  rcases List.mem_cons.mp hport with rfl | hextra
  · exact (signals_of_nodup hnodup).readEnable
  · obtain ⟨i, hi, rfl⟩ := List.mem_map.mp hextra
    have henable : Port.input s!"rp{i}_en" ∈ ports config (Layout.ofConfig config) := by
      simp only [ports, List.mem_append]
      exact Or.inl (Or.inr (List.mem_flatMap.mpr ⟨i, hi, List.mem_cons_self⟩))
    exact widths_of_mem hnodup (port_mem_declarations henable)

/-! ### Conditions of bus writes and reads -/

/-- The condition of a bus write is the request of the port and, apart from it, the gates. -/
theorem holds_writeCondition (hsignals : Signals config widths)
    (hmem : register ∈ (Layout.ofConfig config).registers)
    (hsegment : segment ∈ register.segments) (hport : port.Regular config widths) :
    (writeCondition register segment port).holds widths e =
      (port.targets widths e register && opensGates widths e segment) := by
  have hrest : ∀ term ∈ addressed port.addr register :: gateTerms segment,
      term.width widths = 1 :=
    List.forall_mem_cons.mpr ⟨width_addressed, width_gateTerms hsignals hmem hsegment⟩
  rw [writeCondition, Expr.holds_ands hport.enable hrest, List.all_cons, WritePort.targets,
    opensGates, Bool.and_assoc]

/-- A segment lets a write through exactly if the model does, whichever port brings it. -/
theorem opensGates_iff (hwired : Wired config widths) (hfits : (Model.ofConfig config).Fits state)
    (hshows : Shows widths e (Model.ofConfig config) state) {cell : Model.Cell}
    (hholds : (Model.ofConfig config).Holds state register cell) {written : Bool}
    (hentry : (segment, written) ∈ register.segments.zip cell.written)
    (hwritable : segment.swWrite = true) :
    opensGates widths e segment = true ↔
      (Model.ofConfig config).Admits state segment written := by
  rw [opensGates, List.all_eq_true,
    holds_gateTerms hwired.wellFormed hwired.signals hfits hshows hholds hentry hwritable]

theorem holds_readStrobe {port : ReadPort} (hport : port.enable.width widths = 1) :
    (readStrobe register port).holds widths e = port.targets widths e register := by
  rw [readStrobe, Expr.holds_group, Expr.holds_and hport width_addressed, ReadPort.targets]

theorem width_readStrobe {port : ReadPort} (hport : port.enable.width widths = 1) :
    (readStrobe register port).width widths = 1 := by
  simp only [readStrobe, Expr.width, hport, width_addressed, Nat.max_self]

/-- A read of a register happens if any port asks for it. -/
theorem holds_anyRead (hports : ∀ port ∈ allReadPorts config, port.enable.width widths = 1) :
    (anyRead config register).holds widths e =
      (allReadPorts config).any (ReadPort.targets widths e register) := by
  obtain ⟨hbus, hextra⟩ := List.forall_mem_cons.mp hports
  have hstrobes : ((extraReadPorts config).map (readStrobe register)).any
      (fun term => term.holds widths e) =
        (extraReadPorts config).any (ReadPort.targets widths e register) := by
    rw [List.any_map, Bool.eq_iff_iff, List.any_eq_true, List.any_eq_true]
    refine exists_congr fun port => and_congr_right fun hport => ?_
    rw [Function.comp, holds_readStrobe (hextra port hport)]
  have hwidths : ∀ term ∈ (extraReadPorts config).map (readStrobe register),
      term.width widths = 1 :=
    List.forall_mem_map.mpr fun port hport => width_readStrobe (hextra port hport)
  rw [anyRead, ← List.foldl_map, Expr.holds_foldl_or (width_readStrobe hbus) hwidths, hstrobes,
    holds_readStrobe hbus, allReadPorts, List.any_cons]

/-! ### The port that a register follows -/

theorem mem_of_leader? (hleader : leader? config widths e register = some port) :
    port ∈ allWritePorts config :=
  List.mem_of_find?_eq_some hleader

/-- A port that brings a write asks for the register of its address. -/
theorem WritePort.Brings.targets_eq (hwf : config.WellFormed) (hsignals : Signals config widths)
    (hsettled : Settled config widths e) (hmem : register ∈ (Layout.ofConfig config).registers)
    {write : PortWrite} (hbrings : port.Brings config widths e write) :
    port.targets widths e register = (register.address == write.address) := by
  rw [WritePort.targets, hbrings.enable, Bool.true_and, Bool.eq_iff_iff,
    holds_addressed_iff hwf hsignals hsettled hmem hbrings.addr, beq_iff_eq]

/-- The first port that asks for a register is the one that brings the first write to its address,
    if there is one. -/
theorem rel_find?_targets (hwf : config.WellFormed) (hsignals : Signals config widths)
    (hsettled : Settled config widths e) (hmem : register ∈ (Layout.ofConfig config).registers)
    {ports : List WritePort} {writes : List (Option PortWrite)}
    (hpresents : List.Forall₂ (WritePort.Presents config widths e) ports writes) :
    Option.Rel (WritePort.Brings config widths e)
      (ports.find? (WritePort.targets widths e register))
      (firstWrite? writes register.address) := by
  induction hpresents with
  | nil => exact Option.Rel.none
  | @cons port write ports writes hport _ ih =>
    cases write with
    | none =>
      have hidle : port.targets widths e register = false := by
        rw [WritePort.targets, show port.enable.holds widths e = false from hport, Bool.false_and]
      rw [List.find?_cons_of_neg (by rw [hidle]; exact Bool.false_ne_true)]
      exact ih
    | some write =>
      have hbrings : port.Brings config widths e write := hport
      have htargets := hbrings.targets_eq hwf hsignals hsettled hmem
      rw [List.find?_cons, htargets, firstWrite?, List.findSome?_cons, Option.filter_some,
        BEq.comm]
      cases write.address == register.address with
      | true => exact Option.Rel.some hbrings
      | false => exact ih

/-- Some port reads a register exactly if a read of its address is brought. -/
theorem any_targets_iff (hwf : config.WellFormed) (hsignals : Signals config widths)
    (hsettled : Settled config widths e) (hmem : register ∈ (Layout.ofConfig config).registers)
    {ports : List ReadPort} {reads : List (Option UInt64)}
    (hpresents : List.Forall₂ (ReadPort.Presents widths e) ports reads) :
    ports.any (ReadPort.targets widths e register) = true ↔ some register.address ∈ reads := by
  induction hpresents with
  | nil => exact iff_of_false Bool.false_ne_true List.not_mem_nil
  | @cons port read ports reads hport _ ih =>
    have htargets : port.targets widths e register = true ↔ some register.address = read := by
      cases read with
      | none =>
        rw [ReadPort.targets, show port.enable.holds widths e = false from hport, Bool.false_and]
        exact ⟨fun hfalse => absurd hfalse Bool.false_ne_true, fun hsome => by cases hsome⟩
      | some address =>
        rw [ReadPort.targets, hport.1, Bool.true_and, Option.some.injEq]
        exact holds_addressed_iff hwf hsignals hsettled hmem hport.2
    rw [List.any_cons, Bool.or_eq_true, htargets, ih, List.mem_cons]

end Hardware

end RegisterFile
