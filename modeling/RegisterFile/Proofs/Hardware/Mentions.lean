import RegisterFile.Proofs.Hardware.Pieces
import RegisterFile.Proofs.Hardware.Ports
import RegisterFile.Proofs.Verilog.References

/-!
What a generated module mentions. The interface of the bus, the gates, the update block, the read
multiplexers and the outputs build their signals each for itself, some of them from names of other
registers; together they mention nothing but what is listed here, and the module declares all of
it.
-/

namespace RegisterFile

open Verilog

/-- The ranges of bits that a register is accessed by. -/
def RegisterLayout.ranges (register : RegisterLayout) : List BitRange :=
  register.segments.map Segment.bits ++ register.hwFields.map HwField.bits

namespace Hardware

/-- The names of a module's signals and constants, family by family. -/
def signalNames (config : Config) : List String :=
  fixedNames config ++ config.hardwarePorts ++ furtherNames config ++ addressNames config ++
    storageNames config ++ config.writtenFlags

/-- The signals and bits of signals that the module of a register file mentions. -/
inductive Mentions (config : Config) : Ref → Prop
  | whole {name : String} (hname : name ∈ signalNames config) : Mentions config ⟨name, .whole⟩
  /-- Bits of a segment, of a piece of it or of a field for hardware. -/
  | storageBits {register : RegisterLayout} {bits : BitRange} {high low : Nat}
    (hmem : register ∈ (Layout.ofConfig config).registers) (hbits : bits ∈ register.ranges)
    (hle : low ≤ high) (hhigh : high ≤ bits.high) :
    Mentions config (storageBits register high low)
  /-- The bits of a lock, by the identifier of its register. -/
  | lock {register : RegisterLayout} {segment : Segment} {tap : LockTap} {select : Select}
    (hmem : register ∈ (Layout.ofConfig config).registers) (hsegment : segment ∈ register.segments)
    (htap : tap ∈ segment.locks)
    (hselect : select = .bit tap.bits.low ∨ select = .bits tap.bits.high tap.bits.low) :
    Mentions config ⟨storageName tap.register, select⟩
  | pulse {register : RegisterLayout} {segment : Segment} {name : String} {high low : Nat}
    (hmem : register ∈ (Layout.ofConfig config).registers) (hsegment : segment ∈ register.segments)
    (hpulse : segment.pulsePort = some name) (hle : low ≤ high)
    (hhigh : high < segment.bits.width) :
    Mentions config (.part name high low segment.bits.width)
  /-- Written bits, which have the positions of those that they are for. -/
  | data {register : RegisterLayout} {segment : Segment} {port : WritePort} {high low : Nat}
    (hmem : register ∈ (Layout.ofConfig config).registers) (hsegment : segment ∈ register.segments)
    (hport : port ∈ allWritePorts config) (hle : low ≤ high) (hhigh : high ≤ segment.bits.high) :
    Mentions config (.part port.data high low config.dataWidth.toNat)
  | strobe {port : WritePort} {name : String} {lane : Nat} (hport : port ∈ allWritePorts config)
    (hstrobe : port.strobe = some name) (hlane : lane < config.byteLanes) :
    Mentions config ⟨name, .bit lane⟩

variable {config : Config} {provenance : Provenance} {register : RegisterLayout}
  {segment : Segment}

/-! ### Names -/

theorem fixed_mem_signalNames {name : String} (hname : name ∈ fixedNames config) :
    name ∈ signalNames config := by
  simp only [signalNames, List.mem_append, hname, true_or]

theorem hardware_mem_signalNames {name : String} (hname : name ∈ config.hardwarePorts) :
    name ∈ signalNames config := by
  simp only [signalNames, List.mem_append, hname, true_or, or_true]

theorem further_mem_signalNames {name : String} (hname : name ∈ furtherNames config) :
    name ∈ signalNames config := by
  simp only [signalNames, List.mem_append, hname, true_or, or_true]

theorem address_mem_signalNames (hmem : register ∈ (Layout.ofConfig config).registers) :
    addressName register ∈ signalNames config := by
  have hname : addressName register ∈ addressNames config := List.mem_map_of_mem hmem
  simp only [signalNames, List.mem_append, hname, true_or, or_true]

theorem storage_mem_signalNames (hmem : register ∈ (Layout.ofConfig config).registers) :
    storageName register.ident ∈ signalNames config := by
  have hname : storageName register.ident ∈ storageNames config := List.mem_map_of_mem hmem
  simp only [signalNames, List.mem_append, hname, true_or, or_true]

theorem flag_mem_signalNames (hmem : register ∈ (Layout.ofConfig config).registers)
    (hsegment : segment ∈ register.segments) {flag : String}
    (hflag : segment.writtenFlag = some flag) : flag ∈ signalNames config :=
  List.mem_append_right _ (List.mem_flatMap.mpr
    ⟨register, hmem, List.mem_filterMap.mpr ⟨segment, hsegment, hflag⟩⟩)

theorem port_mem_signalNames (hmem : register ∈ (Layout.ofConfig config).registers)
    {port : Port} (hport : port ∈ registerPorts register) : port.name ∈ signalNames config :=
  hardware_mem_signalNames
    (List.mem_map_of_mem (List.mem_flatMap.mpr ⟨register, hmem, hport⟩))

theorem pulse_mem_signalNames (hmem : register ∈ (Layout.ofConfig config).registers)
    (hsegment : segment ∈ register.segments) {pulse : String}
    (hpulse : segment.pulsePort = some pulse) : pulse ∈ signalNames config :=
  port_mem_signalNames hmem (pulse_mem_registerPorts hsegment hpulse)

theorem error_mem_signalNames {name : String} (hname : name ∈ errorNames) :
    name ∈ signalNames config :=
  fixed_mem_signalNames (List.mem_append_right _ hname)

/-- A module declares these names and no others. -/
theorem mem_declared_iff {name : String} :
    name ∈ (ofConfig config provenance).declared ↔ name ∈ signalNames config :=
  (declared_perm config provenance).mem_iff

/-! ### The bus -/

/-- A whole signal with one of some names. -/
def isFixed (names : List String) (ref : Ref) : Bool :=
  ref.select == .whole && names.contains ref.name

/-- What an interface mentions. -/
def busRefs (config : Config) : List Ref :=
  (config.interface.declarations ++ config.interface.handshake).flatMap Item.refs ++
    config.interface.signals.writeEnable.refs ++ config.interface.signals.readEnable.refs ++
    [config.interface.signals.writeAddr, config.interface.signals.writeData,
      config.interface.signals.readAddr, config.interface.signals.readData].map (⟨·, .whole⟩) ++
    config.interface.signals.writeStrobe.toList.map (⟨·, .whole⟩)

/-- A register file of one choice of the options on which the names of a bus depend. -/
def busConfig (protocol : Bus.Protocol) (sync byte option : Bool) : Config where
  protocol := protocol
  syncReset := sync
  byteEnable := byte
  options := { waitStates := if option then 1 else 0, registeredRead := option }

/-- The widths of the bus and the registers make no difference to the names of a bus. -/
theorem exists_busConfig (config : Config) :
    ∃ option, busRefs config =
        busRefs (busConfig config.protocol config.syncReset config.byteEnable option) ∧
      fixedNames config =
        fixedNames (busConfig config.protocol config.syncReset config.byteEnable option) := by
  cases hprotocol : config.protocol with
  | apb =>
    by_cases hwait : 0 < Bus.Apb.waitStates config
    · refine ⟨true, ?_, ?_⟩
      · simp only [busRefs, Config.interface, hprotocol, Bus.Apb.interface, Bus.Apb.signals,
          Bus.Apb.readyTerms, Bus.Apb.declarations, Bus.Apb.handshake, if_pos hwait]
        rfl
      · simp only [fixedNames, busNames, Config.interface, hprotocol, Bus.Apb.interface,
          Bus.Apb.ports, Bus.Apb.declarations, if_pos hwait]
        cases config.byteEnable <;> rfl
    · refine ⟨false, ?_, ?_⟩
      · simp only [busRefs, Config.interface, hprotocol, Bus.Apb.interface, Bus.Apb.signals,
          Bus.Apb.readyTerms, Bus.Apb.declarations, Bus.Apb.handshake, if_neg hwait]
        rfl
      · simp only [fixedNames, busNames, Config.interface, hprotocol, Bus.Apb.interface,
          Bus.Apb.ports, Bus.Apb.declarations, if_neg hwait]
        cases config.byteEnable <;> rfl
  | axi4Lite | wishbone | ocp =>
    refine ⟨false, ?_, ?_⟩
    · simp only [busRefs, Config.interface, hprotocol]
      rfl
    · simp only [fixedNames, busNames, Config.interface, hprotocol]
      rfl
  | custom =>
    refine ⟨config.options.registeredRead, ?_, ?_⟩
    · simp only [busRefs, Config.interface, hprotocol, Bus.Custom.interface, Bus.Custom.signals,
        Bus.Custom.idleTerms, Bus.Custom.declarations, Bus.Custom.handshake]
      cases config.options.registeredRead <;> rfl
    · simp only [fixedNames, busNames, Config.interface, hprotocol, Bus.Custom.interface,
        Bus.Custom.ports, Bus.Custom.responsePort, Bus.Custom.declarations]
      cases config.options.registeredRead <;> rfl

theorem all_isFixed_busConfig (protocol : Bus.Protocol) (sync byte option : Bool) :
    (busRefs (busConfig protocol sync byte option)).all
      (isFixed (fixedNames (busConfig protocol sync byte option))) = true := by
  revert option byte sync
  cases protocol <;> decide +kernel

/-- An interface mentions whole signals of its own, the error wires, clock and reset. -/
theorem fixed_of_mem_busRefs {ref : Ref} (href : ref ∈ busRefs config) :
    ref.select = .whole ∧ ref.name ∈ fixedNames config := by
  obtain ⟨option, hrefs, hnames⟩ := exists_busConfig config
  have hall := all_isFixed_busConfig config.protocol config.syncReset config.byteEnable option
  rw [← hrefs, ← hnames, List.all_eq_true] at hall
  simpa only [isFixed, Bool.and_eq_true, beq_iff_eq, List.contains_iff_mem] using hall ref href

theorem mentions_of_mem_busRefs {ref : Ref} (href : ref ∈ busRefs config) :
    Mentions config ref := by
  obtain ⟨name, select⟩ := ref
  obtain ⟨rfl, hname⟩ := fixed_of_mem_busRefs href
  exact .whole (fixed_mem_signalNames hname)

theorem busName_mem_signalNames {name : String} (hname : ⟨name, .whole⟩ ∈ busRefs config) :
    name ∈ signalNames config :=
  fixed_mem_signalNames (fixed_of_mem_busRefs hname).2

theorem uses_interface {item : Item}
    (hitem : item ∈ config.interface.declarations ++ config.interface.handshake) :
    item.Uses (Mentions config) := by
  intro ref href
  apply mentions_of_mem_busRefs
  simp only [busRefs, List.mem_append, List.mem_flatMap]
  exact Or.inl (Or.inl (Or.inl (Or.inl ⟨item, List.mem_append.mp hitem, href⟩)))

/-! ### Ports -/

/-- What is read of a write port. -/
structure WritePort.Mentioned (config : Config) (port : WritePort) : Prop where
  enable : port.enable.Uses (Mentions config)
  addr : port.addr ∈ signalNames config
  data : port.data ∈ signalNames config
  strobe : ∀ name ∈ port.strobe, name ∈ signalNames config

/-- What is read and assigned of a read port. -/
structure ReadPort.Mentioned (config : Config) (port : ReadPort) : Prop where
  enable : port.enable.Uses (Mentions config)
  addr : port.addr ∈ signalNames config
  data : port.data ∈ signalNames config

theorem mentioned_busWritePort (config : Config) : (busWritePort config).Mentioned config where
  enable ref href := mentions_of_mem_busRefs (by
    simp only [busRefs, List.mem_append]
    exact Or.inl (Or.inl (Or.inl (Or.inr href))))
  addr := busName_mem_signalNames (by simp [busRefs, busWritePort])
  data := busName_mem_signalNames (by simp [busRefs, busWritePort])
  strobe name hname := busName_mem_signalNames (by
    simp only [busRefs, List.mem_append, List.mem_map]
    exact Or.inr ⟨name, Option.mem_toList.mpr hname, rfl⟩)

theorem mentioned_busReadPort (config : Config) : (busReadPort config).Mentioned config where
  enable ref href := mentions_of_mem_busRefs (by
    simp only [busRefs, List.mem_append]
    exact Or.inl (Or.inl (Or.inr href)))
  addr := busName_mem_signalNames (by simp [busRefs, busReadPort])
  data := busName_mem_signalNames (by simp [busRefs, busReadPort])

theorem mentioned_extraWritePort {i : Nat} (hi : i ∈ extraPorts config.writePorts) :
    (extraWritePort config i).Mentioned config := by
  have hname (signal : String) (hsignal : signal ∈ writeSignals config) :
      numbered "wp" i signal ∈ signalNames config :=
    further_mem_signalNames (List.mem_append_left _ (List.mem_flatMap.mpr
      ⟨i, hi, List.mem_map_of_mem hsignal⟩))
  refine ⟨Expr.uses_signal.mpr (.whole (hname "en" (by simp [writeSignals]))),
    hname "addr" (by simp [writeSignals]), hname "wdata" (by simp [writeSignals]),
    fun name hstrobe => ?_⟩
  obtain ⟨hbyte, hsome⟩ := Option.ite_none_right_eq_some.mp hstrobe
  cases hsome
  exact hname "strb" (by simp [writeSignals, hbyte])

theorem mentioned_extraReadPort {i : Nat} (hi : i ∈ extraPorts config.readPorts) :
    (extraReadPort i).Mentioned config := by
  have hname (signal : String) (hsignal : signal ∈ readSignals) :
      numbered "rp" i signal ∈ signalNames config :=
    further_mem_signalNames (List.mem_append_right _ (List.mem_flatMap.mpr
      ⟨i, hi, List.mem_map_of_mem hsignal⟩))
  exact ⟨Expr.uses_signal.mpr (.whole (hname "en" (by decide))), hname "addr" (by decide),
    hname "rdata" (by decide)⟩

theorem mentioned_writePort {port : WritePort} (hport : port ∈ allWritePorts config) :
    port.Mentioned config := by
  rcases List.mem_cons.mp hport with rfl | hextra
  · exact mentioned_busWritePort config
  · obtain ⟨i, hi, rfl⟩ := List.mem_map.mp hextra
    exact mentioned_extraWritePort hi

theorem mentioned_readPort {port : ReadPort} (hport : port ∈ allReadPorts config) :
    port.Mentioned config := by
  rcases List.mem_cons.mp hport with rfl | hextra
  · exact mentioned_busReadPort config
  · obtain ⟨i, hi, rfl⟩ := List.mem_map.mp hextra
    exact mentioned_extraReadPort hi

/-! ### Registers and their gates -/

theorem uses_signal_of_mem {name : String} (hname : name ∈ signalNames config) :
    (Expr.signal name).Uses (Mentions config) :=
  Expr.uses_signal.mpr (.whole hname)

theorem uses_addressed {addr : String} (haddr : addr ∈ signalNames config)
    (hmem : register ∈ (Layout.ofConfig config).registers) :
    (addressed addr register).Uses (Mentions config) :=
  Expr.uses_isEqual.mpr
    ⟨uses_signal_of_mem haddr, uses_signal_of_mem (address_mem_signalNames hmem)⟩

/-- The magic gates of a segment refer to registers of the file. -/
theorem gate_refers (hmem : register ∈ (Layout.ofConfig config).registers)
    (hsegment : segment ∈ register.segments) {gate : MagicGate} (hgate : gate ∈ segment.gates) :
    ∃ source ∈ (Layout.ofConfig config).registers, source.ident = gate.register := by
  obtain ⟨declared, -, rfl⟩ := List.mem_map.mp hmem
  obtain ⟨magic, -, hsome⟩ :=
    (Config.WellFormed.locks_of_mem_segments hsegment).2 gate hgate
  obtain ⟨source, hsource, -, hident⟩ := Layout.exists_source hsome
  exact ⟨Layout.ofRegister config source, List.mem_map_of_mem hsource, hident.symm⟩

/-- The locks of a segment refer to registers of the file. -/
theorem lock_refers (hmem : register ∈ (Layout.ofConfig config).registers)
    (hsegment : segment ∈ register.segments) {tap : LockTap} (htap : tap ∈ segment.locks) :
    ∃ locker ∈ (Layout.ofConfig config).registers, locker.ident = tap.register := by
  obtain ⟨declared, -, rfl⟩ := List.mem_map.mp hmem
  have htaps := (Config.WellFormed.locks_of_mem_segments hsegment).1 tap htap
  obtain ⟨lock, -, hsome⟩ := List.mem_filterMap.mp htaps
  obtain ⟨locker, hlocker, -, hident⟩ := Layout.exists_locker hsome
  exact ⟨Layout.ofRegister config locker, List.mem_map_of_mem hlocker, hident.symm⟩

theorem uses_tapExpr (hmem : register ∈ (Layout.ofConfig config).registers)
    (hsegment : segment ∈ register.segments) {tap : LockTap} (htap : tap ∈ segment.locks) :
    (tapExpr tap).Uses (Mentions config) := by
  unfold tapExpr
  split
  · exact Expr.uses_ref.mpr (.lock hmem hsegment htap (Or.inl rfl))
  · exact Expr.uses_group.mpr (Expr.uses_any.mpr
      (Expr.uses_ref.mpr (.lock hmem hsegment htap (Or.inr rfl))))

theorem uses_lockActive? (hmem : register ∈ (Layout.ofConfig config).registers)
    (hsegment : segment ∈ register.segments) {active : Expr}
    (hactive : lockActive? segment.locks = some active) : active.Uses (Mentions config) := by
  have htaps : ∀ e ∈ segment.locks.map tapExpr, e.Uses (Mentions config) :=
    List.forall_mem_map.mpr fun tap htap => uses_tapExpr hmem hsegment htap
  unfold lockActive? at hactive
  split at hactive
  · cases hactive
  · next tap heq =>
    cases hactive
    exact htaps _ (heq ▸ List.mem_singleton_self _)
  · next first rest _ heq =>
    cases hactive
    rw [heq] at htaps
    exact Expr.uses_group.mpr
      ((Expr.uses_foldl id fun _ _ => Expr.uses_or).mpr (List.forall_mem_cons.mp htaps))

theorem uses_gateTerms (hmem : register ∈ (Layout.ofConfig config).registers)
    (hsegment : segment ∈ register.segments) :
    ∀ term ∈ gateTerms segment, term.Uses (Mentions config) := by
  intro term hterm
  simp only [gateTerms, List.mem_append, Option.mem_toList, Option.map_eq_some_iff,
    List.mem_map] at hterm
  rcases hterm with (⟨active, hactive, rfl⟩ | ⟨gate, hgate, rfl⟩) | ⟨flag, hflag, rfl⟩
  · exact Expr.uses_invert.mpr (uses_lockActive? hmem hsegment hactive)
  · obtain ⟨source, hsource, hident⟩ := gate_refers hmem hsegment hgate
    rw [gateExpr, ← hident]
    exact Expr.uses_isEqual.mpr ⟨uses_signal_of_mem (storage_mem_signalNames hsource), Expr.uses_hex⟩
  · exact Expr.uses_invert.mpr
      (uses_signal_of_mem (flag_mem_signalNames hmem hsegment hflag))

/-! ### The update block -/

theorem segment_mem_ranges (hsegment : segment ∈ register.segments) :
    segment.bits ∈ register.ranges :=
  List.mem_append_left _ (List.mem_map_of_mem hsegment)

theorem hw_mem_ranges {hw : HwField} (hhw : hw ∈ register.hwFields) : hw.bits ∈ register.ranges :=
  List.mem_append_right _ (List.mem_map_of_mem hhw)

theorem uses_resetRegister (hmem : register ∈ (Layout.ofConfig config).registers) :
    ∀ s ∈ resetRegister register, s.Uses (Mentions config) := by
  refine List.forall_mem_cons.mpr ⟨Stmt.uses_store.mpr
    ⟨.whole (storage_mem_signalNames hmem), Expr.uses_hex⟩, ?_⟩
  intro s hs
  obtain ⟨segment, hsegment, hs⟩ := List.mem_flatMap.mp hs
  simp only [resetSegment, List.mem_append, Option.mem_toList, Option.map_eq_some_iff] at hs
  rcases hs with ⟨flag, hflag, rfl⟩ | ⟨pulse, hpulse, rfl⟩
  · exact Stmt.uses_store.mpr
      ⟨.whole (flag_mem_signalNames hmem hsegment hflag), Expr.uses_bit⟩
  · exact Stmt.uses_store.mpr ⟨.whole (pulse_mem_signalNames hmem hsegment hpulse), Expr.uses_hex⟩

theorem uses_hardwareWrites (hmem : register ∈ (Layout.ofConfig config).registers) :
    ∀ s ∈ hardwareWrites register, s.Uses (Mentions config) := by
  refine List.forall_mem_map.mpr fun hw hhw => ?_
  obtain ⟨hhw, hinput⟩ := List.mem_filter.mp hhw
  obtain ⟨hdata, henable⟩ := inputs_mem_registerPorts hhw hinput
  exact Stmt.uses_when.mpr ⟨uses_signal_of_mem (port_mem_signalNames hmem henable),
    Stmt.uses_nonblocking.mpr
      ⟨.storageBits hmem (hw_mem_ranges hhw) hw.bits.low_le_high (Nat.le_refl _),
        uses_signal_of_mem (port_mem_signalNames hmem hdata)⟩⟩

theorem uses_strobed {port : WritePort} (hport : port ∈ allWritePorts config) {lane : Nat}
    (hlane : port.strobe.isSome = true → lane < config.byteLanes) {body : Stmt}
    (hbody : body.Uses (Mentions config)) :
    (strobed port.strobe lane body).Uses (Mentions config) := by
  unfold strobed
  split
  · next name hstrobe =>
    exact Stmt.uses_when.mpr ⟨Expr.uses_ref.mpr
      (.strobe hport hstrobe (hlane (by rw [hstrobe, Option.isSome_some]))), hbody⟩
  · exact hbody

theorem uses_pulsePattern {effect : WriteEffect} {data : Expr} {P : Ref → Prop}
    (hdata : data.Uses P) : (pulsePattern effect data).Uses P := by
  unfold pulsePattern
  split
  · exact Expr.uses_invert.mpr hdata
  · exact hdata

theorem uses_nextValue? {effect : WriteEffect} {current data value : Expr} {P : Ref → Prop}
    (hcurrent : current.Uses P) (hdata : data.Uses P)
    (hvalue : nextValue? effect current data = some value) : value.Uses P := by
  cases effect <;> cases hvalue <;>
    simp only [Expr.uses_and, Expr.uses_or, Expr.uses_invert, hcurrent, hdata, and_self]

section

variable (hmem : register ∈ (Layout.ofConfig config).registers)
  (hsegment : segment ∈ register.segments) {port : WritePort}
  (hport : port ∈ allWritePorts config)

include hmem hsegment hport

/-- The storage and the data of a piece are mentioned, under the strobe of its lane. -/
theorem mentions_piece {piece : Piece}
    (hpiece : piece ∈ pieces config.byteLanes segment.bits port.strobe.isSome) :
    Mentions config (storageBits register piece.high piece.low) ∧
      Mentions config (.part port.data piece.high piece.low config.dataWidth.toNat) := by
  obtain ⟨-, hle, hhigh⟩ := pieces_inside hpiece
  exact ⟨.storageBits hmem (segment_mem_ranges hsegment) hle hhigh,
    .data hmem hsegment hport hle hhigh⟩

theorem uses_storePiece? {piece : Piece}
    (hpiece : piece ∈ pieces config.byteLanes segment.bits port.strobe.isSome) {s : Stmt}
    (hs : storePiece? config register segment port piece = some s) :
    s.Uses (Mentions config) := by
  obtain ⟨hstorage, hdata⟩ := mentions_piece hmem hsegment hport hpiece
  obtain ⟨value, hvalue, rfl⟩ := Option.map_eq_some_iff.mp hs
  refine uses_strobed hport (lane_lt_of_mem_pieces hpiece) (Stmt.uses_nonblocking.mpr ⟨hstorage, ?_⟩)
  exact uses_nextValue? (Expr.uses_ref.mpr hstorage) (Expr.uses_ref.mpr hdata) hvalue

theorem uses_pulsePiece {pulse : String} (hpulse : segment.pulsePort = some pulse) {piece : Piece}
    (hpiece : piece ∈ pieces config.byteLanes segment.bits port.strobe.isSome) :
    (pulsePiece config register segment pulse port piece).Uses (Mentions config) := by
  obtain ⟨hstorage, hdata⟩ := mentions_piece hmem hsegment hport hpiece
  obtain ⟨hlow, hle, hhigh⟩ := pieces_inside hpiece
  have hwidth := segment.bits.low_add_width
  refine uses_strobed hport (lane_lt_of_mem_pieces hpiece) (Stmt.uses_seq.mpr ⟨?_, ?_⟩)
  · exact Stmt.uses_nonblocking.mpr ⟨.pulse hmem hsegment hpulse (by omega) (by omega),
      uses_pulsePattern (Expr.uses_ref.mpr hdata)⟩
  · exact Stmt.uses_nonblocking.mpr ⟨hstorage, Expr.uses_hex⟩

theorem uses_writeBody : (writeBody config register segment port).Uses (Mentions config) := by
  rw [writeBody, Stmt.uses_ofList, List.forall_mem_append]
  constructor
  · cases hpulse : segment.pulsePort with
    | none =>
      intro s hs
      obtain ⟨piece, hpiece, hsome⟩ := List.mem_filterMap.mp hs
      exact uses_storePiece? hmem hsegment hport hpiece hsome
    | some pulse =>
      refine List.forall_mem_append.mpr ⟨?_, List.forall_mem_map.mpr fun piece hpiece =>
        uses_pulsePiece hmem hsegment hport hpulse hpiece⟩
      split
      · exact List.forall_mem_singleton.mpr
          (Stmt.uses_store.mpr ⟨.whole (pulse_mem_signalNames hmem hsegment hpulse), Expr.uses_hex⟩)
      · exact List.forall_mem_nil _
  · intro s hs
    obtain ⟨flag, hflag, rfl⟩ := Option.map_eq_some_iff.mp (Option.mem_toList.mp hs)
    exact Stmt.uses_store.mpr
      ⟨.whole (flag_mem_signalNames hmem hsegment hflag), Expr.uses_bit⟩

theorem uses_writeCondition :
    (writeCondition register segment port).Uses (Mentions config) := by
  have hmentioned := mentioned_writePort hport
  exact Expr.uses_ands.mpr ⟨hmentioned.enable, List.forall_mem_cons.mpr
    ⟨uses_addressed hmentioned.addr hmem, uses_gateTerms hmem hsegment⟩⟩

end

theorem uses_writeChain (hmem : register ∈ (Layout.ofConfig config).registers)
    (hsegment : segment ∈ register.segments) {ports : List WritePort}
    (hports : ∀ port ∈ ports, port ∈ allWritePorts config) :
    (writeChain config register segment ports).Uses (Mentions config) := by
  induction ports with
  | nil =>
    rw [writeChain, List.foldr_nil, unwritten]
    split
    · next pulse hpulse =>
      exact Stmt.uses_block.mpr (Stmt.uses_store.mpr
        ⟨.whole (pulse_mem_signalNames hmem hsegment hpulse), Expr.uses_hex⟩)
    · exact Stmt.uses_skip
  | cons port rest ih =>
    obtain ⟨hport, hrest⟩ := List.forall_mem_cons.mp hports
    exact Stmt.uses_branch.mpr ⟨uses_writeCondition hmem hsegment hport,
      uses_writeBody hmem hsegment hport, ih hrest⟩

theorem uses_busWrites (hmem : register ∈ (Layout.ofConfig config).registers) :
    ∀ s ∈ busWrites config register, s.Uses (Mentions config) := by
  refine List.forall_mem_map.mpr fun segment hsegment => ?_
  exact Stmt.uses_seq.mpr ⟨Stmt.uses_comment,
    uses_writeChain hmem (List.mem_filter.mp hsegment).1 fun _ hport => hport⟩

theorem uses_readStrobe (hmem : register ∈ (Layout.ofConfig config).registers) {port : ReadPort}
    (hport : port ∈ allReadPorts config) :
    (readStrobe register port).Uses (Mentions config) := by
  have hmentioned := mentioned_readPort hport
  exact Expr.uses_group.mpr
    (Expr.uses_and.mpr ⟨hmentioned.enable, uses_addressed hmentioned.addr hmem⟩)

theorem uses_readEffects (hmem : register ∈ (Layout.ofConfig config).registers) :
    ∀ s ∈ readEffects config register, s.Uses (Mentions config) := by
  have heffects : ∀ s ∈ register.segments.filterMap (segmentReadEffect? register),
      s.Uses (Mentions config) := by
    intro s hs
    obtain ⟨segment, hsegment, hsome⟩ := List.mem_filterMap.mp hs
    obtain ⟨effect, -, rfl⟩ := Option.map_eq_some_iff.mp hsome
    refine Stmt.uses_nonblocking.mpr ⟨.storageBits hmem (segment_mem_ranges hsegment)
      segment.bits.low_le_high (Nat.le_refl _), ?_⟩
    cases effect <;> exact Expr.uses_hex
  have hreads : ∀ port ∈ allReadPorts config, (readStrobe register port).Uses (Mentions config) :=
    fun port hport => uses_readStrobe hmem hport
  unfold readEffects
  split
  · exact List.forall_mem_nil _
  · refine List.forall_mem_cons.mpr ⟨Stmt.uses_comment, List.forall_mem_singleton.mpr ?_⟩
    exact Stmt.uses_when.mpr ⟨(Expr.uses_foldl (readStrobe register) fun _ _ =>
      Expr.uses_or).mpr
      (List.forall_mem_cons.mp hreads), Stmt.uses_ofList.mpr heffects⟩

theorem mentions_clock (config : Config) :
    Mentions config ⟨"clk", .whole⟩ ∧
      Mentions config ⟨(Reset.ofSync config.syncReset).port, .whole⟩ :=
  ⟨.whole (fixed_mem_signalNames (by simp [fixedNames])),
    .whole (fixed_mem_signalNames (by simp [fixedNames]))⟩

theorem uses_updateBlock (config : Config) :
    (updateBlock config (Layout.ofConfig config)).Uses (Mentions config) := by
  obtain ⟨hclock, hreset⟩ := mentions_clock config
  refine Item.uses_sequential hclock hreset (Stmt.uses_ofList.mpr ?_) (Stmt.uses_ofList.mpr ?_)
  · exact List.forall_mem_flatMap.mpr fun register hmem => uses_resetRegister hmem
  · simp only [List.forall_mem_append, List.forall_mem_flatMap]
    exact ⟨⟨fun register hmem => uses_hardwareWrites hmem,
      fun register hmem => uses_busWrites hmem⟩, fun register hmem => uses_readEffects hmem⟩

/-! ### The other items -/

theorem uses_unknownAddress {addr : String} (haddr : addr ∈ signalNames config) :
    (unknownAddress addr (Layout.ofConfig config)).Uses (Mentions config) := by
  unfold unknownAddress
  split
  · next hit hjoined =>
    exact Expr.uses_invert.mpr (Expr.uses_group.mpr (Expr.uses_join?_or
      (List.forall_mem_map.mpr fun register hmem => uses_addressed haddr hmem) hjoined))
  · exact Expr.uses_bit

theorem uses_lockedWrite {addr : String} (haddr : addr ∈ signalNames config) :
    (lockedWrite addr (Layout.ofConfig config)).Uses (Mentions config) := by
  have hhits : ∀ e ∈ (Layout.ofConfig config).registers.flatMap (fun register =>
      (register.segments.filter Segment.swWrite).filterMap (lockHit? addr register)),
      e.Uses (Mentions config) := by
    intro e he
    obtain ⟨register, hmem, he⟩ := List.mem_flatMap.mp he
    obtain ⟨segment, hsegment, hsome⟩ := List.mem_filterMap.mp he
    obtain ⟨active, hactive, rfl⟩ := Option.map_eq_some_iff.mp hsome
    exact Expr.uses_group.mpr (Expr.uses_and.mpr ⟨uses_addressed haddr hmem,
      uses_lockActive? hmem (List.mem_filter.mp hsegment).1 hactive⟩)
  rw [lockedWrite]
  cases hjoined : Expr.join? Expr.or _ with
  | none => exact Expr.uses_bit
  | some joined => exact Expr.uses_join?_or hhits hjoined

theorem uses_errorWires (config : Config) :
    ∀ item ∈ errorWires config (Layout.ofConfig config), item.Uses (Mentions config) := by
  have haddr := (mentioned_busWritePort config).addr
  have herror {name : String} (hname : name ∈ errorNames) :
      (Expr.signal name).Uses (Mentions config) :=
    uses_signal_of_mem (error_mem_signalNames hname)
  have hwrite : (writeErrorExpr config).Uses (Mentions config) := by
    unfold writeErrorExpr
    split
    · exact Expr.uses_bit
    · split
      · exact Expr.uses_or.mpr ⟨herror (by decide), herror (by decide)⟩
      · exact herror (by decide)
  have hread : (readErrorExpr config).Uses (Mentions config) := by
    unfold readErrorExpr
    split
    · exact Expr.uses_bit
    · exact herror (by decide)
  simp only [errorWires, List.forall_mem_cons, Item.uses_wire]
  exact ⟨List.forall_mem_nil _, uses_unknownAddress haddr, uses_lockedWrite haddr, hwrite, hread,
    List.forall_mem_nil _⟩

theorem uses_readMux {port : ReadPort} (hport : port ∈ allReadPorts config) :
    (readMux config (Layout.ofConfig config) port).Uses (Mentions config) := by
  have hmentioned := mentioned_readPort hport
  have herror : Mentions config ⟨readDecodeError, .whole⟩ :=
    .whole (error_mem_signalNames (by decide))
  have hvalue (register : RegisterLayout) (hmem : register ∈ (Layout.ofConfig config).registers) :
      (readValue config register).Uses (Mentions config) := by
    have hstorage : (Expr.signal (storageName register.ident)).Uses (Mentions config) :=
      uses_signal_of_mem (storage_mem_signalNames hmem)
    unfold readValue
    split
    · exact Expr.uses_hex
    · split
      · exact hstorage
      · exact Expr.uses_and.mpr ⟨hstorage, Expr.uses_hex⟩
  refine Item.uses_always.mpr ⟨List.forall_mem_nil _, Stmt.uses_ofList.mpr ?_⟩
  simp only [List.forall_mem_append, List.forall_mem_singleton, Stmt.uses_blocking,
    Stmt.uses_select, List.forall_mem_map]
  refine ⟨⟨⟨.whole hmentioned.data, Expr.uses_hex⟩, ?_⟩, .whole hmentioned.addr,
    fun register hmem => ⟨.whole (address_mem_signalNames hmem), .whole hmentioned.data,
      hvalue register hmem⟩, ?_⟩
  · cases port.reportsErrors with
    | true => exact List.forall_mem_singleton.mpr (Stmt.uses_blocking.mpr ⟨herror, Expr.uses_bit⟩)
    | false => exact List.forall_mem_nil _
  · intro assignment hassignment
    obtain ⟨-, hsome⟩ := Option.ite_none_right_eq_some.mp hassignment
    cases hsome
    exact ⟨herror, Expr.uses_bit⟩

theorem uses_fieldOutputs (config : Config) :
    ∀ item ∈ fieldOutputs (Layout.ofConfig config), item.Uses (Mentions config) := by
  intro item hitem
  obtain ⟨register, hmem, hitem⟩ := List.mem_flatMap.mp hitem
  obtain ⟨hw, hhw, hsome⟩ := List.mem_filterMap.mp hitem
  obtain ⟨houtput, hassign⟩ := Option.ite_none_right_eq_some.mp hsome
  cases hassign
  have hport : Port.output s!"{hw.stem}_o" (some hw.bits.width) ∈ registerPorts register := by
    refine List.mem_append_left _ (List.mem_flatMap.mpr ⟨hw, hhw, ?_⟩)
    rw [fieldPorts, if_pos houtput]
    exact List.mem_append_left _ (List.mem_singleton_self _)
  exact Item.uses_assign.mpr ⟨.whole (port_mem_signalNames hmem hport),
    Expr.uses_ref.mpr (.storageBits hmem (hw_mem_ranges hhw) hw.bits.low_le_high (Nat.le_refl _))⟩

/-! ### The module -/

/-- What holds of the items of a section, of its comment and of a blank line. -/
theorem forall_mem_titled {title : String} {body : List Item} {P : Item → Prop}
    (htitle : P (.comment title)) (hblank : P .blank) (hbody : ∀ item ∈ body, P item) :
    ∀ item ∈ titled title body, P item := by
  cases body with
  | nil => exact List.forall_mem_nil _
  | cons first rest =>
    exact List.forall_mem_cons.mpr
      ⟨htitle, List.forall_mem_append.mpr ⟨hbody, List.forall_mem_singleton.mpr hblank⟩⟩

theorem uses_titled {title : String} {body : List Item} {P : Ref → Prop}
    (hbody : ∀ item ∈ body, item.Uses P) : ∀ item ∈ titled title body, item.Uses P :=
  forall_mem_titled (List.forall_mem_nil _) (List.forall_mem_nil _) hbody

/-- The items of a module mention what is listed. -/
theorem uses_items (config : Config) :
    ∀ item ∈ items config (Layout.ofConfig config), item.Uses (Mentions config) := by
  have hinterface : ∀ item ∈ config.interface.declarations ++ config.interface.handshake,
      item.Uses (Mentions config) :=
    fun _ hitem => uses_interface hitem
  obtain ⟨hdeclarations, hhandshake⟩ := List.forall_mem_append.mp hinterface
  simp only [items, List.forall_mem_append]
  refine ⟨⟨⟨⟨⟨⟨⟨uses_titled ?_, uses_titled hdeclarations⟩, uses_titled ?_⟩,
    uses_titled (uses_errorWires config)⟩, uses_titled ?_⟩, ?_⟩, uses_titled hhandshake⟩,
    uses_titled (uses_fieldOutputs config)⟩
  · exact List.forall_mem_map.mpr fun register _ => List.forall_mem_nil _
  · refine List.forall_mem_flatMap.mpr fun register _ => List.forall_mem_cons.mpr
      ⟨List.forall_mem_nil _, fun item hitem => ?_⟩
    obtain ⟨segment, -, hsome⟩ := List.mem_filterMap.mp hitem
    obtain ⟨flag, -, rfl⟩ := Option.map_eq_some_iff.mp hsome
    exact List.forall_mem_nil _
  · unfold updates
    split
    · exact List.forall_mem_nil _
    · exact List.forall_mem_singleton.mpr (uses_updateBlock config)
  · exact List.forall_mem_flatMap.mpr fun port hport =>
      uses_titled (List.forall_mem_singleton.mpr (uses_readMux hport))

theorem mentions_of_mem_refs {ref : Ref} (href : ref ∈ (ofConfig config provenance).refs) :
    Mentions config ref := by
  obtain ⟨item, hitem, href⟩ := List.mem_flatMap.mp href
  exact uses_items config item hitem ref href

theorem storageBits_name (register : RegisterLayout) (high low : Nat) :
    (storageBits register high low).name = storageName register.ident :=
  Ref.name_part

/-- What a module mentions has one of its names. -/
theorem Mentions.name_mem {ref : Ref} (hmentions : Mentions config ref) :
    ref.name ∈ signalNames config := by
  cases hmentions with
  | whole hname => exact hname
  | storageBits hmem =>
    rw [storageBits_name]
    exact storage_mem_signalNames hmem
  | lock hmem hsegment htap =>
    obtain ⟨locker, hlocker, hident⟩ := lock_refers hmem hsegment htap
    rw [← hident]
    exact storage_mem_signalNames hlocker
  | pulse hmem hsegment hpulse =>
    rw [Ref.name_part]
    exact pulse_mem_signalNames hmem hsegment hpulse
  | data _ _ hport =>
    rw [Ref.name_part]
    exact (mentioned_writePort hport).data
  | strobe hport hstrobe => exact (mentioned_writePort hport).strobe _ hstrobe

end Hardware

/-- A module declares every signal and constant that it mentions. -/
theorem mem_declared_of_mem_refs (config : Config) (provenance : Provenance) :
    ∀ ref ∈ (Hardware.ofConfig config provenance).refs,
      ref.name ∈ (Hardware.ofConfig config provenance).declared :=
  fun _ href => Hardware.mem_declared_iff.mpr (Hardware.mentions_of_mem_refs href).name_mem

/-- A pulse that straddles the byte lanes of two strobed ports, behind a lock, and a status that
    hardware writes and a read clears. -/
def Config.straddled : Config where
  moduleName := "regs"
  dataWidth := 16
  protocol := .axi4Lite
  byteEnable := true
  writePorts := 2
  registers :=
    [{ name := "LOCK", address := some 0, type := .lockField, width := some 8 },
      { name := "EVENTS", address := some 2
        fields := [{ name := "FIRE", bits := ⟨14, 5, by decide, by decide⟩
                     type := some .write1Pulse, lockedBy := [⟨"LOCK", .bit 1⟩] },
          { name := "SEEN", bits := ⟨3, 0, by decide, by decide⟩, type := some .readClean
            hwAccess := some .write }] }]

/-- The lock is read as a bit of the register that another one names, and declared as such. -/
theorem mem_declared_of_mem_refs_straddled :
    (⟨"lock_reg", .bit 1⟩ : Ref) ∈ (Hardware.ofConfig Config.straddled ⟨"regforge", "", ""⟩).refs ∧
      "lock_reg" ∈ (Hardware.ofConfig Config.straddled ⟨"regforge", "", ""⟩).declared := by
  have href : (⟨"lock_reg", .bit 1⟩ : Ref) ∈
      (Hardware.ofConfig Config.straddled ⟨"regforge", "", ""⟩).refs := by
    decide +kernel
  exact ⟨href, mem_declared_of_mem_refs Config.straddled ⟨"regforge", "", ""⟩ _ href⟩

end RegisterFile
