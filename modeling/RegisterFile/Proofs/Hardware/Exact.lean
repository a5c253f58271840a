import RegisterFile.Proofs.Hardware.Mentions
import RegisterFile.Proofs.Hardware.Writes
import RegisterFile.Proofs.Verilog.Exact

/-!
The update block is exact. Storage, pulses, written data and strobes are declared with ranges that
every select lies in, and both sides of an assignment have one width, whatever a segment's bits,
the lanes that cut them and the width of the bus are. On a Wishbone bus a hardware port can take
the name of a bus port; the widths are then those of the signals that are meant, but the module
declares another one under the same name.
-/

namespace RegisterFile

open Verilog

namespace Hardware

/-- The assignments of the update block, if there is one. -/
def updateAssignments (config : Config) : List (Ref × Expr) :=
  (updates config (Layout.ofConfig config)).flatMap Item.assignments

variable {config : Config} {provenance : Provenance} {register : RegisterLayout}
  {segment : Segment} {name : String} {width : Nat}

/-! ### Declared ranges -/

theorem port_mem_ranges {port : Port} (hport : port ∈ ports config (Layout.ofConfig config))
    (hwidth : port.width = some width) :
    (port.name, width) ∈ (ofConfig config provenance).ranges :=
  List.mem_append_left _ (List.mem_filterMap.mpr
    ⟨port, hport, by rw [Port.range?, hwidth, Option.map_some]⟩)

theorem storage_mem_ranges (hmem : register ∈ (Layout.ofConfig config).registers) :
    (storageName register.ident, register.width.toNat) ∈ (ofConfig config provenance).ranges :=
  List.mem_append_right _ (List.mem_filterMap.mpr
    ⟨_, storage_mem_items hmem List.mem_cons_self, rfl⟩)

theorem pulse_mem_ranges (hmem : register ∈ (Layout.ofConfig config).registers)
    (hsegment : segment ∈ register.segments) {pulse : String}
    (hpulse : segment.pulsePort = some pulse) :
    (pulse, segment.bits.width) ∈ (ofConfig config provenance).ranges :=
  port_mem_ranges (registerPort_mem hmem (pulse_mem_registerPorts hsegment hpulse)) rfl

/-- What the ports and the state of a bus interface declare with a range. -/
def busRanges (config : Config) : List (String × Nat) :=
  config.interface.ports.filterMap Port.range? ++
    config.interface.declarations.filterMap Item.range?

theorem busRanges_subset : busRanges config ⊆ (ofConfig config provenance).ranges := by
  refine List.append_subset.mpr ⟨fun range hrange => ?_, fun range hrange => ?_⟩
  · obtain ⟨port, hport, hsome⟩ := List.mem_filterMap.mp hrange
    refine List.mem_append_left _ (List.mem_filterMap.mpr ⟨port, ?_, hsome⟩)
    simp only [ofConfig, ports, List.mem_append, hport, true_or, or_true]
  · obtain ⟨item, hitem, hsome⟩ := List.mem_filterMap.mp hrange
    refine List.mem_append_right _ (List.mem_filterMap.mpr ⟨item, ?_, hsome⟩)
    simp only [ofConfig, items, List.mem_append, mem_titled hitem, true_or, or_true]

/-- Written data have the width of the bus, and there is a strobe for each lane. -/
theorem written_mem_busRanges (config : Config) :
    (config.interface.signals.writeData, config.dataWidth.toNat) ∈ busRanges config ∧
      ∀ strobe ∈ config.interface.signals.writeStrobe,
        (strobe, config.byteLanes) ∈ busRanges config := by
  cases hprotocol : config.protocol with
  | apb =>
    cases hbyte : config.byteEnable <;>
      simp [busRanges, Config.interface, hprotocol, hbyte, Bus.Apb.interface, Bus.Apb.ports,
        Bus.Apb.signals, Port.input, Port.range?]
  | axi4Lite =>
    simp [busRanges, Config.interface, hprotocol, Bus.AxiLite.interface, Bus.AxiLite.signals,
      Bus.AxiLite.declarations, Item.range?]
  | wishbone =>
    simp [busRanges, Config.interface, hprotocol, Bus.Wishbone.interface, Bus.Wishbone.ports,
      Bus.Wishbone.signals, Port.input, Port.range?]
  | ocp =>
    simp [busRanges, Config.interface, hprotocol, Bus.Ocp.interface, Bus.Ocp.ports,
      Bus.Ocp.signals, Port.input, Port.range?]
  | custom =>
    simp [busRanges, Config.interface, hprotocol, Bus.Custom.interface, Bus.Custom.ports,
      Bus.Custom.signals, Port.input, Port.range?]

/-- What a write port brings is declared with ranges. -/
structure WritePort.Ranged (config : Config) (m : Verilog.Module) (port : WritePort) : Prop where
  data : (port.data, config.dataWidth.toNat) ∈ m.ranges
  strobe : ∀ strobe ∈ port.strobe, (strobe, config.byteLanes) ∈ m.ranges

theorem ranged_extraWritePort {i : Nat} (hi : i ∈ extraPorts config.writePorts) :
    (extraWritePort config i).Ranged config (ofConfig config provenance) := by
  have hranges {port : Port} {width : Nat} (hport : port ∈ writePortPorts config i)
      (hwidth : port.width = some width) :
      (port.name, width) ∈ (ofConfig config provenance).ranges :=
    port_mem_ranges (writePortPorts_subset hi hport) hwidth
  constructor
  · have hdata : Port.input s!"wp{i}_wdata" (some config.dataWidth.toNat) ∈
        writePortPorts config i := by
      simp [writePortPorts]
    exact hranges hdata rfl
  · intro strobe hstrobe
    obtain ⟨hbyte, hsome⟩ := Option.ite_none_right_eq_some.mp hstrobe
    cases hsome
    have hport : Port.input s!"wp{i}_strb" (some config.byteLanes) ∈ writePortPorts config i := by
      simp [writePortPorts, hbyte]
    exact hranges hport rfl

theorem ranged_writePort {port : WritePort} (hport : port ∈ allWritePorts config) :
    port.Ranged config (ofConfig config provenance) := by
  rcases List.mem_cons.mp hport with rfl | hextra
  · obtain ⟨hdata, hstrobe⟩ := written_mem_busRanges config
    exact ⟨busRanges_subset hdata, fun strobe hsome => busRanges_subset (hstrobe strobe hsome)⟩
  · obtain ⟨i, hi, rfl⟩ := List.mem_map.mp hextra
    exact ranged_extraWritePort hi

/-! ### Selects -/

theorem hasWidth_storageBits (hmem : register ∈ (Layout.ofConfig config).registers)
    {high low : Nat} (hle : low ≤ high) (hhigh : high < register.width.toNat) :
    (storageBits register high low).HasWidth (ofConfig config provenance) (high - low + 1) :=
  Ref.hasWidth_part (storage_mem_ranges hmem) hle hhigh

section WellFormed

variable (hwf : config.WellFormed)

include hwf

theorem high_lt_of_mem_ranges (hmem : register ∈ (Layout.ofConfig config).registers)
    {bits : BitRange} (hbits : bits ∈ register.ranges) : bits.high < register.width.toNat := by
  have hregular := hwf.regular.registers register hmem
  rcases List.mem_append.mp hbits with hsegment | hhw
  · obtain ⟨segment, hmem, rfl⟩ := List.mem_map.mp hsegment
    exact (hregular.segmentsInside segment hmem).high_lt
  · obtain ⟨hw, hmem, rfl⟩ := List.mem_map.mp hhw
    exact (hregular.hwInside hw hmem).high_lt

theorem high_lt_dataWidth (hmem : register ∈ (Layout.ofConfig config).registers)
    (hsegment : segment ∈ register.segments) : segment.bits.high < config.dataWidth.toNat :=
  lt_dataWidth_of_mem_segment hwf hmem hsegment ⟨segment.bits.low_le_high, Nat.le_refl _⟩

/-- Whatever a module mentions has a declared width, and selects lie in a declared range. -/
theorem Mentions.exists_width {ref : Ref} (hmentions : Mentions config ref) :
    ∃ width, ref.HasWidth (ofConfig config provenance) width := by
  cases hmentions with
  | whole hname =>
    have hdeclared : _ ∈ (ofConfig config provenance).declared := mem_declared_iff.mpr hname
    obtain ⟨⟨name, width⟩, hmem, rfl⟩ := List.mem_map.mp hdeclared
    exact ⟨width, hmem⟩
  | storageBits hmem hbits hle hhigh =>
    have hlt := high_lt_of_mem_ranges hwf hmem hbits
    exact ⟨_, hasWidth_storageBits hmem hle (by omega)⟩
  | @lock register segment tap select hmem hsegment htap hselect =>
    obtain ⟨locker, hlocker, hident, hinside⟩ :=
      hwf.regular.taps register hmem segment hsegment tap htap
    have hrange : (storageName tap.register, locker.width.toNat) ∈
        (ofConfig config provenance).ranges := hident ▸ storage_mem_ranges hlocker
    have hlt := hinside.high_lt
    have hle := tap.bits.low_le_high
    rcases hselect with rfl | rfl
    · exact ⟨_, ⟨_, hrange, by omega⟩, rfl⟩
    · exact ⟨_, ⟨_, hrange, hle, hlt⟩, rfl⟩
  | pulse hmem hsegment hpulse hle hhigh =>
    exact ⟨_, Ref.hasWidth_part (pulse_mem_ranges hmem hsegment hpulse) hle hhigh⟩
  | data hmem hsegment hport hle hhigh =>
    have hlt := high_lt_dataWidth hwf hmem hsegment
    exact ⟨_, Ref.hasWidth_part (ranged_writePort hport).data hle (by omega)⟩
  | strobe hport hstrobe hlane =>
    exact ⟨_, ⟨_, (ranged_writePort hport).strobe _ hstrobe, hlane⟩, rfl⟩

end WellFormed

/-! ### Values -/

theorem hasWidth_zero {m : Verilog.Module} (width : Nat) : (zero width).HasWidth m width :=
  .literal (Word.fitsIn_zero width)

theorem hasWidth_lowMask {m : Verilog.Module} (width : Nat) :
    (Expr.hex width (Word.lowMask width)).HasWidth m width := by
  refine .literal fun i hi => ?_
  rw [Word.getLsbD_lowMask, decide_eq_false (Nat.not_lt.mpr hi), Bool.and_false]

theorem hasWidth_nextValue? {m : Verilog.Module} {effect : WriteEffect}
    {current data value : Expr} (hcurrent : current.HasWidth m width)
    (hdata : data.HasWidth m width) (hvalue : nextValue? effect current data = some value) :
    value.HasWidth m width := by
  cases effect <;> cases hvalue
  · exact hdata
  · exact .and hcurrent (.invert hdata)
  · exact .and hcurrent hdata
  · exact .or hcurrent hdata
  · exact .or hcurrent (.invert hdata)

theorem hasWidth_pulsePattern {m : Verilog.Module} {effect : WriteEffect} {data : Expr}
    (hdata : data.HasWidth m width) : (pulsePattern effect data).HasWidth m width := by
  unfold pulsePattern
  split
  · exact .invert hdata
  · exact hdata

theorem exact_strobed {m : Verilog.Module} {strobe : Option String} {lane : Nat} {body : Stmt}
    (hbody : body.Exact m) : (strobed strobe lane body).Exact m := by
  cases strobe with
  | none => exact hbody
  | some strobe => exact Stmt.exact_when.mpr hbody

/-! ### The update block -/

theorem exact_hardwareWrites (hwf : config.WellFormed)
    (hmem : register ∈ (Layout.ofConfig config).registers) :
    ∀ s ∈ hardwareWrites register, s.Exact (ofConfig config provenance) := by
  refine List.forall_mem_map.mpr fun hw hhw => ?_
  obtain ⟨hhw, hinput⟩ := List.mem_filter.mp hhw
  have hdata := (inputs_mem_registerPorts hhw hinput).1
  exact Stmt.exact_when.mpr (Stmt.exact_nonblocking.mpr ⟨hw.bits.width,
    hasWidth_storageBits hmem hw.bits.low_le_high
      (high_lt_of_mem_ranges hwf hmem (hw_mem_ranges hhw)),
    Expr.hasWidth_signal (port_mem_declarations (registerPort_mem hmem hdata))⟩)

section Registers

variable (hwf : config.WellFormed) (hmem : register ∈ (Layout.ofConfig config).registers)

include hmem

theorem exact_clearPulse (hsegment : segment ∈ register.segments) {pulse : String}
    (hpulse : segment.pulsePort = some pulse) :
    (Stmt.store pulse (zero segment.bits.width)).Exact (ofConfig config provenance) :=
  Stmt.exact_store (Module.ranges_subset _ (pulse_mem_ranges hmem hsegment hpulse))
    (hasWidth_zero _)

theorem exact_storeFlag (hsegment : segment ∈ register.segments) {flag : String}
    (hflag : segment.writtenFlag = some flag) (value : Bool) :
    (Stmt.store flag (.bit value)).Exact (ofConfig config provenance) :=
  Stmt.exact_store (flag_mem_declarations hmem hsegment hflag) (Expr.hasWidth_bit value)

include hwf

theorem exact_resetRegister :
    ∀ s ∈ resetRegister register, s.Exact (ofConfig config provenance) := by
  refine List.forall_mem_cons.mpr ⟨Stmt.exact_store
    (Module.ranges_subset _ (storage_mem_ranges hmem))
    (.literal (hwf.regular.registers register hmem).reset), ?_⟩
  intro s hs
  obtain ⟨segment, hsegment, hs⟩ := List.mem_flatMap.mp hs
  simp only [resetSegment, List.mem_append, Option.mem_toList, Option.map_eq_some_iff] at hs
  rcases hs with ⟨flag, hflag, rfl⟩ | ⟨pulse, hpulse, rfl⟩
  · exact exact_storeFlag hmem hsegment hflag false
  · exact exact_clearPulse hmem hsegment hpulse

section Ports

variable (hsegment : segment ∈ register.segments) {port : WritePort}
  (hport : port ∈ allWritePorts config)

include hsegment hport

/-- Storage and data of a piece are as wide as the piece. -/
theorem hasWidth_piece (provenance : Provenance) {piece : Piece}
    (hpiece : piece ∈ pieces config.byteLanes segment.bits port.strobe.isSome) :
    (storageBits register piece.high piece.low).HasWidth (ofConfig config provenance)
        (piece.high - piece.low + 1) ∧
      (Ref.part port.data piece.high piece.low config.dataWidth.toNat).HasWidth
        (ofConfig config provenance) (piece.high - piece.low + 1) := by
  obtain ⟨-, hle, hhigh⟩ := pieces_inside hpiece
  have hdata := high_lt_dataWidth hwf hmem hsegment
  exact ⟨hasWidth_storageBits hmem hle (high_lt_of_mem_pieces hwf hmem hsegment hpiece),
    Ref.hasWidth_part (ranged_writePort hport).data hle (by omega)⟩

theorem exact_storePiece {piece : Piece}
    (hpiece : piece ∈ pieces config.byteLanes segment.bits port.strobe.isSome) {s : Stmt}
    (hs : storePiece? config register segment port piece = some s) :
    s.Exact (ofConfig config provenance) := by
  obtain ⟨hstorage, hdata⟩ := hasWidth_piece hwf hmem hsegment hport provenance hpiece
  obtain ⟨value, hvalue, rfl⟩ := Option.map_eq_some_iff.mp hs
  exact exact_strobed (Stmt.exact_nonblocking.mpr
    ⟨_, hstorage, hasWidth_nextValue? (.ref hstorage) (.ref hdata) hvalue⟩)

/-- A pulse output counts its bits from the lowest one of its segment. -/
theorem exact_pulsePiece {pulse : String} (hpulse : segment.pulsePort = some pulse) {piece : Piece}
    (hpiece : piece ∈ pieces config.byteLanes segment.bits port.strobe.isSome) :
    (pulsePiece config register segment pulse port piece).Exact
      (ofConfig config provenance) := by
  obtain ⟨hstorage, hdata⟩ := hasWidth_piece hwf hmem hsegment hport provenance hpiece
  obtain ⟨hlow, hle, hhigh⟩ := pieces_inside hpiece
  have hwidth := segment.bits.low_add_width
  have htarget : (Ref.part pulse (piece.high - segment.bits.low) (piece.low - segment.bits.low)
      segment.bits.width).HasWidth (ofConfig config provenance) (piece.high - piece.low + 1) := by
    rw [← Nat.sub_sub_sub_cancel_right hlow]
    exact Ref.hasWidth_part (pulse_mem_ranges hmem hsegment hpulse) (by omega) (by omega)
  exact exact_strobed (Stmt.exact_seq.mpr
    ⟨Stmt.exact_nonblocking.mpr ⟨_, htarget, hasWidth_pulsePattern (.ref hdata)⟩,
      Stmt.exact_nonblocking.mpr ⟨_, hstorage, hasWidth_zero _⟩⟩)

theorem exact_writeBody :
    (writeBody config register segment port).Exact (ofConfig config provenance) := by
  rw [writeBody, Stmt.exact_ofList, List.forall_mem_append]
  constructor
  · cases hpulse : segment.pulsePort with
    | none =>
      intro s hs
      obtain ⟨piece, hpiece, hsome⟩ := List.mem_filterMap.mp hs
      exact exact_storePiece hwf hmem hsegment hport hpiece hsome
    | some pulse =>
      refine List.forall_mem_append.mpr ⟨?_, List.forall_mem_map.mpr fun piece hpiece =>
        exact_pulsePiece hwf hmem hsegment hport hpulse hpiece⟩
      split
      · exact List.forall_mem_singleton.mpr (exact_clearPulse hmem hsegment hpulse)
      · exact List.forall_mem_nil _
  · intro s hs
    obtain ⟨flag, hflag, rfl⟩ := Option.map_eq_some_iff.mp (Option.mem_toList.mp hs)
    exact exact_storeFlag hmem hsegment hflag true

end Ports

theorem exact_writeChain (hsegment : segment ∈ register.segments) {ports : List WritePort}
    (hports : ∀ port ∈ ports, port ∈ allWritePorts config) :
    (writeChain config register segment ports).Exact (ofConfig config provenance) := by
  induction ports with
  | nil =>
    rw [writeChain, List.foldr_nil, unwritten]
    split
    · next pulse hpulse => exact Stmt.exact_block.mpr (exact_clearPulse hmem hsegment hpulse)
    · exact Stmt.exact_skip
  | cons port rest ih =>
    obtain ⟨hport, hrest⟩ := List.forall_mem_cons.mp hports
    exact Stmt.exact_branch.mpr ⟨exact_writeBody hwf hmem hsegment hport, ih hrest⟩

theorem exact_busWrites :
    ∀ s ∈ busWrites config register, s.Exact (ofConfig config provenance) := by
  refine List.forall_mem_map.mpr fun segment hsegment => ?_
  exact Stmt.exact_seq.mpr ⟨Stmt.exact_comment,
    exact_writeChain hwf hmem (List.mem_filter.mp hsegment).1 fun _ hport => hport⟩

theorem exact_readEffects :
    ∀ s ∈ readEffects config register, s.Exact (ofConfig config provenance) := by
  have heffects : ∀ s ∈ register.segments.filterMap (segmentReadEffect? register),
      s.Exact (ofConfig config provenance) := by
    intro s hs
    obtain ⟨segment, hsegment, hsome⟩ := List.mem_filterMap.mp hs
    obtain ⟨effect, -, rfl⟩ := Option.map_eq_some_iff.mp hsome
    refine Stmt.exact_nonblocking.mpr ⟨segment.bits.width, hasWidth_storageBits hmem
      segment.bits.low_le_high (high_lt_of_mem_ranges hwf hmem (segment_mem_ranges hsegment)), ?_⟩
    cases effect with
    | clear => exact hasWidth_zero _
    | set => exact hasWidth_lowMask _
  unfold readEffects
  split
  · exact List.forall_mem_nil _
  · exact List.forall_mem_cons.mpr ⟨Stmt.exact_comment, List.forall_mem_singleton.mpr
      (Stmt.exact_when.mpr (Stmt.exact_ofList.mpr heffects))⟩

end Registers

/-- Every assignment of the update block is exact. -/
theorem exact_updates (hwf : config.WellFormed) :
    ∀ assignment ∈ updateAssignments config,
      ExactAssignment (ofConfig config provenance) assignment := by
  have hreset : (resetBody (Layout.ofConfig config)).Exact (ofConfig config provenance) :=
    Stmt.exact_ofList.mpr (List.forall_mem_flatMap.mpr fun register hmem =>
      exact_resetRegister hwf hmem)
  have hclock : (clockBody config (Layout.ofConfig config)).Exact
      (ofConfig config provenance) := by
    refine Stmt.exact_ofList.mpr ?_
    simp only [List.forall_mem_append, List.forall_mem_flatMap]
    exact ⟨⟨fun register hmem => exact_hardwareWrites hwf hmem,
      fun register hmem => exact_busWrites hwf hmem⟩,
      fun register hmem => exact_readEffects hwf hmem⟩
  unfold updateAssignments updates
  split
  · exact List.forall_mem_nil _
  · rw [List.flatMap_singleton]
    exact List.forall_mem_append.mpr ⟨hreset, Stmt.exact_block.mpr hclock⟩

/-! ### Widths -/

/-- Of all items, only flags declare a name that no other signal has. -/
theorem width_of_flag_item (hname : name ∉ unflaggedNames config) :
    ∀ item ∈ items config (Layout.ofConfig config),
      item.declares? = some (name, width) → width = 1 := by
  simp only [unflaggedNames, fixedNames, busNames, List.mem_append, not_or] at hname
  obtain ⟨⟨⟨⟨⟨⟨-, -, hbus⟩, herror⟩, -⟩, -⟩, haddress⟩, hstorage⟩ := hname
  have hsection {body : List Item} (hnot : name ∉ namesOf body) :
      ∀ item ∈ body, item.declares? = some (name, width) → width = 1 :=
    fun item hitem hdeclares => absurd
      (List.mem_map_of_mem (List.mem_filterMap.mpr ⟨item, hitem, hdeclares⟩)) hnot
  have htitled {title : String} {body : List Item}
      (hbody : ∀ item ∈ body, item.declares? = some (name, width) → width = 1) :
      ∀ item ∈ titled title body, item.declares? = some (name, width) → width = 1 :=
    forall_mem_titled (by rintro ⟨⟩) (by rintro ⟨⟩) hbody
  have hnil {body : List Item} (hempty : namesOf body = []) : name ∉ namesOf body :=
    hempty ▸ List.not_mem_nil
  simp only [items, List.forall_mem_append]
  refine ⟨⟨⟨⟨⟨⟨⟨htitled ?_, htitled (hsection hbus)⟩, htitled ?_⟩, htitled (hsection herror)⟩,
    htitled (hsection (hnil (namesOf_updates config _)))⟩, hsection (hnil ?_)⟩,
    htitled (hsection (hnil (namesOf_handshake config)))⟩,
    htitled (hsection (hnil (namesOf_fieldOutputs _)))⟩
  · refine List.forall_mem_map.mpr fun register hregister hdeclares => ?_
    obtain ⟨rfl, -⟩ := Prod.mk.inj (Option.some.inj hdeclares)
    exact absurd (List.mem_map_of_mem hregister) haddress
  · refine List.forall_mem_flatMap.mpr fun register hregister => List.forall_mem_cons.mpr
      ⟨fun hdeclares => ?_, fun item hitem hdeclares => ?_⟩
    · obtain ⟨rfl, -⟩ := Prod.mk.inj (Option.some.inj hdeclares)
      exact absurd (List.mem_map.mpr ⟨register, hregister, rfl⟩) hstorage
    · obtain ⟨segment, -, hsome⟩ := List.mem_filterMap.mp hitem
      obtain ⟨flag, -, rfl⟩ := Option.map_eq_some_iff.mp hsome
      exact (Prod.mk.inj (Option.some.inj hdeclares)).2.symm
  · exact namesOf_flatMap_eq_nil fun port _ => namesOf_readMuxSection config _ port

/-- Two flags can share a name, but they are single bits both. -/
theorem width_of_flag (hname : name ∉ unflaggedNames config)
    (hmem : (name, width) ∈ (ofConfig config provenance).declarations) : width = 1 := by
  rcases List.mem_append.mp hmem with hport | hitem
  · obtain ⟨port, hin, hdeclares⟩ := List.mem_map.mp hport
    obtain rfl : port.name = name := congrArg Prod.fst hdeclares
    have hportName : port.name ∈ (ports config (Layout.ofConfig config)).map Port.name :=
      List.mem_map_of_mem hin
    rw [names_ports] at hportName
    refine absurd ?_ hname
    simp only [unflaggedNames, fixedNames, busNames, List.mem_append] at hportName ⊢
    tauto
  · obtain ⟨item, hitem, hdeclares⟩ := List.mem_filterMap.mp hitem
    exact width_of_flag_item hname item hitem hdeclares

/-- Every signal has the one width that it is declared with, unless a hardware port takes the name
    of a Wishbone port. -/
theorem respects_widths (hwf : config.WellFormed) (provenance : Provenance)
    (hports : config.protocol = .wishbone →
      ∀ port ∈ config.interface.ports, port.name ∉ config.hardwarePorts) :
    (ofConfig config provenance).Respects (ofConfig config provenance).widths := by
  rintro ⟨name, width⟩ hmem
  by_cases hname : name ∈ unflaggedNames config
  · apply widths_of_count _ hmem
    have hflags : config.writtenFlags.count name = 0 := List.count_eq_zero.mpr fun hflag =>
      family_unflaggedNames config name hname (family_writtenFlags config name hflag)
    rw [(declared_perm config provenance).count_eq, List.count_append, hflags, Nat.add_zero]
    exact List.nodup_iff_count_le_one.mp ((nodup_unflaggedNames_iff hwf).mpr hports) name
  · exact (width_of_flag hname (Module.widths_mem hmem)).trans
      (width_of_flag hname hmem).symm

/-! ### The module -/

/-- A register that hardware writes to through a port named like the data of the bus. -/
def shadowing : Config where
  moduleName := "regs"
  protocol := .wishbone
  registers :=
    [{ name := "DATA", address := some 0
       fields := [{ name := "WB_DAT", bits := .full 8, hwAccess := some .write }] }]

/-- The bus writes 32 bits of the one `wb_dat_i`, and hardware writes 8 bits of the other. Whatever
    the width of the name is, one of the assignments is not exact. -/
theorem not_exact_shadowing :
    (validate shadowing).isValid = true ∧
      ("data_reg", 32) ∈ (ofConfig shadowing ⟨"regforge", "unspecified", ""⟩).declarations ∧
      ¬ ∃ widths : Widths, widths "data_reg" = 32 ∧
        ∀ assignment ∈ updateAssignments shadowing,
          assignment.1.width widths = assignment.2.width widths := by
  have hbus : (⟨"data_reg", .whole⟩, Expr.signal "wb_dat_i") ∈ updateAssignments shadowing := by
    decide +kernel
  have hhardware : (⟨"data_reg", .bits 7 0⟩, Expr.signal "wb_dat_i") ∈
      updateAssignments shadowing := by
    decide +kernel
  refine ⟨by decide +kernel, by decide +kernel, ?_⟩
  rintro ⟨widths, hstorage, hexact⟩
  have hwide : widths "data_reg" = widths "wb_dat_i" := hexact _ hbus
  have hnarrow : 8 = widths "wb_dat_i" := hexact _ hhardware
  omega

end Hardware

/-- In the module of a valid register file, all that is mentioned has a declared width, with selects
    inside a declared range; the assignments of the update block have sides of one declared width;
    and the byte lanes partition each segment. If no hardware port takes the name of a Wishbone
    port, then these are the widths of the module's signals. -/
theorem exact_of_isValid (config : Config) (provenance : Provenance)
    (hvalid : (validate config).isValid = true) :
    (∀ ref ∈ (Hardware.ofConfig config provenance).refs,
        ∃ width, ref.HasWidth (Hardware.ofConfig config provenance) width) ∧
      (∀ assignment ∈ Hardware.updateAssignments config,
        ExactAssignment (Hardware.ofConfig config provenance) assignment) ∧
      (∀ register ∈ (Layout.ofConfig config).registers, ∀ segment ∈ register.segments, ∀ cut,
        Hardware.Partitions (Hardware.pieces config.byteLanes segment.bits cut) segment.bits ∧
          (cut = true → ∀ piece ∈ Hardware.pieces config.byteLanes segment.bits cut,
            piece.lane < config.byteLanes ∧ ∀ i, piece.Covers i → piece.lane = i / 8)) ∧
      ((config.protocol = .wishbone →
          ∀ port ∈ config.interface.ports, port.name ∉ config.hardwarePorts) →
        (∀ ref ∈ (Hardware.ofConfig config provenance).refs,
            ref.InRange (Hardware.ofConfig config provenance).widths) ∧
          ∀ assignment ∈ Hardware.updateAssignments config,
            assignment.1.width (Hardware.ofConfig config provenance).widths =
              assignment.2.width (Hardware.ofConfig config provenance).widths) := by
  have hwf := Validate.wellFormed_of_isValid hvalid
  have hrefs : ∀ ref ∈ (Hardware.ofConfig config provenance).refs,
      ∃ width, ref.HasWidth (Hardware.ofConfig config provenance) width :=
    fun ref href => (Hardware.mentions_of_mem_refs href).exists_width hwf
  have hexact : ∀ assignment ∈ Hardware.updateAssignments config,
      ExactAssignment (Hardware.ofConfig config provenance) assignment :=
    Hardware.exact_updates hwf
  refine ⟨hrefs, hexact, fun register hmem segment hsegment cut => ?_, fun hports => ?_⟩
  · refine ⟨Hardware.partitions_pieces cut fun i hin =>
      Hardware.lane_lt_of_mem_segment hwf hmem hsegment hin, ?_⟩
    rintro rfl piece hpiece
    exact ⟨Hardware.lane_lt_of_mem_pieces hpiece rfl, fun i hcovers => hcovers.lane_eq hpiece⟩
  · have hwidths := Hardware.respects_widths hwf provenance hports
    refine ⟨fun ref href => ?_, fun assignment hmem => (hexact assignment hmem).width_eq hwidths⟩
    obtain ⟨width, hwidth⟩ := hrefs ref href
    exact hwidth.inRange hwidths

/-- A pulse of ten bits takes the upper three of one byte lane and the lower seven of the next. -/
theorem exact_of_isValid_straddled :
    (validate Config.straddled).isValid = true ∧
      (⟨"events_fire_pulse", .bits 9 3⟩ : Ref).InRange
        (Hardware.ofConfig Config.straddled ⟨"regforge", "", ""⟩).widths ∧
      Hardware.Partitions [⟨0, 7, 5⟩, ⟨1, 14, 8⟩] ⟨14, 5, by decide, by decide⟩ := by
  have hvalid : (validate Config.straddled).isValid = true := by decide +kernel
  have href : (⟨"events_fire_pulse", .bits 9 3⟩ : Ref) ∈
      (Hardware.ofConfig Config.straddled ⟨"regforge", "", ""⟩).refs := by
    decide +kernel
  have hsegment : ∃ register ∈ (Layout.ofConfig Config.straddled).registers,
      ∃ segment ∈ register.segments, segment.bits = ⟨14, 5, by decide, by decide⟩ := by
    decide +kernel
  obtain ⟨-, -, hpieces, hwidths⟩ :=
    exact_of_isValid Config.straddled ⟨"regforge", "", ""⟩ hvalid
  obtain ⟨register, hmem, segment, hsegment, hbits⟩ := hsegment
  have hpartitions := (hpieces register hmem segment hsegment true).1
  rw [hbits] at hpartitions
  exact ⟨hvalid, (hwidths fun hwishbone => absurd hwishbone (by decide)).1 _ href, hpartitions⟩

end RegisterFile
