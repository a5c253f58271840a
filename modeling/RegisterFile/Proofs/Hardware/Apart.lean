import RegisterFile.Proofs.Hardware.Names

/-!
What keeps the signals of registers apart. A storage, a written flag and a pulse port never share a
name, and each of them tells the register and the segment that it belongs to.
-/

namespace RegisterFile.Hardware

open Verilog

variable {config : Config} {register other : RegisterLayout} {segment otherSegment : Segment}

/-- In a list without repeats that is put together from parts, an entry tells its part. -/
theorem eq_of_mem_flatMap {α β : Type} {items : List α} {parts : α → List β}
    (hnodup : (items.flatMap parts).Nodup) {a b : α} {x : β} (ha : a ∈ items) (hb : b ∈ items)
    (hxa : x ∈ parts a) (hxb : x ∈ parts b) : a = b := by
  by_contra hne
  obtain ⟨-, hpairwise⟩ := List.nodup_flatMap.mp hnodup
  have hsymm : Std.Symm (Function.onFun List.Disjoint parts) := ⟨fun _ _ h => h.symm⟩
  exact hpairwise.forall ha hb hne hxa hxb

/-- The same for parts that are options. -/
theorem eq_of_mem_filterMap {α β : Type} {items : List α} {part : α → Option β}
    (hnodup : (items.filterMap part).Nodup) {a b : α} {x : β} (ha : a ∈ items) (hb : b ∈ items)
    (hxa : part a = some x) (hxb : part b = some x) : a = b := by
  rw [List.filterMap_eq_flatMap_toList] at hnodup
  exact eq_of_mem_flatMap hnodup ha hb (Option.mem_toList.mpr hxa) (Option.mem_toList.mpr hxb)

theorem register_eq_of_storageName (hwf : config.WellFormed)
    (hmem : register ∈ (Layout.ofConfig config).registers)
    (hother : other ∈ (Layout.ofConfig config).registers)
    (hname : storageName register.ident = storageName other.ident) : register = other := by
  have hlists := congrArg String.toList hname
  simp only [storageName, String.toList_append, List.append_cancel_right_eq] at hlists
  exact List.inj_on_of_nodup_map hwf.regular.identsDistinct hmem hother
    (String.toList_inj.mp hlists)

theorem family_storageName (hmem : register ∈ (Layout.ofConfig config).registers) :
    family (storageName register.ident) = .storage :=
  family_storageNames config _ (List.mem_map.mpr ⟨register, hmem, rfl⟩)

theorem family_of_flag (hmem : register ∈ (Layout.ofConfig config).registers)
    (hsegment : segment ∈ register.segments) {flag : String}
    (hflag : segment.writtenFlag = some flag) : family flag = .flag := by
  apply family_writtenFlags config
  exact List.mem_flatMap.mpr ⟨register, hmem, List.mem_filterMap.mpr ⟨segment, hsegment, hflag⟩⟩

theorem pulse_mem_portNames (hsegment : segment ∈ register.segments) {pulse : String}
    (hpulse : segment.pulsePort = some pulse) :
    pulse ∈ (registerPorts register).map Port.name :=
  List.mem_map_of_mem (pulse_mem_registerPorts hsegment hpulse)

theorem family_of_pulse (hmem : register ∈ (Layout.ofConfig config).registers)
    (hsegment : segment ∈ register.segments) {pulse : String}
    (hpulse : segment.pulsePort = some pulse) : family pulse = .hardwarePort := by
  apply family_hardwarePorts config
  rw [Config.hardwarePorts, List.map_flatMap]
  exact List.mem_flatMap.mpr ⟨register, hmem, pulse_mem_portNames hsegment hpulse⟩

theorem segment_eq_of_flag (hflags : config.writtenFlags.Nodup)
    (hmem : register ∈ (Layout.ofConfig config).registers)
    (hother : other ∈ (Layout.ofConfig config).registers)
    (hsegment : segment ∈ register.segments) (hotherSegment : otherSegment ∈ other.segments)
    {flag : String} (hflag : segment.writtenFlag = some flag)
    (hotherFlag : otherSegment.writtenFlag = some flag) :
    register = other ∧ segment = otherSegment := by
  have hregister : register = other := eq_of_mem_flatMap hflags hmem hother
    (List.mem_filterMap.mpr ⟨segment, hsegment, hflag⟩)
    (List.mem_filterMap.mpr ⟨otherSegment, hotherSegment, hotherFlag⟩)
  subst hregister
  have hnodup := (List.nodup_flatMap.mp hflags).1 register hmem
  exact ⟨rfl, eq_of_mem_filterMap hnodup hsegment hotherSegment hflag hotherFlag⟩

theorem segment_eq_of_pulse (hwf : config.WellFormed)
    (hmem : register ∈ (Layout.ofConfig config).registers)
    (hother : other ∈ (Layout.ofConfig config).registers)
    (hsegment : segment ∈ register.segments) (hotherSegment : otherSegment ∈ other.segments)
    {pulse : String} (hpulse : segment.pulsePort = some pulse)
    (hotherPulse : otherSegment.pulsePort = some pulse) :
    register = other ∧ segment = otherSegment := by
  have hports := hwf.portsDistinct
  rw [Config.hardwarePorts, List.map_flatMap] at hports
  have hregister : register = other := eq_of_mem_flatMap hports hmem hother
    (pulse_mem_portNames hsegment hpulse)
    (pulse_mem_portNames hotherSegment hotherPulse)
  subst hregister
  have hnodup := (List.nodup_flatMap.mp hports).1 register hmem
  rw [registerPorts, List.map_append, List.map_filterMap] at hnodup
  have hpulses := (List.nodup_append.mp hnodup).2.1
  exact ⟨rfl, eq_of_mem_filterMap hpulses hsegment hotherSegment
    (by rw [pulsePort?, hpulse]; rfl) (by rw [pulsePort?, hotherPulse]; rfl)⟩

/-- The signals that hold the state of a segment beside its storage. -/
def segmentSignals (segment : Segment) : List String :=
  segment.writtenFlag.toList ++ segment.pulsePort.toList

/-- The signals that hold the state of a register. -/
def registerSignals (register : RegisterLayout) : List String :=
  storageName register.ident :: register.segments.flatMap segmentSignals

theorem mem_segmentSignals {name : String} :
    name ∈ segmentSignals segment ↔
      segment.writtenFlag = some name ∨ segment.pulsePort = some name := by
  rw [segmentSignals, List.mem_append, Option.mem_toList, Option.mem_toList]

theorem family_ne_storage (hmem : register ∈ (Layout.ofConfig config).registers)
    (hsegment : segment ∈ register.segments) {name : String}
    (hname : name ∈ segmentSignals segment) : family name ≠ .storage := by
  rcases mem_segmentSignals.mp hname with hflag | hpulse
  · rw [family_of_flag hmem hsegment hflag]
    decide
  · rw [family_of_pulse hmem hsegment hpulse]
    decide

theorem storageName_not_mem (hmem : register ∈ (Layout.ofConfig config).registers)
    (hother : other ∈ (Layout.ofConfig config).registers) (hsegment : segment ∈ other.segments) :
    storageName register.ident ∉ segmentSignals segment :=
  fun hname => family_ne_storage hother hsegment hname (family_storageName hmem)

theorem segment_eq_of_signal (hwf : config.WellFormed) (hflags : config.writtenFlags.Nodup)
    (hmem : register ∈ (Layout.ofConfig config).registers)
    (hother : other ∈ (Layout.ofConfig config).registers)
    (hsegment : segment ∈ register.segments) (hotherSegment : otherSegment ∈ other.segments)
    {name : String} (hname : name ∈ segmentSignals segment)
    (hotherName : name ∈ segmentSignals otherSegment) :
    register = other ∧ segment = otherSegment := by
  rcases mem_segmentSignals.mp hname with hflag | hpulse <;>
    rcases mem_segmentSignals.mp hotherName with hotherFlag | hotherPulse
  · exact segment_eq_of_flag hflags hmem hother hsegment hotherSegment hflag hotherFlag
  · have hfamily := family_of_flag hmem hsegment hflag
    rw [family_of_pulse hother hotherSegment hotherPulse] at hfamily
    cases hfamily
  · have hfamily := family_of_pulse hmem hsegment hpulse
    rw [family_of_flag hother hotherSegment hotherFlag] at hfamily
    cases hfamily
  · exact segment_eq_of_pulse hwf hmem hother hsegment hotherSegment hpulse hotherPulse

/-- A signal of a register tells the register. -/
theorem register_eq_of_signal (hwf : config.WellFormed) (hflags : config.writtenFlags.Nodup)
    (hmem : register ∈ (Layout.ofConfig config).registers)
    (hother : other ∈ (Layout.ofConfig config).registers) {name : String}
    (hname : name ∈ registerSignals register) (hotherName : name ∈ registerSignals other) :
    register = other := by
  rcases List.mem_cons.mp hname with rfl | hname <;>
    rcases List.mem_cons.mp hotherName with hotherName | hotherName
  · exact register_eq_of_storageName hwf hmem hother hotherName
  · obtain ⟨segment, hsegment, hname⟩ := List.mem_flatMap.mp hotherName
    exact absurd hname (storageName_not_mem hmem hother hsegment)
  · obtain ⟨segment, hsegment, hname⟩ := List.mem_flatMap.mp hname
    rw [hotherName] at hname
    exact absurd hname (storageName_not_mem hother hmem hsegment)
  · obtain ⟨segment, hsegment, hname⟩ := List.mem_flatMap.mp hname
    obtain ⟨otherSegment, hotherSegment, hotherName⟩ := List.mem_flatMap.mp hotherName
    exact (segment_eq_of_signal hwf hflags hmem hother hsegment hotherSegment hname hotherName).1

/-- The inputs of two fields do not share a stem. -/
theorem hw_eq_of_stem (hwf : config.WellFormed)
    (hmem : register ∈ (Layout.ofConfig config).registers)
    (hother : other ∈ (Layout.ofConfig config).registers) {hw otherHw : HwField}
    (hhw : hw ∈ register.hwFields) (hotherHw : otherHw ∈ other.hwFields)
    (hinput : hw.input = true) (hotherInput : otherHw.input = true)
    (hstem : hw.stem = otherHw.stem) : register = other ∧ hw = otherHw := by
  have hport {field : HwField} (hin : field.input = true) :
      s!"{field.stem}_we" ∈ (fieldPorts field).map Port.name := by
    rw [fieldPorts, if_pos hin, List.map_append]
    exact List.mem_append_right _ (List.mem_cons_of_mem _ (List.mem_singleton_self _))
  have hregisterPort {owner : RegisterLayout} {field : HwField} (hfield : field ∈ owner.hwFields)
      (hin : field.input = true) : s!"{field.stem}_we" ∈ (registerPorts owner).map Port.name := by
    rw [registerPorts, List.map_append, List.map_flatMap]
    exact List.mem_append_left _ (List.mem_flatMap.mpr ⟨field, hfield, hport hin⟩)
  have hports := hwf.portsDistinct
  rw [Config.hardwarePorts, List.map_flatMap] at hports
  have hregister : register = other := eq_of_mem_flatMap hports hmem hother
    (hregisterPort hhw hinput) (hstem ▸ hregisterPort hotherHw hotherInput)
  subst hregister
  have hnodup := (List.nodup_flatMap.mp hports).1 register hmem
  rw [registerPorts, List.map_append, List.map_flatMap] at hnodup
  have hfields := (List.nodup_append.mp hnodup).1
  exact ⟨rfl, eq_of_mem_flatMap hfields hhw hotherHw (hport hinput)
    (hstem ▸ hport hotherInput)⟩

end RegisterFile.Hardware
