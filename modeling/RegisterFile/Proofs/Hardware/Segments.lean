import RegisterFile.Proofs.Hardware.Writes

/-!
The bus write of a whole segment: its stored bits, its flag and its pulse output after a clock edge
with and without a write.
-/

namespace RegisterFile.Hardware

open Verilog

variable {config : Config} {widths : Widths} {e : Env} {register : RegisterLayout}
  {segment : Segment} {port : WritePort} {i j : Nat}

section Bodies

variable (hwf : config.WellFormed) (hsignals : Signals config widths)
  (hmem : register ∈ (Layout.ofConfig config).registers) (hsegment : segment ∈ register.segments)

include hmem hsegment

theorem effects_flagStores_storage :
    Stmt.effects widths e (flagStores segment) (storageName register.ident) i = none := by
  apply Stmt.effects_eq_none_of_updates updates_flagStores
  intro hflag
  exact storageName_not_mem hmem hmem hsegment
    (mem_segmentSignals.mpr (Or.inl (Option.mem_toList.mp hflag)))

theorem effects_clearStores_storage {pulse : String} (hpulse : segment.pulsePort = some pulse) :
    Stmt.effects widths e (clearStores segment pulse port) (storageName register.ident) i =
      none := by
  apply Stmt.effects_eq_none_of_updates updates_clearStores
  intro hname
  exact storageName_ne_pulse hmem hsegment hpulse (List.mem_singleton.mp hname)

theorem effect_writeBody_stored (hstored : segment.pulsePort = none) :
    (writeBody config register segment port).effect widths e (storageName register.ident) i =
      Stmt.effects widths e ((pieces config.byteLanes segment.bits port.strobe.isSome).flatMap
        fun piece => (storePiece? config register segment port piece).toList)
        (storageName register.ident) i := by
  rw [writeBody_of_stored hstored,
    Stmt.effect_ofList fun s hs => (updates_storedWrite s hs).clocked, Stmt.effects_append,
    effects_flagStores_storage hmem hsegment, Option.none_or, List.filterMap_eq_flatMap_toList]

theorem effect_writeBody_pulsed {pulse : String} (hpulse : segment.pulsePort = some pulse) :
    (writeBody config register segment port).effect widths e (storageName register.ident) i =
      Stmt.effects widths e ((pieces config.byteLanes segment.bits port.strobe.isSome).flatMap
        fun piece => [pulsePiece config register segment pulse port piece])
        (storageName register.ident) i := by
  rw [writeBody_of_pulse hpulse,
    Stmt.effect_ofList fun s hs => (updates_pulseWrite hpulse s hs).clocked, Stmt.effects_append,
    Stmt.effects_append, effects_flagStores_storage hmem hsegment,
    effects_clearStores_storage hmem hsegment hpulse, Option.none_or, Option.or_none,
    List.map_eq_flatMap]

theorem flag_ne_pulse {flag pulse : String} (hflag : segment.writtenFlag = some flag)
    (hpulse : segment.pulsePort = some pulse) : pulse ≠ flag := by
  rintro rfl
  have hfamily := family_of_flag hmem hsegment hflag
  rw [family_of_pulse hmem hsegment hpulse] at hfamily
  cases hfamily

include hsignals

theorem effect_writeBody_flag {flag : String} (hflag : segment.writtenFlag = some flag) :
    (writeBody config register segment port).effect widths e flag 0 = some true := by
  have hwidth := hsignals.flag register hmem segment hsegment flag hflag
  have hstore : Stmt.effects widths e (flagStores segment) flag 0 = some true := by
    rw [flagStores, hflag, Option.map_some, Option.toList_some, Stmt.effects_singleton,
      Stmt.effect_store (by omega), Expr.evalFor, Expr.eval_bit, getLsbD_flag]
  cases hpulse : segment.pulsePort with
  | none =>
    rw [writeBody_of_stored hpulse,
      Stmt.effect_ofList fun s hs => (updates_storedWrite s hs).clocked, Stmt.effects_append,
      hstore]
    rfl
  | some pulse =>
    rw [writeBody_of_pulse hpulse,
      Stmt.effect_ofList fun s hs => (updates_pulseWrite hpulse s hs).clocked,
      Stmt.effects_append, hstore]
    rfl

include hwf

theorem effect_writeBody_storage_miss (hmiss : i ∉ segment.bits) :
    (writeBody config register segment port).effect widths e (storageName register.ident) i =
      none := by
  cases hpulse : segment.pulsePort with
  | none =>
    rw [effect_writeBody_stored hmem hsegment hpulse]
    apply Stmt.effects_flatMap_eq_none
    intro piece hpiece
    exact effects_storePiece_miss hwf hsignals hmem hsegment hpiece
      fun hcovers => hmiss (hcovers.mem hpiece)
  | some pulse =>
    rw [effect_writeBody_pulsed hmem hsegment hpulse]
    apply Stmt.effects_flatMap_eq_none
    intro piece hpiece
    exact effect_pulsePiece_storage_miss hmem hsegment hpulse hsignals hwf hpiece
      fun hcovers => hmiss (hcovers.mem hpiece)

/-- What an honoured write does to a stored bit: it gives bits of open lanes the bit function of
    the type. -/
theorem effect_writeBody_storage_hit (hport : port.Regular config widths)
    (hin : i ∈ segment.bits) (hstores : segment.writeEffect ≠ .ignore) :
    (writeBody config register segment port).effect widths e (storageName register.ident) i =
      if opensLane widths e port.strobe (i / 8) then
        some (segment.writeEffect.bit ((e.value widths (storageName register.ident)).getLsbD i)
          ((e.value widths port.data).getLsbD i))
      else none := by
  have hpulses := (hwf.regular.registers register hmem).pulses segment hsegment
  obtain ⟨piece, hpiece, hcovers⟩ := exists_piece port.strobe.isSome hin
    (lane_lt_of_mem_segment hwf hmem hsegment hin)
  have hlane : opensLane widths e port.strobe piece.lane =
      opensLane widths e port.strobe (i / 8) := opensLane_piece hpiece hcovers
  rw [← hlane]
  cases hpulse : segment.pulsePort with
  | none =>
    have hstored : segment.writeEffect.isPulse = false := by
      rw [← hpulses, hpulse]
      rfl
    rw [effect_writeBody_stored hmem hsegment hpulse, effects_pieces hpiece hcovers]
    · exact effects_storePiece_hit hwf hsignals hmem hsegment hport hstored hstores hpiece hcovers
    · intro other hother hmiss
      exact effects_storePiece_miss hwf hsignals hmem hsegment hother hmiss
  | some pulse =>
    have heffect : segment.writeEffect.isPulse = true := by
      rw [← hpulses, hpulse]
      rfl
    have hbit : ∀ current data, segment.writeEffect.bit current data = false := by
      intro current data
      cases hcase : segment.writeEffect with
      | pulse level => rfl
      | _ =>
        rw [hcase] at heffect
        cases heffect
    rw [effect_writeBody_pulsed hmem hsegment hpulse, effects_pieces hpiece hcovers,
      Stmt.effects_singleton,
      effect_pulsePiece_storage_hit hmem hsegment hpulse hsignals hwf hpiece hcovers, hbit]
    intro other hother hmiss
    exact effect_pulsePiece_storage_miss hmem hsegment hpulse hsignals hwf hother hmiss

/-- A bit of a pulse output after an honoured write. -/
theorem effect_writeBody_pulse (hport : port.Regular config widths) {pulse : String}
    (hpulse : segment.pulsePort = some pulse) (hj : j < segment.bits.width) :
    (writeBody config register segment port).effect widths e pulse j =
      some (opensLane widths e port.strobe ((segment.bits.low + j) / 8) &&
        segment.writeEffect.pulseBit
          ((e.value widths port.data).getLsbD (segment.bits.low + j))) := by
  have hin : segment.bits.low + j ∈ segment.bits := by
    have hspan := segment.bits.low_add_width
    exact BitRange.mem_iff.mpr ⟨by omega, by omega⟩
  obtain ⟨piece, hpiece, hcovers⟩ := exists_piece port.strobe.isSome hin
    (lane_lt_of_mem_segment hwf hmem hsegment hin)
  have hlane : opensLane widths e port.strobe piece.lane =
      opensLane widths e port.strobe ((segment.bits.low + j) / 8) :=
    opensLane_piece hpiece hcovers
  have hflags : Stmt.effects widths e (flagStores segment) pulse j = none := by
    apply Stmt.effects_eq_none_of_updates updates_flagStores
    intro hflag
    exact flag_ne_pulse hmem hsegment (Option.mem_toList.mp hflag) hpulse rfl
  have hclear : Stmt.effects widths e (clearStores segment pulse port) pulse j =
      if port.strobe.isSome then some false else none := by
    have hwidth := hsignals.pulse register hmem segment hsegment pulse hpulse
    have hzero : (Stmt.store pulse (zero segment.bits.width)).effect widths e pulse j =
        some false := by
      rw [Stmt.effect_store (by omega), Expr.evalFor, getLsbD_zero]
    rw [clearStores]
    split
    · exact hzero
    · rfl
  rw [writeBody_of_pulse hpulse,
    Stmt.effect_ofList fun s hs => (updates_pulseWrite hpulse s hs).clocked, Stmt.effects_append,
    Stmt.effects_append, hflags, Option.none_or, List.map_eq_flatMap,
    effects_pieces hpiece hcovers, Stmt.effects_singleton,
    effect_pulsePiece_pulse_hit hmem hsegment hpulse hsignals hwf hport hpiece hcovers, hlane,
    hclear]
  · cases port.strobe with
    | none => rfl
    | some strobe =>
      cases opensLane widths e (some strobe) ((segment.bits.low + j) / 8) <;> rfl
  · intro other hother hmiss
    exact effect_pulsePiece_pulse_miss hmem hsegment hpulse hsignals hother hmiss

end Bodies

/-! ### With and without a write -/

/-- The choice between ports: closed gates keep every port away, and open gates let the first one
    through that asks for the register. -/
theorem effect_writeChain (hsignals : Signals config widths)
    (hmem : register ∈ (Layout.ofConfig config).registers) (hsegment : segment ∈ register.segments)
    {ports : List WritePort} (hports : ∀ port ∈ ports, port.Regular config widths)
    {name : String} :
    (writeChain config register segment ports).effect widths e name i =
      if opensGates widths e segment then
        ((ports.find? (WritePort.targets widths e register)).elim (unwritten segment)
          (writeBody config register segment)).effect widths e name i
      else (unwritten segment).effect widths e name i := by
  induction ports with
  | nil => exact (ite_self _).symm
  | cons port ports ih =>
    obtain ⟨hport, hrest⟩ := List.forall_mem_cons.mp hports
    have hchain : writeChain config register segment (port :: ports) =
        .branch (writeCondition register segment port) (writeBody config register segment port)
          (writeChain config register segment ports) := rfl
    rw [hchain, Stmt.effect_branch, holds_writeCondition hsignals hmem hsegment hport, ih hrest,
      List.find?_cons]
    cases port.targets widths e register with
    | true => cases opensGates widths e segment <;> rfl
    | false => rfl

section Leader

variable (hwired : Wired config widths) (hmem : register ∈ (Layout.ofConfig config).registers)
  (hsegment : segment ∈ register.segments)

include hwired hmem hsegment

theorem effect_busWrite {name : String} :
    (busWrite config register segment).effect widths e name i =
      if opensGates widths e segment then
        ((leader? config widths e register).elim (unwritten segment)
          (writeBody config register segment)).effect widths e name i
      else (unwritten segment).effect widths e name i := by
  rw [busWrite, Stmt.effect_seq rfl, Stmt.effect_comment, Option.or_none]
  exact effect_writeChain hwired.signals hmem hsegment hwired.writePorts

/-- Without a write a pulse ends. -/
theorem effect_busWrite_of_none (hleader : leader? config widths e register = none)
    {name : String} :
    (busWrite config register segment).effect widths e name i =
      (unwritten segment).effect widths e name i := by
  rw [effect_busWrite hwired hmem hsegment, hleader]
  exact ite_self _

/-- A segment with open gates takes the write of the port that its register follows. -/
theorem effect_busWrite_of_some (hleader : leader? config widths e register = some port)
    {name : String} :
    (busWrite config register segment).effect widths e name i =
      if opensGates widths e segment then
        (writeBody config register segment port).effect widths e name i
      else (unwritten segment).effect widths e name i := by
  rw [effect_busWrite hwired hmem hsegment, hleader]
  rfl

end Leader

theorem effect_unwritten_storage (hmem : register ∈ (Layout.ofConfig config).registers)
    (hsegment : segment ∈ register.segments) :
    (unwritten segment).effect widths e (storageName register.ident) i = none :=
  updates_unwritten.effect_eq_none (storageName_not_mem hmem hmem hsegment)

theorem effect_unwritten_flag (hmem : register ∈ (Layout.ofConfig config).registers)
    (hsegment : segment ∈ register.segments) {flag : String}
    (hflag : segment.writtenFlag = some flag) :
    (unwritten segment).effect widths e flag i = none := by
  unfold unwritten
  split
  · next pulse hpulse =>
    rw [Stmt.effect_block, Stmt.store, Stmt.effect_nonblocking]
    exact if_neg fun h => flag_ne_pulse hmem hsegment hflag hpulse h.1.symm
  · rfl

theorem effect_unwritten_pulse {pulse : String} (hpulse : segment.pulsePort = some pulse)
    (hi : i < widths pulse) :
    (unwritten segment).effect widths e pulse i = some false := by
  have hunwritten : unwritten segment =
      .block (.store pulse (zero segment.bits.width)) := by
    unfold unwritten
    rw [hpulse]
  rw [hunwritten, Stmt.effect_block, Stmt.effect_store hi, Expr.evalFor, getLsbD_zero]

/-! ### The segments of a register -/

section Registers

variable (hwired : Wired config widths) (hmem : register ∈ (Layout.ofConfig config).registers)

include hwired hmem

theorem effect_busWrite_storage_miss (hsegment : segment ∈ register.segments)
    (hmiss : i ∉ segment.bits) :
    (busWrite config register segment).effect widths e (storageName register.ident) i = none := by
  cases hleader : leader? config widths e register with
  | none =>
    rw [effect_busWrite_of_none hwired hmem hsegment hleader,
      effect_unwritten_storage hmem hsegment]
  | some port =>
    rw [effect_busWrite_of_some hwired hmem hsegment hleader,
      effect_unwritten_storage hmem hsegment,
      effect_writeBody_storage_miss hwired.wellFormed hwired.signals hmem hsegment hmiss, ite_self]

/-- A stored bit outside the segments that the bus writes is left alone. -/
theorem effects_busWrites_storage_miss
    (hmiss : ∀ segment ∈ register.segments, segment.swWrite = true → i ∉ segment.bits) :
    Stmt.effects widths e (busWrites config register) (storageName register.ident) i = none := by
  apply Stmt.effects_eq_none
  intro s hs
  obtain ⟨segment, hfilter, rfl⟩ := List.mem_map.mp hs
  obtain ⟨hsegment, hwritable⟩ := List.mem_filter.mp hfilter
  exact effect_busWrite_storage_miss hwired hmem hsegment (hmiss segment hsegment hwritable)

/-- So are the stored bits of a register that no port writes. -/
theorem effects_busWrites_storage_unled (hleader : leader? config widths e register = none) :
    Stmt.effects widths e (busWrites config register) (storageName register.ident) i = none := by
  apply Stmt.effects_eq_none
  intro s hs
  obtain ⟨segment, hfilter, rfl⟩ := List.mem_map.mp hs
  have hsegment := (List.mem_filter.mp hfilter).1
  rw [effect_busWrite_of_none hwired hmem hsegment hleader, effect_unwritten_storage hmem hsegment]

/-- The segment of a stored bit decides about it. -/
theorem effects_busWrites_storage_hit (hsegment : segment ∈ register.segments)
    (hwritable : segment.swWrite = true) (hin : i ∈ segment.bits) :
    Stmt.effects widths e (busWrites config register) (storageName register.ident) i =
      (busWrite config register segment).effect widths e (storageName register.ident) i := by
  have hregister := hwired.wellFormed.regular.registers register hmem
  rw [busWrites, List.map_eq_flatMap,
    Stmt.effects_flatMap (List.mem_filter.mpr ⟨hsegment, hwritable⟩), Stmt.effects_singleton]
  intro other hfilter hne
  obtain ⟨hother, -⟩ := List.mem_filter.mp hfilter
  apply effect_busWrite_storage_miss hwired hmem hother
  intro hotherIn
  exact hne (hregister.segment_eq hother hsegment hotherIn hin)

end Registers

/-- A flag or a pulse output is updated by its own segment. -/
theorem effects_busWrites_signal (hwf : config.WellFormed) (hflags : config.writtenFlags.Nodup)
    (hmem : register ∈ (Layout.ofConfig config).registers) (hsegment : segment ∈ register.segments)
    {name : String} (hname : name ∈ segmentSignals segment) :
    Stmt.effects widths e (busWrites config register) name i =
      if segment.swWrite then (busWrite config register segment).effect widths e name i
      else none := by
  have hother : ∀ other ∈ register.segments, other ≠ segment →
      Stmt.effects widths e [busWrite config register other] name i = none := by
    intro other hother hne
    apply updates_busWrite.effect_eq_none
    rw [List.mem_cons]
    rintro (rfl | hotherName)
    · exact storageName_not_mem hmem hmem hsegment hname
    · exact hne (segment_eq_of_signal hwf hflags hmem hmem hother hsegment hotherName hname).2
  rw [busWrites, List.map_eq_flatMap]
  split
  · next hwritable =>
    rw [Stmt.effects_flatMap (List.mem_filter.mpr ⟨hsegment, hwritable⟩), Stmt.effects_singleton]
    exact fun other hfilter => hother other (List.mem_filter.mp hfilter).1
  · next hreadOnly =>
    apply Stmt.effects_flatMap_eq_none
    intro other hfilter
    obtain ⟨hmemOther, hwritable⟩ := List.mem_filter.mp hfilter
    apply hother other hmemOther
    rintro rfl
    exact hreadOnly hwritable

end RegisterFile.Hardware
