import RegisterFile.Proofs.Hardware.Apart
import RegisterFile.Proofs.Hardware.Pieces
import RegisterFile.Proofs.Hardware.Ports

/-!
What the statements for a bus write do to the bits of a segment. Piece by piece they give every bit
whose lane is open the bit function of the segment's type, and leave the other bits alone.
-/

namespace RegisterFile.Hardware

open Verilog

variable {config : Config} {widths : Widths} {e : Env} {register : RegisterLayout}
  {segment : Segment} {port : WritePort} {piece : Piece} {s : Stmt} {i j : Nat}

/-! ### Values -/

theorem getLsbD_nextValue? {effect : WriteEffect} {current data value : Expr} {context : Nat}
    (hvalue : nextValue? effect current data = some value) (hj : j < context) (hword : j < 128) :
    (value.eval widths e context).getLsbD j =
      effect.bit ((current.eval widths e context).getLsbD j)
        ((data.eval widths e context).getLsbD j) := by
  have hinvert : ((Expr.invert data).eval widths e context).getLsbD j =
      !(data.eval widths e context).getLsbD j := by
    rw [Expr.eval, BitVec.getLsbD_and, BitVec.getLsbD_not, Word.getLsbD_lowMask,
      decide_eq_true hword, decide_eq_true hj]
    simp
  cases effect <;> cases hvalue
  · rfl
  · rw [Expr.eval, BitVec.getLsbD_and, hinvert]
    rfl
  · rw [Expr.eval, BitVec.getLsbD_and]
    rfl
  · rw [Expr.eval, BitVec.getLsbD_or]
    rfl
  · rw [Expr.eval, BitVec.getLsbD_or, hinvert]
    rfl

theorem eq_ignore_of_nextValue? {effect : WriteEffect} {current data : Expr}
    (hnone : nextValue? effect current data = none) (hstored : effect.isPulse = false) :
    effect = .ignore := by
  cases effect with
  | ignore => rfl
  | pulse level => cases hstored
  | _ => cases hnone

theorem getLsbD_pulsePattern {effect : WriteEffect} {data : Expr} {context : Nat}
    (hpulse : effect.isPulse = true) (hj : j < context) (hword : j < 128) :
    ((pulsePattern effect data).eval widths e context).getLsbD j =
      effect.pulseBit ((data.eval widths e context).getLsbD j) := by
  cases effect with
  | pulse level =>
    cases level with
    | high => rfl
    | low =>
      simp only [pulsePattern, Expr.eval, WriteEffect.pulseBit]
      rw [BitVec.getLsbD_and, BitVec.getLsbD_not, Word.getLsbD_lowMask, decide_eq_true hword,
        decide_eq_true hj]
      simp
  | _ => cases hpulse

theorem getLsbD_zero {width context : Nat} :
    ((zero width).eval widths e context).getLsbD j = false := by
  rw [zero, Expr.hex, Expr.eval, BitVec.getLsbD_and, Word.getLsbD_zero, Bool.false_and]

/-! ### Bits of a segment -/

section Segments

variable (hwf : config.WellFormed) (hsignals : Signals config widths)
  (hmem : register ∈ (Layout.ofConfig config).registers) (hsegment : segment ∈ register.segments)

include hwf hmem hsegment

theorem lt_width_of_mem_segment (hin : i ∈ segment.bits) : i < register.width.toNat :=
  (hwf.regular.registers register hmem).segmentsInside segment hsegment i hin

theorem lt_dataWidth_of_mem_segment (hin : i ∈ segment.bits) : i < config.dataWidth.toNat :=
  Nat.lt_of_lt_of_le (lt_width_of_mem_segment hwf hmem hsegment hin)
    (hwf.regular_model.onBus register hmem)

theorem lt_word_of_mem_segment (hin : i ∈ segment.bits) : i < 128 :=
  Nat.lt_of_lt_of_le (lt_dataWidth_of_mem_segment hwf hmem hsegment hin) hwf.dataWidth.2.2

theorem lane_lt_of_mem_segment (hin : i ∈ segment.bits) : i / 8 < config.byteLanes := by
  have hlt := lt_dataWidth_of_mem_segment hwf hmem hsegment hin
  rw [Config.byteLanes]
  omega

theorem high_lt_of_mem_pieces {cut : Bool}
    (hpiece : piece ∈ pieces config.byteLanes segment.bits cut) :
    piece.high < register.width.toNat := by
  obtain ⟨hlow, hle, hhigh⟩ := pieces_inside hpiece
  exact lt_width_of_mem_segment hwf hmem hsegment (BitRange.mem_iff.mpr ⟨by omega, hhigh⟩)

end Segments

/-! ### Updates -/

theorem updates_storageBits {column high low : Nat} {value : Expr} :
    (Stmt.nonblocking column (storageBits register high low) value).Updates
      [storageName register.ident] := by
  apply Stmt.updates_nonblocking
  rw [storageBits, Ref.name_part]
  exact List.mem_singleton_self _

theorem updates_storePiece (hsome : storePiece? config register segment port piece = some s) :
    s.Updates [storageName register.ident] := by
  obtain ⟨value, -, rfl⟩ := Option.map_eq_some_iff.mp hsome
  exact updates_strobed updates_storageBits

theorem updates_pulsePiece {pulse : String} :
    (pulsePiece config register segment pulse port piece).Updates
      [storageName register.ident, pulse] := by
  apply updates_strobed
  apply Stmt.Updates.seq
  · apply Stmt.updates_nonblocking
    rw [Ref.name_part]
    exact List.mem_cons_of_mem _ (List.mem_singleton_self _)
  · exact updates_storageBits.mono
      (List.cons_subset.mpr ⟨List.mem_cons_self, List.nil_subset _⟩)

theorem updates_unwritten : (unwritten segment).Updates (segmentSignals segment) := by
  unfold unwritten
  split
  · next pulse hpulse =>
    exact (Stmt.updates_store (mem_segmentSignals.mpr (Or.inr hpulse))).block
  · exact Stmt.updates_skip

/-- The end of a write: the flag of the segment goes up. -/
def flagStores (segment : Segment) : List Stmt :=
  (segment.writtenFlag.map fun flag => Stmt.store flag (.bit true)).toList

/-- The start of a write to a pulse output where lanes may be left out. -/
def clearStores (segment : Segment) (pulse : String) (port : WritePort) : List Stmt :=
  if port.strobe.isSome then [Stmt.store pulse (zero segment.bits.width)] else []

theorem writeBody_of_stored (hstored : segment.pulsePort = none) :
    writeBody config register segment port =
      .ofList ((pieces config.byteLanes segment.bits port.strobe.isSome).filterMap
        (storePiece? config register segment port) ++ flagStores segment) := by
  unfold writeBody
  rw [hstored]
  rfl

theorem writeBody_of_pulse {pulse : String} (hpulse : segment.pulsePort = some pulse) :
    writeBody config register segment port =
      .ofList (clearStores segment pulse port ++
        (pieces config.byteLanes segment.bits port.strobe.isSome).map
          (pulsePiece config register segment pulse port) ++ flagStores segment) := by
  unfold writeBody
  rw [hpulse]
  rfl

theorem updates_flagStores : ∀ s ∈ flagStores segment, s.Updates segment.writtenFlag.toList := by
  intro s hs
  obtain ⟨flag, hflag, rfl⟩ := Option.map_eq_some_iff.mp (Option.mem_toList.mp hs)
  exact Stmt.updates_store (Option.mem_toList.mpr hflag)

theorem updates_clearStores {pulse : String} :
    ∀ s ∈ clearStores segment pulse port, s.Updates [pulse] := by
  intro s hs
  unfold clearStores at hs
  split at hs
  · rw [List.mem_singleton.mp hs]
    exact Stmt.updates_store (List.mem_singleton_self _)
  · cases hs

theorem updates_storedWrite :
    ∀ s ∈ (pieces config.byteLanes segment.bits port.strobe.isSome).filterMap
        (storePiece? config register segment port) ++ flagStores segment,
      s.Updates (storageName register.ident :: segmentSignals segment) := by
  rw [List.forall_mem_append]
  constructor
  · intro s hs
    obtain ⟨piece, -, hsome⟩ := List.mem_filterMap.mp hs
    exact (updates_storePiece hsome).mono
      (List.cons_subset.mpr ⟨List.mem_cons_self, List.nil_subset _⟩)
  · intro s hs
    refine (updates_flagStores s hs).mono fun flag hflag => ?_
    exact List.mem_cons_of_mem _ (mem_segmentSignals.mpr (Or.inl (Option.mem_toList.mp hflag)))

theorem updates_pulseWrite {pulse : String} (hpulse : segment.pulsePort = some pulse) :
    ∀ s ∈ clearStores segment pulse port ++
        (pieces config.byteLanes segment.bits port.strobe.isSome).map
          (pulsePiece config register segment pulse port) ++ flagStores segment,
      s.Updates (storageName register.ident :: segmentSignals segment) := by
  have hname : pulse ∈ storageName register.ident :: segmentSignals segment :=
    List.mem_cons_of_mem _ (mem_segmentSignals.mpr (Or.inr hpulse))
  have hpulseOnly := List.cons_subset.mpr ⟨hname, List.nil_subset _⟩
  rw [List.forall_mem_append, List.forall_mem_append, List.forall_mem_map]
  refine ⟨⟨fun s hs => ?_, fun piece _ => ?_⟩, fun s hs => ?_⟩
  · exact (updates_clearStores s hs).mono hpulseOnly
  · exact updates_pulsePiece.mono (List.cons_subset.mpr ⟨List.mem_cons_self, hpulseOnly⟩)
  · refine (updates_flagStores s hs).mono fun flag hflag => ?_
    exact List.mem_cons_of_mem _ (mem_segmentSignals.mpr (Or.inl (Option.mem_toList.mp hflag)))

/-- A write of a segment assigns the storage of the register, the flag and the pulse output. -/
theorem updates_writeBody :
    (writeBody config register segment port).Updates
      (storageName register.ident :: segmentSignals segment) := by
  cases hpulse : segment.pulsePort with
  | none =>
    rw [writeBody_of_stored hpulse]
    exact Stmt.Updates.ofList updates_storedWrite
  | some pulse =>
    rw [writeBody_of_pulse hpulse]
    exact Stmt.Updates.ofList (updates_pulseWrite hpulse)

theorem updates_busWrite :
    (busWrite config register segment).Updates
      (storageName register.ident :: segmentSignals segment) := by
  apply Stmt.Updates.seq (Stmt.updates_comment _)
  generalize busWritePort config :: extraWritePorts config = ports
  induction ports with
  | nil => exact updates_unwritten.mono (List.subset_cons_self _ _)
  | cons port rest ih => exact updates_writeBody.branch _ ih

/-! ### Stored bits -/

section Stored

variable (hwf : config.WellFormed) (hsignals : Signals config widths)
  (hmem : register ∈ (Layout.ofConfig config).registers) (hsegment : segment ∈ register.segments)

include hwf hsignals hmem hsegment

theorem effect_storageBits_hit {value : Expr} {cut : Bool}
    (hpiece : piece ∈ pieces config.byteLanes segment.bits cut) (hcovers : piece.Covers i) :
    (Stmt.nonblocking 0 (storageBits register piece.high piece.low) value).effect widths e
        (storageName register.ident) i =
      some ((value.evalFor widths e (storageBits register piece.high piece.low)).getLsbD
        (i - piece.low)) := by
  have hhigh := high_lt_of_mem_pieces hwf hmem hsegment hpiece
  rw [storageBits,
    Stmt.effect_part (hsignals.storage register hmem) (pieces_inside hpiece).2.1 hhigh]
  exact if_pos hcovers

theorem effect_storageBits_miss {value : Expr} {cut : Bool}
    (hpiece : piece ∈ pieces config.byteLanes segment.bits cut) (hmiss : ¬ piece.Covers i) :
    (Stmt.nonblocking 0 (storageBits register piece.high piece.low) value).effect widths e
      (storageName register.ident) i = none := by
  have hhigh := high_lt_of_mem_pieces hwf hmem hsegment hpiece
  rw [storageBits,
    Stmt.effect_part (hsignals.storage register hmem) (pieces_inside hpiece).2.1 hhigh]
  exact if_neg hmiss

theorem effects_storePiece_miss {cut : Bool}
    (hpiece : piece ∈ pieces config.byteLanes segment.bits cut) (hmiss : ¬ piece.Covers i) :
    Stmt.effects widths e (storePiece? config register segment port piece).toList
      (storageName register.ident) i = none := by
  apply Stmt.effects_eq_none
  intro s hs
  obtain ⟨value, -, rfl⟩ := Option.map_eq_some_iff.mp (Option.mem_toList.mp hs)
  rw [effect_strobed, effect_storageBits_miss hwf hsignals hmem hsegment hpiece hmiss, ite_self]

theorem effects_storePiece_hit {cut : Bool} (hport : port.Regular config widths)
    (hstored : segment.writeEffect.isPulse = false) (hstores : segment.writeEffect ≠ .ignore)
    (hpiece : piece ∈ pieces config.byteLanes segment.bits cut) (hcovers : piece.Covers i) :
    Stmt.effects widths e (storePiece? config register segment port piece).toList
        (storageName register.ident) i =
      if opensLane widths e port.strobe piece.lane then
        some (segment.writeEffect.bit ((e.value widths (storageName register.ident)).getLsbD i)
          ((e.value widths port.data).getLsbD i))
      else none := by
  have hin := hcovers.mem hpiece
  have hword := lt_word_of_mem_segment hwf hmem hsegment hin
  cases hvalue : nextValue? segment.writeEffect
      (.ref (storageBits register piece.high piece.low))
      (.ref (.part port.data piece.high piece.low config.dataWidth.toNat)) with
  | none => exact absurd (eq_ignore_of_nextValue? hvalue hstored) hstores
  | some value =>
    have hsome : storePiece? config register segment port piece =
        some (strobed port.strobe piece.lane
          (.nonblocking 0 (storageBits register piece.high piece.low) value)) := by
      simp only [storePiece?, hvalue, Option.map_some]
    have hcurrent : (e.read widths (storageBits register piece.high piece.low)).getLsbD
        (i - piece.low) = (e.value widths (storageName register.ident)).getLsbD i :=
      Env.getLsbD_read_part (hsignals.storage register hmem) hcovers.1 hcovers.2 hword
    have hdata : (e.read widths (.part port.data piece.high piece.low
        config.dataWidth.toNat)).getLsbD (i - piece.low) = (e.value widths port.data).getLsbD i :=
      Env.getLsbD_read_part hport.data hcovers.1 hcovers.2 hword
    have hcontext : i - piece.low < max
        ((storageBits register piece.high piece.low).width widths) (value.width widths) := by
      obtain ⟨hlow, hhigh⟩ := hcovers
      rw [storageBits, Ref.width_part (hsignals.storage register hmem) (by omega)]
      omega
    rw [hsome, Option.toList_some, Stmt.effects_singleton, effect_strobed,
      effect_storageBits_hit hwf hsignals hmem hsegment hpiece hcovers, Expr.evalFor,
      getLsbD_nextValue? hvalue hcontext (by omega), Expr.eval, Expr.eval, hcurrent, hdata]

end Stored

/-! ### Pulses -/

/-- What a write of a piece does to the pulse output. -/
def pulseStore (config : Config) (segment : Segment) (pulse : String) (port : WritePort)
    (piece : Piece) : Stmt :=
  .nonblocking 0
    (.part pulse (piece.high - segment.bits.low) (piece.low - segment.bits.low) segment.bits.width)
    (pulsePattern segment.writeEffect
      (.ref (.part port.data piece.high piece.low config.dataWidth.toNat)))

theorem updates_pulseStore {pulse : String} :
    (pulseStore config segment pulse port piece).Updates [pulse] := by
  apply Stmt.updates_nonblocking
  rw [Ref.name_part]
  exact List.mem_singleton_self _

theorem effect_pulsePiece {pulse name : String} :
    (pulsePiece config register segment pulse port piece).effect widths e name i =
      if opensLane widths e port.strobe piece.lane then
        ((Stmt.nonblocking 0 (storageBits register piece.high piece.low)
          (zero (piece.high - piece.low + 1))).effect widths e name i).or
          ((pulseStore config segment pulse port piece).effect widths e name i)
      else none := by
  rw [pulsePiece, effect_strobed]
  rfl

theorem storageName_ne_pulse (hmem : register ∈ (Layout.ofConfig config).registers)
    (hsegment : segment ∈ register.segments) {pulse : String}
    (hpulse : segment.pulsePort = some pulse) : storageName register.ident ≠ pulse := by
  rintro rfl
  exact storageName_not_mem hmem hmem hsegment (mem_segmentSignals.mpr (Or.inr hpulse))

section Pulses

variable (hmem : register ∈ (Layout.ofConfig config).registers)
  (hsegment : segment ∈ register.segments) {pulse : String}
  (hpulse : segment.pulsePort = some pulse)

include hmem hsegment hpulse

theorem effect_pulseStore_storage :
    (pulseStore config segment pulse port piece).effect widths e (storageName register.ident) i =
      none := by
  apply updates_pulseStore.effect_eq_none
  intro hname
  exact storageName_ne_pulse hmem hsegment hpulse (List.mem_singleton.mp hname)

theorem effect_storageBits_pulse {value : Expr} :
    (Stmt.nonblocking 0 (storageBits register piece.high piece.low) value).effect widths e pulse j =
      none := by
  rw [Stmt.effect_nonblocking, storageBits, Ref.name_part]
  exact if_neg fun h => storageName_ne_pulse hmem hsegment hpulse h.1.symm

variable (hsignals : Signals config widths)

include hsignals

theorem effect_pulsePiece_pulse_miss {cut : Bool}
    (hpiece : piece ∈ pieces config.byteLanes segment.bits cut)
    (hmiss : ¬ piece.Covers (segment.bits.low + j)) :
    (pulsePiece config register segment pulse port piece).effect widths e pulse j = none := by
  obtain ⟨hbelow, hle, habove⟩ := pieces_inside hpiece
  have hwidth := hsignals.pulse register hmem segment hsegment pulse hpulse
  have hspan := segment.bits.low_add_width
  have hstore : (pulseStore config segment pulse port piece).effect widths e pulse j = none := by
    rw [pulseStore, Stmt.effect_part hwidth (by omega) (by omega), if_neg]
    rintro ⟨hlow, hhigh⟩
    exact hmiss ⟨by omega, by omega⟩
  rw [effect_pulsePiece, hstore, effect_storageBits_pulse hmem hsegment hpulse]
  exact ite_self _

variable (hwf : config.WellFormed)

include hwf

theorem effect_pulsePiece_storage_hit {cut : Bool}
    (hpiece : piece ∈ pieces config.byteLanes segment.bits cut) (hcovers : piece.Covers i) :
    (pulsePiece config register segment pulse port piece).effect widths e
        (storageName register.ident) i =
      if opensLane widths e port.strobe piece.lane then some false else none := by
  rw [effect_pulsePiece, effect_pulseStore_storage hmem hsegment hpulse,
    effect_storageBits_hit hwf hsignals hmem hsegment hpiece hcovers, Expr.evalFor, getLsbD_zero]
  rfl

theorem effect_pulsePiece_storage_miss {cut : Bool}
    (hpiece : piece ∈ pieces config.byteLanes segment.bits cut) (hmiss : ¬ piece.Covers i) :
    (pulsePiece config register segment pulse port piece).effect widths e
      (storageName register.ident) i = none := by
  rw [effect_pulsePiece, effect_pulseStore_storage hmem hsegment hpulse,
    effect_storageBits_miss hwf hsignals hmem hsegment hpiece hmiss]
  exact ite_self _

theorem effect_pulsePiece_pulse_hit {cut : Bool} (hport : port.Regular config widths)
    (hpiece : piece ∈ pieces config.byteLanes segment.bits cut)
    (hcovers : piece.Covers (segment.bits.low + j)) :
    (pulsePiece config register segment pulse port piece).effect widths e pulse j =
      if opensLane widths e port.strobe piece.lane then
        some (segment.writeEffect.pulseBit
          ((e.value widths port.data).getLsbD (segment.bits.low + j)))
      else none := by
  have hword := lt_word_of_mem_segment hwf hmem hsegment (hcovers.mem hpiece)
  have heffect : segment.writeEffect.isPulse = true := by
    rw [← (hwf.regular.registers register hmem).pulses segment hsegment, hpulse]
    rfl
  obtain ⟨hlow, hhigh⟩ := hcovers
  obtain ⟨hbelow, hle, habove⟩ := pieces_inside hpiece
  have hwidth := hsignals.pulse register hmem segment hsegment pulse hpulse
  have hspan := segment.bits.low_add_width
  have hdata : (e.read widths (.part port.data piece.high piece.low
      config.dataWidth.toNat)).getLsbD (segment.bits.low + j - piece.low) =
        (e.value widths port.data).getLsbD (segment.bits.low + j) :=
    Env.getLsbD_read_part hport.data hlow hhigh hword
  have hindex : j - (piece.low - segment.bits.low) = segment.bits.low + j - piece.low := by omega
  have hstore : (pulseStore config segment pulse port piece).effect widths e
      pulse j = some (segment.writeEffect.pulseBit
        ((e.value widths port.data).getLsbD (segment.bits.low + j))) := by
    rw [pulseStore, Stmt.effect_part hwidth (by omega) (by omega), if_pos ⟨by omega, by omega⟩,
      Expr.evalFor, getLsbD_pulsePattern heffect ?_ (by omega), Expr.eval, hindex, hdata]
    rw [Ref.width_part hwidth (by omega)]
    omega
  rw [effect_pulsePiece, hstore, effect_storageBits_pulse hmem hsegment hpulse]
  rfl

end Pulses

end RegisterFile.Hardware
