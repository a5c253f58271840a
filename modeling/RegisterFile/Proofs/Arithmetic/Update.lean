import RegisterFile.Proofs.Arithmetic.Layout
import RegisterFile.Proofs.Hardware.Pieces

/-!
The update block of a regular layout is calculated without a stop. Its numbers are the bounds of
part selects: the sum that tells a part from the whole of a signal, the bounds of byte lanes, and
in pulse outputs bits counted from the start of a segment.
-/

namespace RegisterFile

open Checked

/-! ### Part selects -/

namespace Verilog.Ref

/-- Whether a part is the whole of a signal; the sum is taken for parts from bit 0 on only. -/
def coversM (high low width : Nat) : Checked Bool :=
  if low = 0 then do return (← add high 1) == width else pure false

def partM (name : String) (high low width : Nat) : Checked Ref := do
  return if ← coversM high low width then ⟨name, .whole⟩
    else if high = low then ⟨name, .bit low⟩
    else ⟨name, .bits high low⟩

theorem partM_eq {name : String} {high low width : Nat} (hhigh : high < 128) :
    partM name high low width = pure (part name high low width) := by
  have hsum : high + 1 < bitLimit := by
    simp only [bitLimit, UInt32.size]
    omega
  unfold partM coversM part
  by_cases hlow : low = 0
  · simp [hlow, add_eq hsum]
  · simp [hlow]

end Verilog.Ref

namespace Hardware

open Verilog

def storageBitsM (register : RegisterLayout) (high low : Nat) : Checked Ref :=
  Ref.partM (storageName register.ident) high low register.width.toNat

/-- A pulse output going back to zero. -/
def endPulseM (segment : Segment) (pulse : String) : Checked Stmt := do
  return .store pulse (zero (← segment.bits.widthM))

/-! ### Reset and hardware writes -/

def resetSegmentM (segment : Segment) : Checked (List Stmt) := do
  return (segment.writtenFlag.map fun flag => Stmt.store flag (.bit false)).toList ++
    (← segment.pulsePort.mapM (endPulseM segment)).toList

def resetRegisterM (register : RegisterLayout) : Checked (List Stmt) := do
  return .store (storageName register.ident) (.hex register.width.toNat register.reset) ::
    (← flatMapM register.segments resetSegmentM)

def hardwareWriteM (register : RegisterLayout) (field : HwField) : Checked Stmt := do
  return .when (.signal s!"{field.stem}_we")
    (.nonblocking 0 (← storageBitsM register field.bits.high field.bits.low)
      (.signal s!"{field.stem}_i"))

def hardwareWritesM (register : RegisterLayout) : Checked (List Stmt) :=
  (register.hwFields.filter HwField.input).mapM (hardwareWriteM register)

/-! ### Bus writes -/

def pieceM (bits : BitRange) (lane : Nat) : Checked (Option Piece) := do
  let low := max bits.low (← mul lane 8)
  let high := min bits.high (← add (← mul lane 8) 7)
  return if low ≤ high then some ⟨lane, high, low⟩ else none

def piecesM (lanes : Nat) (bits : BitRange) (strobed : Bool) : Checked (List Piece) :=
  if strobed then filterMapM (List.range lanes) (pieceM bits) else pure [⟨0, bits.high, bits.low⟩]

def storePieceM (config : Config) (register : RegisterLayout) (segment : Segment)
    (port : WritePort) (piece : Piece) : Checked (Option Stmt) := do
  let target ← storageBitsM register piece.high piece.low
  let data ← Ref.partM port.data piece.high piece.low config.dataWidth.toNat
  return (nextValue? segment.writeEffect (.ref target) (.ref data)).map fun value =>
    strobed port.strobe piece.lane (.nonblocking 0 target value)

def pulsePieceM (config : Config) (register : RegisterLayout) (segment : Segment)
    (pulse : String) (port : WritePort) (piece : Piece) : Checked Stmt := do
  let low := segment.bits.low
  let data ← Ref.partM port.data piece.high piece.low config.dataWidth.toNat
  let target ← Ref.partM pulse (← sub piece.high low) (← sub piece.low low)
    (← segment.bits.widthM)
  let stored ← storageBitsM register piece.high piece.low
  let width ← add (← sub piece.high piece.low) 1
  return strobed port.strobe piece.lane
    (.seq (.nonblocking 0 target (pulsePattern segment.writeEffect (.ref data)))
      (.nonblocking 0 stored (zero width)))

/-- The writes of a segment that pulses. -/
def pulseWritesM (config : Config) (register : RegisterLayout) (segment : Segment)
    (pulse : String) (port : WritePort) (pieces : List Piece) : Checked (List Stmt) := do
  let ended ← endPulseM segment pulse
  return (if port.strobe.isSome then [ended] else []) ++
    (← pieces.mapM (pulsePieceM config register segment pulse port))

def writeBodyM (config : Config) (register : RegisterLayout) (segment : Segment)
    (port : WritePort) : Checked Stmt := do
  let pieces ← piecesM config.byteLanes segment.bits port.strobe.isSome
  let writes ← match segment.pulsePort with
    | some pulse => pulseWritesM config register segment pulse port pieces
    | none => filterMapM pieces (storePieceM config register segment port)
  return .ofList
    (writes ++ (segment.writtenFlag.map fun flag => Stmt.store flag (.bit true)).toList)

def unwrittenM (segment : Segment) : Checked Stmt :=
  match segment.pulsePort with
  | some pulse => do return .block (← endPulseM segment pulse)
  | none => pure .skip

def writeChainM (config : Config) (register : RegisterLayout) (segment : Segment) :
    List WritePort → Checked Stmt
  | [] => unwrittenM segment
  | port :: rest => do
    return .branch (writeCondition register segment port)
      (← writeBodyM config register segment port) (← writeChainM config register segment rest)

def busWriteM (config : Config) (register : RegisterLayout) (segment : Segment) :
    Checked Stmt := do
  return .seq (.comment s!"{segmentLabel register segment}: {segment.type.name}")
    (← writeChainM config register segment (busWritePort config :: extraWritePorts config))

def busWritesM (config : Config) (register : RegisterLayout) : Checked (List Stmt) :=
  (register.segments.filter Segment.swWrite).mapM (busWriteM config register)

/-! ### Effects of reads -/

def segmentReadEffectM (register : RegisterLayout) (segment : Segment) : Checked (Option Stmt) :=
  segment.readEffect.mapM fun effect => do
    let width ← segment.bits.widthM
    let ones ← Word.lowMaskM width
    return .nonblocking 0 (← storageBitsM register segment.bits.high segment.bits.low)
      (match effect with
        | .clear => zero width
        | .set => .hex width ones)

def readEffectsM (config : Config) (register : RegisterLayout) : Checked (List Stmt) := do
  match ← filterMapM register.segments (segmentReadEffectM register) with
  | [] => return []
  | effects =>
    return [.comment s!"{register.name}: read side effect",
      .when (anyRead config register) (.ofList effects)]

/-! ### The block -/

def resetBodyM (layout : Layout) : Checked Stmt := do
  return .ofList (← flatMapM layout.registers resetRegisterM)

def clockBodyM (config : Config) (layout : Layout) : Checked Stmt := do
  return .ofList ((← flatMapM layout.registers hardwareWritesM) ++
    (← flatMapM layout.registers (busWritesM config)) ++
    (← flatMapM layout.registers (readEffectsM config)))

def updateBlockM (config : Config) (layout : Layout) : Checked Item := do
  return (Reset.ofSync config.syncReset).sequential (← resetBodyM layout)
    (.block (← clockBodyM config layout))

variable {config : Config} {layout : Layout} {register : RegisterLayout} {segment : Segment}
  {port : WritePort} {pulse : String}

theorem storageBitsM_eq {high low : Nat} (hhigh : high < 128) :
    storageBitsM register high low = pure (storageBits register high low) :=
  Ref.partM_eq hhigh

theorem endPulseM_eq (hhigh : segment.bits.high < 128) :
    endPulseM segment pulse = pure (.store pulse (zero segment.bits.width)) := by
  rw [endPulseM, BitRange.widthM_eq hhigh, pure_bind]

theorem resetSegmentM_eq (hhigh : segment.bits.high < 128) :
    resetSegmentM segment = pure (resetSegment segment) := by
  rw [resetSegmentM, optionMapM_eq fun pulse _ => endPulseM_eq hhigh, pure_bind, resetSegment]

theorem resetRegisterM_eq (hregister : register.Regular) :
    resetRegisterM register = pure (resetRegister register) := by
  rw [resetRegisterM, flatMapM_eq fun segment hsegment =>
    resetSegmentM_eq (hregister.segment_high_lt hsegment), pure_bind, resetRegister]

theorem hardwareWritesM_eq (hregister : register.Regular) :
    hardwareWritesM register = pure (hardwareWrites register) := by
  refine mapM_eq_pure fun hw hhw => ?_
  have hhigh := hregister.hw_high_lt (List.mem_of_mem_filter hhw)
  rw [hardwareWriteM, storageBitsM_eq hhigh, pure_bind, hardwareWrite]

/-- Byte lanes of a data width of 32 bits stay within 32 bits. -/
theorem lane_bound {lane : Nat} (hlane : lane < config.byteLanes) : lane * 8 + 7 < bitLimit := by
  have hwidth := config.dataWidth.toNat_lt_size
  simp only [Config.byteLanes, bitLimit, UInt32.size] at *
  omega

theorem piecesM_eq (config : Config) (bits : BitRange) (strobed : Bool) :
    piecesM config.byteLanes bits strobed = pure (pieces config.byteLanes bits strobed) := by
  have hpieces : ∀ lane ∈ List.range config.byteLanes,
      pieceM bits lane = pure (piece? bits lane) := by
    intro lane hlane
    have hsum := lane_bound (List.mem_range.mp hlane)
    have hproduct : lane * 8 < bitLimit := by omega
    rw [pieceM, mul_eq hproduct, pure_bind, pure_bind, add_eq hsum, pure_bind, piece?]
  unfold piecesM pieces
  split
  · exact filterMapM_eq hpieces
  · rfl

theorem storePieceM_eq {piece : Piece} (hhigh : piece.high < 128) :
    storePieceM config register segment port piece =
      pure (storePiece? config register segment port piece) := by
  rw [storePieceM, storageBitsM_eq hhigh, pure_bind, Ref.partM_eq hhigh, pure_bind, storePiece?]

/-- A piece of a segment starts and ends at or behind the segment's start. -/
theorem pulsePieceM_eq {piece : Piece} {cut : Bool} (hhigh : segment.bits.high < 128)
    (hpiece : piece ∈ pieces config.byteLanes segment.bits cut) :
    pulsePieceM config register segment pulse port piece =
      pure (pulsePiece config register segment pulse port piece) := by
  obtain ⟨hstart, hlow, hend⟩ := pieces_inside hpiece
  have hpieceHigh : piece.high < 128 := by omega
  have hshifted : piece.high - segment.bits.low < 128 := by omega
  have hwidth : piece.high - piece.low + 1 < bitLimit := by
    simp only [bitLimit, UInt32.size]
    omega
  rw [pulsePieceM, Ref.partM_eq hpieceHigh, pure_bind, sub_eq (hstart.trans hlow), pure_bind,
    sub_eq hstart, pure_bind, BitRange.widthM_eq hhigh, pure_bind, Ref.partM_eq hshifted, pure_bind,
    storageBitsM_eq hpieceHigh, pure_bind, sub_eq hlow, pure_bind, add_eq hwidth, pure_bind,
    pulsePiece]

theorem pulseWritesM_eq {pieces : List Piece} (hhigh : segment.bits.high < 128)
    (hpieces : ∀ piece ∈ pieces, pulsePieceM config register segment pulse port piece =
      pure (pulsePiece config register segment pulse port piece)) :
    pulseWritesM config register segment pulse port pieces =
      pure ((if port.strobe.isSome then [Stmt.store pulse (zero segment.bits.width)] else []) ++
        pieces.map (pulsePiece config register segment pulse port)) := by
  rw [pulseWritesM, endPulseM_eq hhigh, pure_bind, mapM_eq_pure hpieces, pure_bind]

theorem writeBodyM_eq (hhigh : segment.bits.high < 128) :
    writeBodyM config register segment port = pure (writeBody config register segment port) := by
  have hpieceHigh : ∀ piece ∈ pieces config.byteLanes segment.bits port.strobe.isSome,
      piece.high < 128 := by
    intro piece hpiece
    obtain ⟨-, -, hend⟩ := pieces_inside hpiece
    omega
  rw [writeBodyM, piecesM_eq, pure_bind]
  unfold writeBody
  cases hpulse : segment.pulsePort with
  | some pulse =>
    simp only [pulseWritesM_eq hhigh fun piece hpiece => pulsePieceM_eq hhigh hpiece, pure_bind]
  | none =>
    simp only [filterMapM_eq fun piece hpiece => storePieceM_eq (hpieceHigh piece hpiece),
      pure_bind]

theorem unwrittenM_eq (hhigh : segment.bits.high < 128) :
    unwrittenM segment = pure (unwritten segment) := by
  unfold unwrittenM unwritten
  cases segment.pulsePort with
  | some pulse => simp only [endPulseM_eq hhigh, pure_bind]
  | none => rfl

theorem writeChainM_eq (hhigh : segment.bits.high < 128) (ports : List WritePort) :
    writeChainM config register segment ports =
      pure (writeChain config register segment ports) := by
  induction ports with
  | nil => exact unwrittenM_eq hhigh
  | cons port rest ih => rw [writeChainM, writeBodyM_eq hhigh, pure_bind, ih, pure_bind]; rfl

theorem busWritesM_eq (hregister : register.Regular) :
    busWritesM config register = pure (busWrites config register) := by
  refine mapM_eq_pure fun segment hsegment => ?_
  have hhigh := hregister.segment_high_lt (List.mem_of_mem_filter hsegment)
  rw [busWriteM, writeChainM_eq hhigh, pure_bind, busWrite]

theorem segmentReadEffectM_eq (hhigh : segment.bits.high < 128) :
    segmentReadEffectM register segment = pure (segmentReadEffect? register segment) := by
  refine optionMapM_eq fun effect _ => ?_
  cases effect <;>
    simp only [BitRange.widthM_eq hhigh, Word.lowMaskM_eq, storageBitsM_eq hhigh, pure_bind]

theorem readEffectsM_eq (hregister : register.Regular) :
    readEffectsM config register = pure (readEffects config register) := by
  rw [readEffectsM, filterMapM_eq fun segment hsegment =>
    segmentReadEffectM_eq (hregister.segment_high_lt hsegment), pure_bind, readEffects]
  cases register.segments.filterMap (segmentReadEffect? register) <;> rfl

/-- The update block of a regular layout is calculated without a stop. -/
theorem updateBlockM_eq (hlayout : layout.Regular) :
    updateBlockM config layout = pure (updateBlock config layout) := by
  have hregular := hlayout.registers
  rw [updateBlockM, resetBodyM,
    flatMapM_eq fun register hmem => resetRegisterM_eq (hregular register hmem), pure_bind,
    pure_bind, clockBodyM,
    flatMapM_eq fun register hmem => hardwareWritesM_eq (hregular register hmem), pure_bind,
    flatMapM_eq fun register hmem => busWritesM_eq (hregular register hmem), pure_bind,
    flatMapM_eq fun register hmem => readEffectsM_eq (hregular register hmem), pure_bind,
    pure_bind, updateBlock, resetBody, clockBody]

end Hardware

end RegisterFile
