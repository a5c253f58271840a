import RegisterFile.Proofs.Lockstep.Matches
import RegisterFile.Proofs.Model.Step

/-!
Runs in lockstep. Models of matching registers, asked the same things, answer the same and show the
same: each operation preserves that registers of one identifier hold the same value and pulses, and
that segments with a common bit have been written alike.
-/

namespace RegisterFile

namespace Model

/-- Regular models of matching registers, with the inputs of hardware told apart. -/
structure Comparable (model other : Model) : Prop extends model.Matches other where
  regular : model.Regular
  otherRegular : other.Regular
  stems : model.StemsDistinct
  otherStems : other.StemsDistinct

/-- Cells of matching registers that hold the same. -/
structure Cell.Alike (register other : RegisterLayout) (cell otherCell : Cell) : Prop where
  value : cell.value = otherCell.value
  pulse : cell.pulse = otherCell.pulse
  /-- Segments with a common bit have been written alike. -/
  written : ∀ segment was otherSegment otherWas i,
    (segment, was) ∈ register.segments.zip cell.written →
    (otherSegment, otherWas) ∈ other.segments.zip otherCell.written →
    i ∈ segment.bits → i ∈ otherSegment.bits → was = otherWas

/-- States in which registers of one identifier hold the same. -/
structure Alike (model other : Model) (state otherState : State) : Prop where
  fits : model.Fits state
  otherFits : other.Fits otherState
  cells : ∀ register cell otherRegister otherCell, model.Holds state register cell →
    other.Holds otherState otherRegister otherCell → register.ident = otherRegister.ident →
    Cell.Alike register otherRegister cell otherCell

variable {model other : Model} {state otherState : State}
  {register otherRegister : RegisterLayout} {cell otherCell : Cell}
  {segment otherSegment : Segment}

theorem Comparable.symm (hmodel : model.Comparable other) : other.Comparable model where
  toMatches := hmodel.toMatches.symm
  regular := hmodel.otherRegular
  otherRegular := hmodel.regular
  stems := hmodel.otherStems
  otherStems := hmodel.stems

/-- A model is comparable with a regular one that it matches if its registers are regular. -/
theorem Matches.comparable (hmatches : model.Matches other) (hmodel : model.Regular)
    (hstems : model.StemsDistinct)
    (hothers : ∀ register ∈ other.layout.registers, register.Regular) :
    model.Comparable other where
  toMatches := hmatches
  regular := hmodel
  otherRegular := hmatches.regular hmodel hothers
  stems := hstems
  otherStems := hmatches.stemsDistinct (hmatches.regular hmodel hothers) hstems

theorem Cell.Alike.symm (hcells : Cell.Alike register otherRegister cell otherCell) :
    Cell.Alike otherRegister register otherCell cell where
  value := hcells.value.symm
  pulse := hcells.pulse.symm
  written := fun _ _ _ _ _ hsegment hother hin hotherIn =>
    (hcells.written _ _ _ _ _ hother hsegment hotherIn hin).symm

theorem Alike.symm (halike : model.Alike other state otherState) :
    other.Alike model otherState state where
  fits := halike.otherFits
  otherFits := halike.fits
  cells := fun _ _ _ _ hholds hother hident =>
    (halike.cells _ _ _ _ hother hholds hident.symm).symm

/-! ### Gates -/

section

variable (hmodel : model.Comparable other) (halike : model.Alike other state otherState)

include hmodel halike

theorem Alike.exists_holds (hholds : model.Holds state register cell) :
    ∃ otherRegister otherCell, register.Matches otherRegister ∧
      other.Holds otherState otherRegister otherCell ∧
      Cell.Alike register otherRegister cell otherCell := by
  obtain ⟨otherRegister, hmem, hregister⟩ := hmodel.registers.exists_of_mem hholds.mem
  obtain ⟨otherCell, hother⟩ := halike.otherFits.exists_holds hmem
  exact ⟨otherRegister, otherCell, hregister, hother,
    halike.cells _ _ _ _ hholds hother hregister.ident⟩

theorem Alike.hasValue {ident : String} {value : Word}
    (hvalue : model.HasValue state ident value) : other.HasValue otherState ident value := by
  obtain ⟨register, cell, hholds, rfl, rfl⟩ := hvalue
  obtain ⟨otherRegister, otherCell, hregister, hother, hcells⟩ :=
    halike.exists_holds hmodel hholds
  exact ⟨otherRegister, otherCell, hother, hregister.ident.symm, hcells.value.symm⟩

theorem Alike.hasValue_iff {ident : String} {value : Word} :
    model.HasValue state ident value ↔ other.HasValue otherState ident value :=
  ⟨halike.hasValue hmodel, halike.symm.hasValue hmodel.symm⟩

theorem Alike.locked_iff (hsegment : segment.Matches otherSegment) :
    model.Locked state segment ↔ other.Locked otherState otherSegment := by
  simp only [Locked, hsegment.locks, halike.hasValue_iff hmodel]

theorem Alike.admits (hsegment : segment.Matches otherSegment) {written : Bool}
    (hadmits : model.Admits state segment written) :
    other.Admits otherState otherSegment written where
  writable := hsegment.swWrite ▸ hadmits.writable
  unlocked := (not_congr (halike.locked_iff hmodel hsegment)).mp hadmits.unlocked
  ungated := fun gate hgate =>
    halike.hasValue hmodel (hadmits.ungated gate ((hsegment.gates gate).mpr hgate))
  fresh := hadmits.fresh

theorem Alike.admits_iff (hsegment : segment.Matches otherSegment) {written : Bool} :
    model.Admits state segment written ↔ other.Admits otherState otherSegment written :=
  ⟨halike.admits hmodel hsegment, halike.symm.admits hmodel.symm hsegment.symm⟩

/-! ### Writes -/

theorem Alike.reaches (hregister : register.Matches otherRegister)
    (hother : otherCell.Fits otherRegister)
    (hcells : Cell.Alike register otherRegister cell otherCell) {strobe : Word} {i : Nat}
    (hreaches : model.Reaches state register cell strobe segment i) :
    ∃ otherSegment, segment.Matches otherSegment ∧
      other.Reaches otherState otherRegister otherCell strobe otherSegment i := by
  obtain ⟨written, hentry, hadmits, hin, henables⟩ := hreaches
  obtain ⟨otherSegment, hmem, hotherIn, hsegment⟩ :=
    hregister.covers segment (List.of_mem_zip hentry).1 i hin
  obtain ⟨otherWritten, hotherEntry⟩ := hother.exists_entry hmem
  obtain rfl := hcells.written _ _ _ _ i hentry hotherEntry hin hotherIn
  have hbyte : model.byteEnable = other.byteEnable := by rw [← hmodel.rest]
  exact ⟨otherSegment, hsegment, written, hotherEntry, halike.admits hmodel hsegment hadmits,
    hotherIn, fun hotherByte => henables (hbyte.trans hotherByte)⟩

/-- A write leaves cells that hold the same. -/
theorem Alike.cellWritten (hregister : register.Matches otherRegister)
    (hotherRegular : otherRegister.Regular) (hfits : cell.Fits register)
    (hotherFits : otherCell.Fits otherRegister)
    (hcells : Cell.Alike register otherRegister cell otherCell) {data strobe : Word}
    {after otherAfter : Cell} (hwritten : model.CellWritten state register cell data strobe after)
    (hother : other.CellWritten otherState otherRegister otherCell data strobe otherAfter) :
    Cell.Alike register otherRegister after otherAfter := by
  have hbits (i : Nat) : after.value.getLsbD i = otherAfter.value.getLsbD i ∧
      after.pulse.getLsbD i = otherAfter.pulse.getLsbD i := by
    by_cases hany : ∃ segment, model.Reaches state register cell strobe segment i
    · obtain ⟨segment, hreaches⟩ := hany
      obtain ⟨otherSegment, hsegment, hotherReaches⟩ :=
        halike.reaches hmodel hregister hotherFits hcells hreaches
      obtain ⟨hvalue, hpulse⟩ := hwritten.reached segment i hreaches
      obtain ⟨hotherValue, hotherPulse⟩ := hother.reached otherSegment i hotherReaches
      rw [hvalue, hotherValue, hpulse, hotherPulse, hsegment.type, hcells.value]
      exact ⟨rfl, rfl⟩
    · have hnone : ∀ otherSegment,
          ¬ other.Reaches otherState otherRegister otherCell strobe otherSegment i := by
        intro otherSegment hreaches
        obtain ⟨segment, -, hreaches⟩ := halike.symm.reaches hmodel.symm hregister.symm hfits
          hcells.symm hreaches
        exact hany ⟨segment, hreaches⟩
      obtain ⟨hvalue, hpulse⟩ := hwritten.kept i fun segment hreaches => hany ⟨segment, hreaches⟩
      obtain ⟨hotherValue, hotherPulse⟩ := hother.kept i hnone
      rw [hvalue, hotherValue, hpulse, hotherPulse, hcells.value]
      exact ⟨rfl, rfl⟩
  refine ⟨BitVec.eq_of_getLsbD_eq fun i _ => (hbits i).1,
    BitVec.eq_of_getLsbD_eq fun i _ => (hbits i).2, ?_⟩
  intro segment now otherSegment otherNow i hentry hotherEntry hin hotherIn
  obtain ⟨was, hwas, hnow⟩ := hwritten.exists_before hfits.written hentry
  obtain ⟨otherWas, hotherWas, hotherNow⟩ := hother.exists_before hotherFits.written hotherEntry
  obtain rfl := hcells.written _ _ _ _ i hwas hotherWas hin hotherIn
  -- The bit has one segment on the other side, so it is the one that matches.
  obtain ⟨found, hfound, hfoundIn, hsegment⟩ :=
    hregister.covers segment (List.of_mem_zip hentry).1 i hin
  obtain rfl := hotherRegular.segment_eq hfound (List.of_mem_zip hotherEntry).1 hfoundIn hotherIn
  rw [Bool.eq_iff_iff, hnow, hotherNow, hsegment.type, halike.admits_iff hmodel hsegment]

theorem Alike.write (address : UInt64) (data strobe : Word) :
    model.Alike other (model.write state address data strobe).1
      (other.write otherState address data strobe).1 where
  fits := halike.fits.write address data strobe
  otherFits := halike.otherFits.write address data strobe
  cells := by
    intro register after otherRegister otherAfter hafter hotherAfter hident
    obtain ⟨cell, hcell, helsewhere, hhere⟩ := holds_write hmodel.regular halike.fits hafter
    obtain ⟨otherCell, hotherCell, hotherElsewhere, hotherHere⟩ :=
      holds_write hmodel.otherRegular halike.otherFits hotherAfter
    have hregister := hmodel.of_ident hmodel.otherRegular hcell.mem hotherCell.mem hident
    have hcells := halike.cells _ _ _ _ hcell hotherCell hident
    by_cases haddress : register.address = address
    · exact halike.cellWritten hmodel hregister
        (hmodel.otherRegular.layout.registers _ hotherCell.mem) (halike.fits.cells _ _ hcell)
        (halike.otherFits.cells _ _ hotherCell) hcells (hhere haddress)
        (hotherHere (hregister.address ▸ haddress))
    · rw [helsewhere haddress, hotherElsewhere (hregister.address ▸ haddress)]
      exact { hcells with pulse := rfl }

theorem Alike.slaveError (address : UInt64) (data strobe : Word)
    (herror : (model.write state address data strobe).2 = .slaveError) :
    (other.write otherState address data strobe).2 = .slaveError := by
  have hanswer := (written_write hmodel.regular halike.fits address data strobe).answer
  have hotherAnswer := (written_write hmodel.otherRegular halike.otherFits address data strobe).answer
  obtain ⟨hslverr, hcause⟩ := hanswer.mp herror
  have hresponse : other.errorResponse = .slverr := by rw [← hmodel.rest]; exact hslverr
  refine hotherAnswer.mpr ⟨hresponse, hcause.imp ?_ ?_⟩
  · intro hnone otherRegister hmem
    obtain ⟨register, hregisterMem, hregister⟩ := hmodel.registers.exists_of_mem_others hmem
    exact hregister.address ▸ hnone register hregisterMem
  · rintro ⟨hlockError, register, hmem, haddress, segment, hsegmentMem, hwritable, hlocked⟩
    obtain ⟨otherRegister, hotherMem, hregister⟩ := hmodel.registers.exists_of_mem hmem
    obtain ⟨otherSegment, hotherSegment, hsegment⟩ := hregister.covers.exists_segment hsegmentMem
    refine ⟨?_, otherRegister, hotherMem, hregister.address ▸ haddress, otherSegment, hotherSegment,
      hsegment.swWrite ▸ hwritable, (halike.locked_iff hmodel hsegment).mp hlocked⟩
    rw [← hmodel.rest]
    exact hlockError

theorem Alike.write_response (address : UInt64) (data strobe : Word) :
    (model.write state address data strobe).2 =
      (other.write otherState address data strobe).2 := by
  have hforth := halike.slaveError hmodel address data strobe
  have hback := halike.symm.slaveError hmodel.symm address data strobe
  cases hleft : (model.write state address data strobe).2 with
  | slaveError => exact (hforth hleft).symm
  | okay =>
    cases hright : (other.write otherState address data strobe).2 with
    | okay => rfl
    | slaveError => rw [hback hright] at hleft; cases hleft

/-! ### Reads -/

theorem Alike.read (address : UInt64) :
    model.Alike other (model.read state address).1 (other.read otherState address).1 where
  fits := halike.fits.read address
  otherFits := halike.otherFits.read address
  cells := by
    intro register after otherRegister otherAfter hafter hotherAfter hident
    obtain ⟨cell, hcell, helsewhere, hhere⟩ := holds_read hmodel.regular.layout halike.fits hafter
    obtain ⟨otherCell, hotherCell, hotherElsewhere, hotherHere⟩ :=
      holds_read hmodel.otherRegular.layout halike.otherFits hotherAfter
    have hregister := hmodel.of_ident hmodel.otherRegular hcell.mem hotherCell.mem hident
    have hcells := halike.cells _ _ _ _ hcell hotherCell hident
    by_cases haddress : register.address = address
    · rw [hhere haddress, hotherHere (hregister.address ▸ haddress)]
      refine ⟨foldl_afterRead_of_matches (hmodel.regular.layout.registers _ hcell.mem)
        (hmodel.otherRegular.layout.registers _ hotherCell.mem) hregister
        (halike.fits.cells _ _ hcell) (halike.otherFits.cells _ _ hotherCell) hcells.value, rfl,
        hcells.written⟩
    · rw [helsewhere haddress, hotherElsewhere (hregister.address ▸ haddress)]
      exact { hcells with pulse := rfl }

theorem Alike.read_answer (address : UInt64) :
    (model.read state address).2 = (other.read otherState address).2 := by
  by_cases hknown : ∃ register ∈ model.layout.registers, register.address = address
  · obtain ⟨register, hmem, rfl⟩ := hknown
    obtain ⟨cell, hcell⟩ := halike.fits.exists_holds hmem
    obtain ⟨otherRegister, otherCell, hregister, hotherCell, hcells⟩ :=
      halike.exists_holds hmodel hcell
    rw [Model.read_answer hmodel.regular.layout hcell, hregister.address,
      Model.read_answer hmodel.otherRegular.layout hotherCell, hcells.value, hregister.readMask]
  · have hnone : ∀ register ∈ model.layout.registers, register.address ≠ address :=
      fun register hmem haddress => hknown ⟨register, hmem, haddress⟩
    have hotherNone : ∀ register ∈ other.layout.registers, register.address ≠ address := by
      intro otherRegister hotherMem
      obtain ⟨register, hmem, hregister⟩ := hmodel.registers.exists_of_mem_others hotherMem
      exact hregister.address ▸ hnone register hmem
    rw [read_unknown hnone, read_unknown hotherNone, ← hmodel.rest]
    rfl

end

/-! ### Hardware writes -/

section

variable (hmodel : model.Comparable other)

include hmodel

theorem Comparable.hwInput?_eq (hregister : register.Matches otherRegister)
    (hmem : register ∈ model.layout.registers) (hotherMem : otherRegister ∈ other.layout.registers)
    (stem : String) : hwInput? register stem = hwInput? otherRegister stem := by
  apply Option.ext
  intro hw
  rw [hwInput?_eq_some_iff hmodel.stems hmem, hwInput?_eq_some_iff hmodel.otherStems hotherMem,
    hregister.hwFields]

theorem Comparable.hwWritten {stem : String} {data : Word}
    (hfound : (model.hwWrite? state stem data).isSome = true) :
    (other.hwWrite? otherState stem data).isSome = true := by
  obtain ⟨register, hmem, hsome⟩ := isSome_hwWrite?_iff.mp hfound
  obtain ⟨otherRegister, hotherMem, hregister⟩ := hmodel.registers.exists_of_mem hmem
  rw [hmodel.hwInput?_eq hregister hmem hotherMem] at hsome
  exact isSome_hwWrite?_iff.mpr ⟨otherRegister, hotherMem, hsome⟩

theorem Alike.hwWrite (halike : model.Alike other state otherState) (stem : String)
    (data : Word) : model.Alike other (model.hwWrite state (stem, data))
      (other.hwWrite otherState (stem, data)) where
  fits := fits_hwWrites hmodel.regular.layout halike.fits [(stem, data)]
  otherFits := fits_hwWrites hmodel.otherRegular.layout halike.otherFits [(stem, data)]
  cells := by
    intro register after otherRegister otherAfter hafter hotherAfter hident
    obtain ⟨cell, hcell, rfl⟩ := holds_hwWrite_drive hmodel.regular.layout hmodel.stems hafter
    obtain ⟨otherCell, hotherCell, rfl⟩ :=
      holds_hwWrite_drive hmodel.otherRegular.layout hmodel.otherStems hotherAfter
    have hregister := hmodel.of_ident hmodel.otherRegular hcell.mem hotherCell.mem hident
    have hcells := halike.cells _ _ _ _ hcell hotherCell hident
    rw [drive, drive, hmodel.hwInput?_eq hregister hcell.mem hotherCell.mem stem]
    split
    · exact ⟨by rw [hcells.value], hcells.pulse, hcells.written⟩
    · exact hcells

end

/-! ### Runs -/

theorem Alike.tick (halike : model.Alike other state otherState) :
    model.Alike other (Model.tick state) (Model.tick otherState) where
  fits := halike.fits.tick
  otherFits := halike.otherFits.tick
  cells := by
    intro register after otherRegister otherAfter hafter hotherAfter hident
    obtain ⟨cell, hcell, rfl⟩ := holds_tick_iff.mp hafter
    obtain ⟨otherCell, hotherCell, rfl⟩ := holds_tick_iff.mp hotherAfter
    exact { halike.cells _ _ _ _ hcell hotherCell hident with pulse := rfl }

theorem alike_reset (hmatches : model.Matches other) (hmodel : model.Regular)
    (hother : other.Regular) : model.Alike other model.reset other.reset where
  fits := fits_reset hmodel.layout
  otherFits := fits_reset hother.layout
  cells := by
    intro register cell otherRegister otherCell hcell hotherCell hident
    have hregister := hmatches.of_ident hother hcell.mem hotherCell.mem hident
    obtain rfl := holds_reset hcell
    obtain rfl := holds_reset hotherCell
    refine ⟨hregister.reset, rfl, fun _ was _ otherWas _ hentry hotherEntry _ _ => ?_⟩
    obtain ⟨-, -, rfl⟩ := List.mem_map.mp (List.of_mem_zip hentry).2
    obtain ⟨-, -, rfl⟩ := List.mem_map.mp (List.of_mem_zip hotherEntry).2
    rfl

section

variable (hmodel : model.Comparable other)

include hmodel

/-- An operation on states that are alike leaves states that are alike, with one answer. -/
theorem Alike.perform (halike : model.Alike other state otherState) (operation : Operation) :
    model.Alike other (model.perform state operation) (other.perform otherState operation) ∧
      model.answer state operation = other.answer otherState operation := by
  cases operation with
  | reset => exact ⟨alike_reset hmodel.toMatches hmodel.regular hmodel.otherRegular, rfl⟩
  | tick => exact ⟨halike.tick, rfl⟩
  | write address data strobe =>
    exact ⟨halike.write hmodel address data strobe,
      congrArg Answer.written (halike.write_response hmodel address data strobe)⟩
  | read address =>
    exact ⟨halike.read hmodel address,
      congrArg (fun answer : Word × Response => Answer.data answer.1 answer.2)
        (halike.read_answer hmodel address)⟩
  | hwWrite stem data =>
    exact ⟨halike.hwWrite hmodel stem data, congrArg Answer.hwWritten
      (Bool.eq_iff_iff.mpr ⟨hmodel.hwWritten, hmodel.symm.hwWritten⟩)⟩

/-- So do any operations one after the other. -/
theorem Alike.performAll (operations : List Operation)
    (halike : model.Alike other state otherState) :
    model.Alike other (operations.foldl model.perform state)
        (operations.foldl other.perform otherState) ∧
      model.answers state operations = other.answers otherState operations := by
  induction operations generalizing state otherState with
  | nil => exact ⟨halike, rfl⟩
  | cons operation rest ih =>
    obtain ⟨hafter, hanswer⟩ := halike.perform hmodel operation
    obtain ⟨hlast, hanswers⟩ := ih hafter
    exact ⟨hlast, by rw [answers, answers, hanswer, hanswers]⟩

theorem Alike.exists_cellOf? (halike : model.Alike other state otherState) {ident : String}
    (hcell : model.cellOf? state ident = some cell) :
    ∃ otherCell, other.cellOf? otherState ident = some otherCell ∧
      cell.value = otherCell.value ∧ cell.pulse = otherCell.pulse := by
  obtain ⟨register, hholds, hident⟩ := (cellOf?_eq_some_iff hmodel.regular.layout).mp hcell
  obtain ⟨otherRegister, otherCell, hregister, hother, hcells⟩ := halike.exists_holds hmodel hholds
  exact ⟨otherCell, (cellOf?_eq_some_iff hmodel.otherRegular.layout).mpr
    ⟨otherRegister, hother, hregister.ident.symm.trans hident⟩, hcells.value, hcells.pulse⟩

theorem Alike.cellOf?_shows (halike : model.Alike other state otherState) (ident : String) :
    (model.cellOf? state ident).map (fun cell => (cell.value, cell.pulse)) =
      (other.cellOf? otherState ident).map fun cell => (cell.value, cell.pulse) := by
  cases hcell : model.cellOf? state ident with
  | some cell =>
    obtain ⟨otherCell, hother, hvalue, hpulse⟩ := halike.exists_cellOf? hmodel hcell
    rw [hother, Option.map_some, Option.map_some, hvalue, hpulse]
  | none =>
    cases hother : other.cellOf? otherState ident with
    | none => rfl
    | some otherCell =>
      obtain ⟨cell, hfound, -⟩ := halike.symm.exists_cellOf? hmodel.symm hother
      rw [hfound] at hcell
      cases hcell

end

/-- States of register files that are alike show the same under every name. -/
theorem Alike.shown?_eq {config otherConfig : Config}
    (hmodel : (ofConfig config).Comparable (ofConfig otherConfig))
    (halike : (ofConfig config).Alike (ofConfig otherConfig) state otherState) (name : String) :
    (ofConfig config).shown? state name = (ofConfig otherConfig).shown? otherState name := by
  rw [shown?, shown?, cell?_eq_cellOf? hmodel.regular.layout halike.fits,
    cell?_eq_cellOf? hmodel.otherRegular.layout halike.otherFits]
  exact halike.cellOf?_shows hmodel _

end Model

end RegisterFile
