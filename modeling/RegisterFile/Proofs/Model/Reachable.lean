import RegisterFile.Proofs.Model.Bits

/-!
States that a register file can reach, and what all of them have in common: a cell for every
register, of the shape of its segments, with values and pulses that use no bit beyond its width.
-/

namespace RegisterFile

/-- What holds of the cell of a register at any time. -/
structure Model.Cell.Fits (register : RegisterLayout) (cell : Model.Cell) : Prop where
  value : cell.value.FitsIn register.width.toNat
  pulse : cell.pulse.FitsIn register.width.toNat
  written : cell.written.length = register.segments.length
  /-- Only segments with a flag are ever marked as written. -/
  flagged : ∀ segment, (segment, true) ∈ register.segments.zip cell.written →
    segment.writtenFlag.isSome

namespace Model

/-- The states that runs from reset go through. -/
inductive Reachable (model : Model) : State → Prop
  | reset : Reachable model model.reset
  | tick {state : State} : Reachable model state → Reachable model (Model.tick state)
  | write {state : State} (address : UInt64) (data strobe : Word) :
    Reachable model state → Reachable model (model.write state address data strobe).1
  | read {state : State} (address : UInt64) :
    Reachable model state → Reachable model (model.read state address).1
  | hwWrite {state after : State} (stem : String) (data : Word) :
    Reachable model state → model.hwWrite? state stem data = some after → Reachable model after

/-- A register holds a cell in a state. -/
def Holds (model : Model) (state : State) (register : RegisterLayout) (cell : Cell) : Prop :=
  ∃ i : Nat, model.layout.registers[i]? = some register ∧ state[i]? = some cell

/-- A cell for every register, each of its shape. -/
structure Fits (model : Model) (state : State) : Prop where
  length : state.length = model.layout.registers.length
  cells : ∀ register cell, model.Holds state register cell → cell.Fits register

variable {model : Model} {state : State} {register other : RegisterLayout} {cell : Cell}

/-! ### Finding cells -/

theorem index_unique {α β : Type} {items : List α} {key : α → β} (hkeys : (items.map key).Nodup)
    {i j : Nat} {a b : α} (hi : items[i]? = some a) (hj : items[j]? = some b)
    (hkey : key a = key b) : i = j := by
  obtain ⟨hia, rfl⟩ := List.getElem?_eq_some_iff.mp hi
  obtain ⟨hjb, rfl⟩ := List.getElem?_eq_some_iff.mp hj
  have hikeys : i < (items.map key).length := by rwa [List.length_map]
  have hjkeys : j < (items.map key).length := by rwa [List.length_map]
  have hsame : (items.map key)[i] = (items.map key)[j] := by
    rw [List.getElem_map, List.getElem_map, hkey]
  exact hkeys.getElem_inj_iff.mp hsame

theorem Holds.mem (hholds : model.Holds state register cell) :
    register ∈ model.layout.registers := by
  obtain ⟨i, hregister, -⟩ := hholds
  exact List.mem_of_getElem? hregister

theorem Fits.exists_holds (hfits : model.Fits state) (hmem : register ∈ model.layout.registers) :
    ∃ cell, model.Holds state register cell := by
  obtain ⟨i, hi, rfl⟩ := List.mem_iff_getElem.mp hmem
  have hstate : i < state.length := by
    rw [hfits.length]
    exact hi
  exact ⟨state[i], i, List.getElem?_eq_getElem hi, List.getElem?_eq_getElem hstate⟩

theorem Holds.unique (hregular : model.layout.Regular) {otherCell : Cell}
    (hholds : model.Holds state register cell) (hother : model.Holds state other otherCell)
    (hident : register.ident = other.ident) : register = other ∧ cell = otherCell := by
  obtain ⟨i, hregister, hcell⟩ := hholds
  obtain ⟨j, hotherRegister, hotherCell⟩ := hother
  obtain rfl := index_unique hregular.identsDistinct hregister hotherRegister hident
  rw [hregister] at hotherRegister
  rw [hcell] at hotherCell
  exact ⟨Option.some.inj hotherRegister, Option.some.inj hotherCell⟩

/-- The cell of an identifier is that of the one register with it. -/
theorem cellOf?_eq_some_iff (hregular : model.layout.Regular) {ident : String} :
    model.cellOf? state ident = some cell ↔
      ∃ register, model.Holds state register cell ∧ register.ident = ident := by
  have hholds {entry : RegisterLayout × Cell} :
      entry ∈ (model.layout.registers.zip state).reverse ↔ model.Holds state entry.1 entry.2 := by
    rw [List.mem_reverse, List.mem_iff_getElem?]
    exact exists_congr fun i => List.getElem?_zip_eq_some
  simp only [cellOf?, Option.map_eq_some_iff]
  constructor
  · rintro ⟨⟨found, _⟩, hfound, rfl⟩
    have hident := List.find?_some hfound
    exact ⟨found, hholds.mp (List.mem_of_find?_eq_some hfound), beq_iff_eq.mp hident⟩
  · rintro ⟨register, hregister, rfl⟩
    have hsome : ((model.layout.registers.zip state).reverse.find? fun entry =>
        entry.1.ident == register.ident).isSome = true :=
      List.find?_isSome.mpr ⟨(register, cell), hholds.mpr hregister, beq_self_eq_true _⟩
    obtain ⟨found, hfound⟩ := Option.isSome_iff_exists.mp hsome
    have hident := List.find?_some hfound
    obtain ⟨-, hcell⟩ := Holds.unique hregular (hholds.mp (List.mem_of_find?_eq_some hfound))
      hregister (beq_iff_eq.mp hident)
    exact ⟨found, hfound, hcell⟩

theorem indexAt?_eq_none_iff {address : UInt64} :
    model.indexAt? address = none ↔
      ∀ register ∈ model.layout.registers, register.address ≠ address := by
  simp [indexAt?, List.findIdx?_eq_none_iff]

theorem indexAt?_eq_some_iff (hregular : model.layout.Regular) {address : UInt64} {i : Nat} :
    model.indexAt? address = some i ↔
      ∃ register, model.layout.registers[i]? = some register ∧ register.address = address := by
  have hfound {j : Nat} (hj : model.indexAt? address = some j) :
      ∃ register, model.layout.registers[j]? = some register ∧ register.address = address := by
    obtain ⟨hlt, haddress, -⟩ := List.findIdx?_eq_some_iff_getElem.mp hj
    exact ⟨_, List.getElem?_eq_getElem hlt, beq_iff_eq.mp haddress⟩
  constructor
  · exact hfound
  · rintro ⟨register, hregister, haddress⟩
    cases hindex : model.indexAt? address with
    | none =>
      exact absurd haddress
        (indexAt?_eq_none_iff.mp hindex register (List.mem_of_getElem? hregister))
    | some j =>
      obtain ⟨found, hj, hfoundAddress⟩ := hfound hindex
      rw [index_unique hregular.addressesDistinct hregister hj
        (haddress.trans hfoundAddress.symm)]

/-- Every segment has a flag in the cell. -/
theorem Cell.Fits.exists_entry (hcell : cell.Fits register) {segment : Segment}
    (hsegment : segment ∈ register.segments) :
    ∃ written, (segment, written) ∈ register.segments.zip cell.written := by
  obtain ⟨j, hj, rfl⟩ := List.mem_iff_getElem.mp hsegment
  have hwritten : j < cell.written.length := by
    rw [hcell.written]
    exact hj
  refine ⟨cell.written[j], List.mem_iff_getElem?.mpr ⟨j, ?_⟩⟩
  exact List.getElem?_zip_eq_some.mpr
    ⟨List.getElem?_eq_getElem hj, List.getElem?_eq_getElem hwritten⟩

/-! ### What steps preserve -/

theorem Cell.Fits.resetCell (hregister : register.Regular) :
    (Model.resetCell register).Fits register where
  value := hregister.reset
  pulse := Word.fitsIn_zero _
  written := List.length_map _
  flagged := by
    intro segment hmem
    obtain ⟨i, hentry⟩ := List.mem_iff_getElem?.mp hmem
    obtain ⟨-, hwritten⟩ := List.getElem?_zip_eq_some.mp hentry
    simp only [Model.resetCell, List.getElem?_map, Option.map_eq_some_iff] at hwritten
    obtain ⟨_, _, hfalse⟩ := hwritten
    cases hfalse

theorem Cell.Fits.tick (hcell : cell.Fits register) :
    Cell.Fits register { cell with pulse := 0 } :=
  { hcell with pulse := Word.fitsIn_zero _ }

theorem Cell.Fits.withValue (hcell : cell.Fits register) {value : Word}
    (hvalue : value.FitsIn register.width.toNat) :
    Cell.Fits register { cell with value } :=
  { hcell with value := hvalue }

theorem Cell.Fits.afterRead (hcell : cell.Fits register) (segments : List Segment) :
    Cell.Fits register
      { cell with value := segments.foldl (Model.afterRead register) cell.value } := by
  apply hcell.withValue
  have hvalue := hcell.value
  generalize cell.value = value at hvalue
  induction segments generalizing value with
  | nil => exact hvalue
  | cons segment rest ih =>
    apply ih
    intro i hi
    have hfull := register.fitsIn_fullMask i hi
    simp only [Model.afterRead]
    split <;> simp only [BitVec.getLsbD_and, BitVec.getLsbD_or, hvalue i hi, hfull,
      Bool.false_and, Bool.and_false, Bool.or_false]

theorem Cell.Fits.writeCell (hcell : cell.Fits register) (data lanes : Word) :
    (model.writeCell state register data lanes cell).Fits register := by
  have hmiss {i : Nat} (hi : register.width.toNat ≤ i) :
      ∀ entry ∈ register.segments.zip cell.written,
        model.isOpen state entry.1 entry.2 = true →
          (writeMask register lanes entry.1).getLsbD i = false := by
    intro entry _ _
    rw [writeMask, BitVec.getLsbD_and, register.fitsIn_fullMask i hi, Bool.and_false]
  have hbits {i : Nat} (hi : register.width.toNat ≤ i) :=
    foldl_writeSegment_miss data _ ⟨cell.value, 0⟩ (hmiss hi)
  refine ⟨fun i hi => ?_, fun i hi => ?_, ?_, ?_⟩
  · exact (hbits hi).1.trans (hcell.value i hi)
  · exact (hbits hi).2.trans (Word.fitsIn_zero _ i hi)
  · rw [Model.writeCell, List.length_map, List.length_zip, hcell.written, Nat.min_self]
  · intro segment hmem
    obtain ⟨i, hentry⟩ := List.mem_iff_getElem?.mp hmem
    obtain ⟨hsegment, hflag⟩ := List.getElem?_zip_eq_some.mp hentry
    simp only [Model.writeCell, List.getElem?_map, Option.map_eq_some_iff] at hflag
    obtain ⟨⟨found, written⟩, hfound, hset⟩ := hflag
    obtain ⟨hfoundSegment, hwritten⟩ := List.getElem?_zip_eq_some.mp hfound
    obtain rfl : found = segment := Option.some.inj (hfoundSegment.symm.trans hsegment)
    cases written with
    | true => exact hcell.flagged found (List.mem_of_getElem? hfound)
    | false =>
      simp only [Bool.false_or, Bool.and_eq_true] at hset
      exact hset.1

theorem fits_reset (hregular : model.layout.Regular) : model.Fits model.reset where
  length := List.length_map _
  cells := by
    rintro register cell ⟨i, hregister, hcell⟩
    simp only [reset, List.getElem?_map, hregister, Option.map_some, Option.some.injEq] at hcell
    rw [← hcell]
    exact Cell.Fits.resetCell (hregular.registers register (List.mem_of_getElem? hregister))

theorem Fits.tick (hfits : model.Fits state) : model.Fits (tick state) where
  length := (List.length_map _).trans hfits.length
  cells := by
    rintro register cell ⟨i, hregister, hcell⟩
    simp only [Model.tick, List.getElem?_map, Option.map_eq_some_iff] at hcell
    obtain ⟨before, hbefore, rfl⟩ := hcell
    exact (hfits.cells register before ⟨i, hregister, hbefore⟩).tick

theorem Fits.modify (hfits : model.Fits state) {index : Nat} {change : Cell → Cell}
    (hchange : ∀ register cell, model.layout.registers[index]? = some register →
      cell.Fits register → (change cell).Fits register) :
    model.Fits (state.modify index change) where
  length := (List.length_modify _ _ _).trans hfits.length
  cells := by
    rintro register cell ⟨i, hregister, hcell⟩
    rw [List.getElem?_modify, Option.map_eq_map, Option.map_eq_some_iff] at hcell
    obtain ⟨before, hbefore, rfl⟩ := hcell
    have hfit := hfits.cells register before ⟨i, hregister, hbefore⟩
    split
    · next hindex => exact hchange register before (hindex ▸ hregister) hfit
    · exact hfit

theorem set_eq_modify {index : Nat} (change : Cell → Cell) (hcell : state[index]? = some cell) :
    state.set index (change cell) = state.modify index change := by
  rw [List.modify_eq_set_getElem?, hcell]
  rfl

theorem Fits.write (hfits : model.Fits state) (address : UInt64) (data strobe : Word) :
    model.Fits (model.write state address data strobe).1 := by
  unfold Model.write
  split
  · exact hfits.tick
  · split
    · exact hfits.tick
    · next register hregister =>
      refine hfits.tick.modify fun found cell hfound hcell => ?_
      obtain rfl : register = found := Option.some.inj (hregister.symm.trans hfound)
      exact hcell.writeCell _ _

theorem Fits.read (hfits : model.Fits state) (address : UInt64) :
    model.Fits (model.read state address).1 := by
  unfold Model.read
  cases model.indexAt? address with
  | none => exact hfits.tick
  | some index =>
    dsimp only
    split
    · next register cell hregister hcell =>
      rw [set_eq_modify (fun cell =>
        { cell with value := register.segments.foldl (afterRead register) cell.value }) hcell]
      refine hfits.tick.modify fun found cell hfound hfit => ?_
      obtain rfl : register = found := Option.some.inj (hregister.symm.trans hfound)
      exact hfit.afterRead _
    · exact hfits.tick

theorem Fits.hwWrite (hregular : model.layout.Regular) (hfits : model.Fits state) {after : State}
    {stem : String} {data : Word} (hwrite : model.hwWrite? state stem data = some after) :
    model.Fits after := by
  obtain ⟨index, -, hwrite⟩ := Option.bind_eq_some_iff.mp hwrite
  obtain ⟨register, hregister, hwrite⟩ := Option.bind_eq_some_iff.mp hwrite
  obtain ⟨hw, hinput, hafter⟩ := Option.bind_eq_some_iff.mp hwrite
  obtain rfl := Option.some.inj hafter
  refine hfits.modify fun found cell hfound hcell => hcell.withValue fun i hi => ?_
  obtain rfl : register = found := Option.some.inj (hregister.symm.trans hfound)
  have hinside := (hregular.registers register (List.mem_of_getElem? hregister)).hwInside hw
    (List.mem_of_find?_eq_some hinput)
  have hmask : hw.bits.mask.getLsbD i = false := by
    by_contra hset
    have hset := Bool.eq_true_of_not_eq_false hset
    have hin := hinside i ((BitRange.getLsbD_mask_iff (BitVec.lt_of_getLsbD hset)).mp hset)
    omega
  rw [Word.getLsbD_overlay, hmask, if_neg Bool.false_ne_true, hcell.value i hi]

/-- Every reachable state fits its register file. -/
theorem Reachable.fits (hregular : model.layout.Regular) (hreachable : model.Reachable state) :
    model.Fits state := by
  induction hreachable with
  | reset => exact fits_reset hregular
  | tick _ ih => exact ih.tick
  | write address data strobe _ ih => exact ih.write address data strobe
  | read address _ ih => exact ih.read address
  | hwWrite stem data _ hwrite ih => exact ih.hwWrite hregular hwrite

end Model

end RegisterFile
