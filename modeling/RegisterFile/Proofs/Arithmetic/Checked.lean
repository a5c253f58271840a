import RegisterFile.Proofs.Layout

/-!
Calculations on machine numbers. Sums, differences and products of widths and bit numbers have to
stay within 32 bits, and a word is shifted by less than 128 bits; what leaves these bounds stops
the calculation. A definition of the register file that calculates has such a form beside it, named
with an M behind, which takes every step with a check. That the two agree says that no step leaves
its bounds. Differences cut off at zero and quotients always have a result and need no check.
-/

namespace RegisterFile

/-- Why a calculation stops. -/
inductive Fault where
  /-- A sum or product has more than 32 bits. -/
  | overflow
  /-- A difference is below zero. -/
  | underflow
  /-- A word is shifted by 128 bits or more. -/
  | shift
  /-- A lock or a magic gate refers to nothing. -/
  | unresolved
  deriving DecidableEq, Repr

/-- A calculation that may stop. -/
abbrev Checked := Except Fault

namespace Checked

def add (a b : Nat) : Checked Nat :=
  if a + b < bitLimit then pure (a + b) else throw .overflow

def sub (a b : Nat) : Checked Nat :=
  if b ≤ a then pure (a - b) else throw .underflow

def mul (a b : Nat) : Checked Nat :=
  if a * b < bitLimit then pure (a * b) else throw .overflow

def shiftLeft (value : Word) (count : Nat) : Checked Word :=
  if count < 128 then pure (value <<< count) else throw .shift

def shiftRight (value : Word) (count : Nat) : Checked Word :=
  if count < 128 then pure (value >>> count) else throw .shift

/-- What is there, where nothing to be found is a fault. -/
def ofOption {α : Type} : Option α → Checked α
  | some a => pure a
  | none => throw .unresolved

variable {α β : Type} {a b count : Nat} {value : Word}

theorem add_eq (h : a + b < bitLimit) : add a b = pure (a + b) :=
  if_pos h

theorem sub_eq (h : b ≤ a) : sub a b = pure (a - b) :=
  if_pos h

theorem mul_eq (h : a * b < bitLimit) : mul a b = pure (a * b) :=
  if_pos h

theorem shiftLeft_eq (h : count < 128) : shiftLeft value count = pure (value.placeAt count) := by
  rw [Word.placeAt, if_neg (Nat.not_le.mpr h)]
  exact if_pos h

theorem shiftRight_eq (h : count < 128) :
    shiftRight value count = pure (value.takeFrom count) := by
  rw [Word.takeFrom, if_neg (Nat.not_le.mpr h)]
  exact if_pos h

/-- A list is worked through without a stop if none of its items stops. -/
theorem mapM_eq_pure {items : List α} {f : α → Checked β} {g : α → β}
    (hitems : ∀ item ∈ items, f item = pure (g item)) :
    items.mapM f = pure (items.map g) := by
  induction items with
  | nil => rfl
  | cons item rest ih =>
    rw [List.mapM_cons, hitems item (List.mem_cons_self ..),
      ih fun other hother => hitems other (List.mem_cons_of_mem _ hother), pure_bind, pure_bind,
      List.map_cons]

theorem foldlM_eq_pure {items : List α} {f : β → α → Checked β} {g : β → α → β}
    (hitems : ∀ item ∈ items, ∀ acc, f acc item = pure (g acc item)) (acc : β) :
    items.foldlM f acc = pure (items.foldl g acc) := by
  induction items generalizing acc with
  | nil => rfl
  | cons item rest ih =>
    rw [List.foldlM_cons, hitems item (List.mem_cons_self ..), pure_bind,
      ih fun other hother => hitems other (List.mem_cons_of_mem _ hother), List.foldl_cons]

/-- Where everything is found, nothing is passed over. -/
theorem mapM_ofOption_eq {items : List α} {f : α → Option β}
    (hitems : ∀ item ∈ items, ∃ b, f item = some b) :
    items.mapM (fun item => ofOption (f item)) = pure (items.filterMap f) := by
  induction items with
  | nil => rfl
  | cons item rest ih =>
    obtain ⟨b, hb⟩ := hitems item (List.mem_cons_self ..)
    rw [List.mapM_cons, hb, ofOption, pure_bind,
      ih fun other hother => hitems other (List.mem_cons_of_mem _ hother), pure_bind,
      List.filterMap_cons_some hb]

theorem optionMapM_eq {item : Option α} {f : α → Checked β} {g : α → β}
    (hitem : ∀ a ∈ item, f a = pure (g a)) : item.mapM f = pure (item.map g) := by
  cases item with
  | none => rfl
  | some a => rw [Option.mapM_some, hitem a rfl, map_pure, Option.map_some]

/-- `List.flatMap`, item by item. -/
def flatMapM (items : List α) (f : α → Checked (List β)) : Checked (List β) := do
  return (← items.mapM f).flatten

/-- `List.filterMap`, item by item. -/
def filterMapM (items : List α) (f : α → Checked (Option β)) : Checked (List β) := do
  return (← items.mapM f).filterMap id

theorem flatMapM_eq {items : List α} {f : α → Checked (List β)} {g : α → List β}
    (hitems : ∀ item ∈ items, f item = pure (g item)) :
    flatMapM items f = pure (items.flatMap g) := by
  rw [flatMapM, mapM_eq_pure hitems, pure_bind, List.flatMap_def]

theorem filterMapM_eq {items : List α} {f : α → Checked (Option β)} {g : α → Option β}
    (hitems : ∀ item ∈ items, f item = pure (g item)) :
    filterMapM items f = pure (items.filterMap g) := by
  rw [filterMapM, mapM_eq_pure hitems, pure_bind, List.filterMap_map, Function.id_comp]

theorem anyM_eq_pure {items : List α} {f : α → Checked Bool} {g : α → Bool}
    (hitems : ∀ item ∈ items, f item = pure (g item)) : items.anyM f = pure (items.any g) := by
  induction items with
  | nil => rfl
  | cons item rest ih =>
    rw [List.anyM_cons, hitems item (List.mem_cons_self ..), pure_bind, List.any_cons]
    cases g item with
    | true => rfl
    | false => exact ih fun other hother => hitems other (List.mem_cons_of_mem _ hother)

/-- `List.modify` with a calculation for the new item. -/
def modifyM (items : List α) (i : Nat) (f : α → Checked α) : Checked (List α) :=
  match items[i]? with
  | some item => do return items.set i (← f item)
  | none => pure items

theorem modifyM_eq {items : List α} {i : Nat} {f : α → Checked α} {g : α → α}
    (hitems : ∀ item ∈ items, f item = pure (g item)) :
    modifyM items i f = pure (items.modify i g) := by
  rw [modifyM, List.modify_eq_set_getElem?]
  cases hitem : items[i]? with
  | none => rfl
  | some item =>
    simp only [hitems item (List.mem_of_getElem? hitem), pure_bind]
    rfl

end Checked

open Checked

/-- `lowMask`: one bit at `width`, less one. -/
def Word.lowMaskM (width : Nat) : Checked Word :=
  if 128 ≤ width then pure (BitVec.allOnes 128)
  else do return (← shiftLeft 1 width) - 1

theorem Word.one_shiftLeft_sub_one {width : Nat} (hwidth : width < 128) :
    ((1 : Word) <<< width) - 1 = lowMask width := by
  have hpower : ((1 : Word) <<< width).toNat = 2 ^ width := by
    rw [BitVec.toNat_shiftLeft, Nat.shiftLeft_eq, show (1 : Word).toNat = 1 from rfl, Nat.one_mul]
    exact Nat.mod_eq_of_lt (Nat.pow_lt_pow_right (by decide) hwidth)
  have hle : (1 : Word) ≤ (1 : Word) <<< width := by
    rw [BitVec.le_def, hpower]
    exact Nat.one_le_two_pow
  have hbelow : (((1 : Word) <<< width) - 1).toNat = 2 ^ width - 1 := by
    rw [BitVec.toNat_sub_of_le hle, hpower]
    rfl
  apply BitVec.eq_of_getLsbD_eq
  intro i hi
  rw [getLsbD_lowMask, BitVec.getLsbD, hbelow, Nat.testBit_two_pow_sub_one, decide_eq_true hi,
    Bool.true_and]

theorem Word.lowMaskM_eq (width : Nat) : lowMaskM width = pure (lowMask width) := by
  unfold lowMaskM
  split
  · next hwide =>
    rw [lowMask, Nat.sub_eq_zero_of_le hwide, BitVec.ushiftRight_zero]
  · next hwidth =>
    have hlt : width < 128 := Nat.lt_of_not_le hwidth
    rw [shiftLeft, if_pos hlt, pure_bind, one_shiftLeft_sub_one hlt]

namespace BitRange

variable {range : BitRange}

def widthM (range : BitRange) : Checked Nat := do
  add (← sub range.high range.low) 1

/-- Bits from 128 on are left out before anything is shifted. -/
def maskM (range : BitRange) : Checked Word :=
  if 128 ≤ range.low then pure 0
  else do shiftLeft (← Word.lowMaskM (← range.widthM)) range.low

theorem widthM_eq (hhigh : range.high < 128) : range.widthM = pure range.width := by
  have hsum : range.high - range.low + 1 < bitLimit := by
    simp only [bitLimit, UInt32.size]
    omega
  rw [widthM, sub_eq range.low_le_high, pure_bind, add_eq hsum, width]

/-- The range of all bit numbers has more bits than its width can say. -/
example : widthM ⟨bitLimit - 1, 0, by decide, by decide⟩ = throw .overflow := by
  decide

theorem maskM_eq (hhigh : range.high < 128) : range.maskM = pure range.mask := by
  have hlow : range.low < 128 := Nat.lt_of_le_of_lt range.low_le_high hhigh
  rw [maskM, if_neg (Nat.not_le.mpr hlow), widthM_eq hhigh, pure_bind, Word.lowMaskM_eq, pure_bind,
    shiftLeft_eq hlow, mask]

end BitRange

end RegisterFile
