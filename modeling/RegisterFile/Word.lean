/-!
Register values. A word has 128 bits, the widest register; narrower registers use its low bits.
The main statements give each operation bit by bit.
-/

namespace RegisterFile

/-- A register value: 128 bits, of which a register uses the lowest ones. -/
abbrev Word := BitVec 128

namespace Word

/-- Words stand for the numbers below this bound. -/
def limit : Nat := 1 <<< 128

/-- The word whose low `width` bits are set; from 128 bits on, every bit. -/
def lowMask (width : Nat) : Word :=
  BitVec.allOnes 128 >>> (128 - width)

/-- A right-aligned value moved up to start at bit `low`. Bits past the top are dropped. -/
def placeAt (value : Word) (low : Nat) : Word :=
  if 128 ≤ low then 0 else value <<< low

/-- The bits from `low` on, moved down to be right-aligned. -/
def takeFrom (value : Word) (low : Nat) : Word :=
  if 128 ≤ low then 0 else value >>> low

/-- The bits of `new` where `mask` is set and those of `old` elsewhere. -/
def overlay (mask old new : Word) : Word :=
  (old &&& ~~~mask) ||| (new &&& mask)

@[simp] theorem getLsbD_lowMask (width i : Nat) :
    (lowMask width).getLsbD i = (decide (i < 128) && decide (i < width)) := by
  rw [lowMask, BitVec.getLsbD_ushiftRight, BitVec.getLsbD_allOnes]
  by_cases hi : i < 128 <;> by_cases hwidth : i < width <;> simp [hi, hwidth] <;> omega

@[simp] theorem getLsbD_placeAt (value : Word) (low i : Nat) :
    (placeAt value low).getLsbD i =
      (decide (i < 128) && decide (low ≤ i) && value.getLsbD (i - low)) := by
  unfold placeAt
  split
  · next hlow =>
    by_cases hi : i < 128
    · simp [hi, show ¬ low ≤ i by omega]
    · simp [hi]
  · rw [BitVec.getLsbD_shiftLeft]
    by_cases hi : i < 128 <;> by_cases hle : low ≤ i <;> simp [hi, hle]

@[simp] theorem getLsbD_takeFrom (value : Word) (low i : Nat) :
    (takeFrom value low).getLsbD i = value.getLsbD (low + i) := by
  unfold takeFrom
  split
  · next hlow => simp [BitVec.getLsbD_of_ge value (low + i) (by omega)]
  · rw [BitVec.getLsbD_ushiftRight]

@[simp] theorem getLsbD_overlay (mask old new : Word) (i : Nat) :
    (overlay mask old new).getLsbD i =
      if mask.getLsbD i then new.getLsbD i else old.getLsbD i := by
  by_cases hi : i < 128
  · simp only [overlay, BitVec.getLsbD_or, BitVec.getLsbD_and, BitVec.getLsbD_not, hi,
      decide_true, Bool.true_and]
    cases mask.getLsbD i <;> simp
  · simp [BitVec.getLsbD_of_ge _ i (Nat.le_of_not_lt hi)]

end Word

end RegisterFile
