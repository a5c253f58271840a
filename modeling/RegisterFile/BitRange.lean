import RegisterFile.Text.Blank
import RegisterFile.Text.Numeral
import RegisterFile.Text.Split
import RegisterFile.Word

/-!
Bit ranges. A range holds its highest and its lowest bit, both included, and is never empty;
bit numbers are below `2 ^ 32`. It is written `7:0`, a single bit as its number alone, and it is
read back from that form with or without square brackets.
-/

namespace RegisterFile

/-- Bit numbers and widths are below this bound. -/
def bitLimit : Nat := UInt32.size

/-- A non-empty run of bits, from `low` up to and including `high`. -/
structure BitRange where
  high : Nat
  low : Nat
  low_le_high : low ≤ high
  high_lt : high < bitLimit
  deriving DecidableEq

namespace BitRange

/-- Why a text is no bit range. -/
inductive Error where
  /-- The high bit is below the low bit. -/
  | inverted (high low : Nat)
  /-- The text has none of the accepted forms. -/
  | malformed (text : String)
  deriving DecidableEq, Repr

/-- The wording of an error. -/
def Error.message : Error → String
  | .inverted high low => s!"bit range high bit {high} is below low bit {low}"
  | .malformed text => s!"invalid bit range '{text}'"

/-- The range of two bit numbers, unless they come in the wrong order. -/
def ofBounds (high low : UInt32) : Except Error BitRange :=
  if h : low.toNat ≤ high.toNat then .ok ⟨high.toNat, low.toNat, h, high.toNat_lt_size⟩
  else .error (.inverted high.toNat low.toNat)

/-- A single bit. -/
def bit (n : UInt32) : BitRange :=
  ⟨n.toNat, n.toNat, Nat.le_refl _, n.toNat_lt_size⟩

/-- All bits of a register of `width` bits; bit 0 when the width is zero. -/
def full (width : UInt32) : BitRange :=
  ⟨width.toNat - 1, 0, Nat.zero_le _,
    Nat.lt_of_le_of_lt (Nat.sub_le _ _) width.toNat_lt_size⟩

/-- The number of bits. -/
def width (r : BitRange) : Nat :=
  r.high - r.low + 1

/-- The number of bits with 32 bits to hold it: zero for the range of all bit numbers. -/
def width32 (r : BitRange) : UInt32 :=
  UInt32.ofNat r.width

def isSingle (r : BitRange) : Bool :=
  r.high == r.low

/-- The bits of the range as a word; those from 128 on have no place in it. -/
def mask (r : BitRange) : Word :=
  (Word.lowMask r.width).placeAt r.low

/-- Whether two ranges share a bit. -/
def overlaps (a b : BitRange) : Bool :=
  a.low ≤ b.high && b.low ≤ a.high

/-- Whether the range lies within a register of `width` bits. -/
def fitsIn (r : BitRange) (width : Nat) : Bool :=
  r.high < width

/-- The range as text: `7:0`, or `5` for a single bit. -/
def text (r : BitRange) : String :=
  if r.isSingle then toString r.low else s!"{r.high}:{r.low}"

/-- The range as a select suffix: `[7:0]`, or `[5]` for a single bit. -/
def select (r : BitRange) : String :=
  "[" ++ r.text ++ "]"

/-- One bit number of a written range. -/
def bitOfText? (cs : List Char) : Option UInt32 :=
  (Numeral.ofUnsigned? 10 bitLimit (Text.trim cs)).map UInt32.ofNat

/-- Reads `n`, `high:low` or either of them in square brackets. -/
def ofText (text : String) : Except Error BitRange :=
  let inner := Text.unbracket '[' ']' (Text.trim text.toList)
  let number (cs : List Char) : Except Error UInt32 :=
    match bitOfText? cs with
    | some n => .ok n
    | none => .error (.malformed text)
  match Text.splitOnce ':' inner with
  | some (high, low) => do ofBounds (← number high) (← number low)
  | none => do return bit (← number inner)

theorem getLsbD_mask (r : BitRange) (i : Nat) :
    r.mask.getLsbD i = (decide (i < 128) && decide (r.low ≤ i) && decide (i ≤ r.high)) := by
  have hle := r.low_le_high
  rw [mask, Word.getLsbD_placeAt, Word.getLsbD_lowMask, width]
  rw [Bool.eq_iff_iff]
  simp only [Bool.and_eq_true, decide_eq_true_eq]
  omega

theorem width_pos (r : BitRange) : 0 < r.width :=
  Nat.succ_pos _

theorem low_add_width (r : BitRange) : r.low + r.width = r.high + 1 := by
  have hle := r.low_le_high
  simp only [width]
  omega

end BitRange

end RegisterFile
