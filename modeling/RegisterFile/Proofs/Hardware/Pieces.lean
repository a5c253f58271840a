import RegisterFile.Proofs.Verilog.Step
import RegisterFile.Proofs.WellFormed

/-!
Byte lanes of a write. The lanes cut a range into pieces that share no bit and cover all of it, and
each piece is written under the strobe of its lane.
-/

namespace RegisterFile.Hardware

open Verilog

variable {widths : Widths} {e : Env} {lanes i : Nat} {bits : BitRange} {cut : Bool}
  {piece other : Piece}

/-- A piece has a bit. -/
def Piece.Covers (piece : Piece) (i : Nat) : Prop :=
  piece.low ≤ i ∧ i ≤ piece.high

theorem piece?_eq_some_iff {lane : Nat} :
    piece? bits lane = some piece ↔
      piece = ⟨lane, min bits.high (lane * 8 + 7), max bits.low (lane * 8)⟩ ∧
        max bits.low (lane * 8) ≤ min bits.high (lane * 8 + 7) := by
  unfold piece?
  rw [Option.ite_none_right_eq_some, and_comm, Option.some.injEq]
  exact and_congr_left fun _ => eq_comm

theorem pieces_inside (hpiece : piece ∈ pieces lanes bits cut) :
    bits.low ≤ piece.low ∧ piece.low ≤ piece.high ∧ piece.high ≤ bits.high := by
  have hle := bits.low_le_high
  unfold pieces at hpiece
  split at hpiece
  · obtain ⟨lane, -, hsome⟩ := List.mem_filterMap.mp hpiece
    obtain ⟨rfl, hne⟩ := piece?_eq_some_iff.mp hsome
    dsimp only
    omega
  · rw [List.mem_singleton.mp hpiece]
    exact ⟨Nat.le_refl _, hle, Nat.le_refl _⟩

theorem lane_lt_of_mem_pieces (hpiece : piece ∈ pieces lanes bits cut) (hcut : cut = true) :
    piece.lane < lanes := by
  subst hcut
  obtain ⟨lane, hlane, hsome⟩ := List.mem_filterMap.mp hpiece
  obtain ⟨rfl, -⟩ := piece?_eq_some_iff.mp hsome
  exact List.mem_range.mp hlane

theorem Piece.Covers.mem (hcovers : piece.Covers i) (hpiece : piece ∈ pieces lanes bits cut) :
    i ∈ bits := by
  obtain ⟨hlow, hhigh⟩ := hcovers
  obtain ⟨hbelow, -, habove⟩ := pieces_inside hpiece
  exact BitRange.mem_iff.mpr ⟨by omega, by omega⟩

/-- The lane of a piece is that of its bits. -/
theorem Piece.Covers.lane_eq (hcovers : piece.Covers i) (hpiece : piece ∈ pieces lanes bits true) :
    piece.lane = i / 8 := by
  obtain ⟨hlow, hhigh⟩ := hcovers
  obtain ⟨lane, -, hsome⟩ := List.mem_filterMap.mp hpiece
  obtain ⟨rfl, -⟩ := piece?_eq_some_iff.mp hsome
  dsimp only at hlow hhigh ⊢
  omega

theorem Piece.Covers.unique (hcovers : piece.Covers i) (hother : other.Covers i)
    (hpiece : piece ∈ pieces lanes bits cut) (hotherPiece : other ∈ pieces lanes bits cut) :
    piece = other := by
  cases cut with
  | false => exact (List.mem_singleton.mp hpiece).trans (List.mem_singleton.mp hotherPiece).symm
  | true =>
    have hlane := (hcovers.lane_eq hpiece).trans (hother.lane_eq hotherPiece).symm
    obtain ⟨lane, -, hsome⟩ := List.mem_filterMap.mp hpiece
    obtain ⟨otherLane, -, hotherSome⟩ := List.mem_filterMap.mp hotherPiece
    obtain ⟨rfl, -⟩ := piece?_eq_some_iff.mp hsome
    obtain ⟨rfl, -⟩ := piece?_eq_some_iff.mp hotherSome
    obtain rfl : lane = otherLane := hlane
    rfl

theorem exists_piece (cut : Bool) (hin : i ∈ bits) (hlane : i / 8 < lanes) :
    ∃ piece ∈ pieces lanes bits cut, piece.Covers i := by
  obtain ⟨hlow, hhigh⟩ := BitRange.mem_iff.mp hin
  cases cut with
  | false => exact ⟨_, List.mem_singleton_self _, hlow, hhigh⟩
  | true =>
    refine ⟨⟨i / 8, min bits.high (i / 8 * 8 + 7), max bits.low (i / 8 * 8)⟩, ?_, ?_⟩
    · refine List.mem_filterMap.mpr ⟨i / 8, List.mem_range.mpr hlane, ?_⟩
      exact piece?_eq_some_iff.mpr ⟨rfl, by omega⟩
    · constructor <;> dsimp only <;> omega

/-- Pieces of which every bit of a range is in exactly one, and no other bit in any. -/
structure Partitions (pieces : List Piece) (bits : BitRange) : Prop where
  nonempty : ∀ piece ∈ pieces, piece.low ≤ piece.high
  covers : ∀ i, i ∈ bits ↔ ∃ piece ∈ pieces, piece.Covers i
  apart : pieces.Pairwise fun a b => ∀ i, ¬ (a.Covers i ∧ b.Covers i)

theorem partitions_pieces (cut : Bool) (hlanes : ∀ i ∈ bits, i / 8 < lanes) :
    Partitions (pieces lanes bits cut) bits where
  nonempty piece hpiece := (pieces_inside hpiece).2.1
  covers i := by
    constructor
    · exact fun hin => exists_piece cut hin (hlanes i hin)
    · rintro ⟨piece, hpiece, hcovers⟩
      exact hcovers.mem hpiece
  apart := by
    cases cut with
    | false => exact List.pairwise_singleton _ _
    | true =>
      refine List.pairwise_lt_range.filterMap _ ?_
      rintro lane other hlt a ha b hb i ⟨⟨-, hhigh⟩, ⟨hlow, -⟩⟩
      obtain ⟨rfl, -⟩ := piece?_eq_some_iff.mp ha
      obtain ⟨rfl, -⟩ := piece?_eq_some_iff.mp hb
      dsimp only at hhigh hlow
      omega

/-- Of the statements for each piece, those of the piece that has a bit decide about it. -/
theorem effects_pieces {stmts : Piece → List Stmt} {name : String} {j : Nat}
    (hpiece : piece ∈ pieces lanes bits cut) (hcovers : piece.Covers i)
    (hother : ∀ other ∈ pieces lanes bits cut, ¬ other.Covers i →
      Stmt.effects widths e (stmts other) name j = none) :
    Stmt.effects widths e ((pieces lanes bits cut).flatMap stmts) name j =
      Stmt.effects widths e (stmts piece) name j := by
  apply Stmt.effects_flatMap hpiece
  intro other hmem hne
  apply hother other hmem
  intro hother
  exact hne (hother.unique hcovers hmem hpiece)

/-! ### Strobes -/

/-- Whether a strobe lets the bytes of a lane through. -/
def opensLane (widths : Widths) (e : Env) (strobe : Option String) (lane : Nat) : Bool :=
  strobe.all fun name => (e.value widths name).getLsbD lane

/-- For a bit of a piece, the lane of the bit decides. -/
theorem opensLane_piece {strobe : Option String}
    (hpiece : piece ∈ pieces lanes bits strobe.isSome) (hcovers : piece.Covers i) :
    opensLane widths e strobe piece.lane = opensLane widths e strobe (i / 8) := by
  cases strobe with
  | none => rfl
  | some strobe => rw [hcovers.lane_eq hpiece]

theorem effect_strobed {strobe : Option String} {lane : Nat} {body : Stmt} {name : String} :
    (strobed strobe lane body).effect widths e name i =
      if opensLane widths e strobe lane then body.effect widths e name i else none := by
  cases strobe with
  | none => rfl
  | some strobe =>
    have hholds : (Expr.ref ⟨strobe, .bit lane⟩).holds widths e =
        (e.value widths strobe).getLsbD lane := by
      rw [Bool.eq_iff_iff, Expr.holds_iff_bit rfl, Expr.eval,
        Env.getLsbD_read Nat.one_pos (by decide)]
      rfl
    rw [strobed, Stmt.when, Stmt.effect_branch, hholds]
    rfl

theorem updates_strobed {strobe : Option String} {lane : Nat} {body : Stmt}
    {names : List String} (hbody : body.Updates names) :
    (strobed strobe lane body).Updates names := by
  cases strobe with
  | none => exact hbody
  | some strobe => exact hbody.when _

end RegisterFile.Hardware
