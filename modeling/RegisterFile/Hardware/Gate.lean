import RegisterFile.Hardware.Access

/-!
The gates of bus writes: locks that are set, registers that do not hold their magic value and
write-once flags keep a write from its segment.
-/

namespace RegisterFile.Hardware

open Verilog

/-- Whether a bit of a lock is set. -/
def tapExpr (tap : LockTap) : Expr :=
  let name := storageName tap.register
  if tap.bits.isSingle then .ref ⟨name, .bit tap.bits.low⟩
  else .group (.any (.ref ⟨name, .bits tap.bits.high tap.bits.low⟩))

/-- Whether any of the locks is set; `none` if there are none. -/
def lockActive? (locks : List LockTap) : Option Expr :=
  match locks.map tapExpr with
  | [] => none
  | [tap] => some tap
  | first :: rest => some (.group (rest.foldl .or first))

/-- Whether a magic register holds its value. -/
def gateExpr (gate : MagicGate) : Expr :=
  .isEqual (.signal (storageName gate.register)) (.hex gate.width.toNat gate.value)

/-- The conditions under which writes reach a segment: no lock set, every magic register at its
    value, and no write taken before if only one is. -/
def gateTerms (segment : Segment) : List Expr :=
  ((lockActive? segment.locks).map Expr.invert).toList ++ segment.gates.map gateExpr ++
    (segment.writtenFlag.map Expr.invertSignal).toList

end RegisterFile.Hardware
