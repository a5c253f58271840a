/-!
Graphs on positions, and the elimination of positions that no arrow leads to: each is taken away
together with its own arrows, until every position that is left has an arrow to it. The arrows of
a position may be listed in any order.
-/

namespace RegisterFile

/-- For each position the positions that its arrows lead to. -/
abbrev Graph := List (List Nat)

namespace Graph

/-- Where the arrows of a position lead. -/
def targets (graph : Graph) (i : Nat) : List Nat :=
  graph.getD i []

/-- How many arrows lead to each position. -/
def inDegrees (graph : Graph) : List Nat :=
  (List.range graph.length).map fun i => graph.flatten.count i

/-- How far an elimination has come. -/
structure Elimination where
  /-- How many arrows still lead to each position. -/
  inDegrees : List Nat
  /-- The positions to be taken next, which no arrow leads to. -/
  queue : List Nat
  /-- How many positions have been taken. -/
  taken : Nat

namespace Elimination

/-- An elimination at its start. -/
def start (graph : Graph) : Elimination where
  inDegrees := graph.inDegrees
  queue := (List.range graph.length).filter fun i => graph.inDegrees.getD i 0 == 0
  taken := 0

/-- Cuts an arrow to a position, which joins the queue when that was its last one. A position that
    no arrow leads to has none to be cut. -/
def cut (state : Elimination) (target : Nat) : Option Elimination :=
  match state.inDegrees[target]? with
  | some (arrows + 1) =>
    some { state with
      inDegrees := state.inDegrees.set target arrows
      queue := if arrows = 0 then state.queue ++ [target] else state.queue }
  | _ => none

/-- Takes position `i` with its arrows away, behind which `rest` is in the queue. -/
def take (graph : Graph) (state : Elimination) (i : Nat) (rest : List Nat) : Option Elimination :=
  (graph.targets i).foldlM cut { state with queue := rest, taken := state.taken + 1 }

/-- Takes positions from the queue until it is empty or `rounds` are over. -/
def run (graph : Graph) : Nat → Elimination → Option Elimination
  | 0, state => some state
  | rounds + 1, state =>
    match state.queue with
    | [] => some state
    | i :: rest => (state.take graph i rest).bind (run graph rounds)

end Elimination

/-- The end of the elimination. Each position is taken once at most, so that there are rounds
    enough. -/
def eliminate (graph : Graph) : Option Elimination :=
  (Elimination.start graph).run graph graph.length

end Graph

end RegisterFile
