import RegisterFile.Proofs.Document.Grammar
import RegisterFile.Proofs.Document.Spacing

/-!
What expressions evaluate to. A text has a value exactly if its tokens are those of a sum from
which a number comes out that is not negative. While it is read every operation is checked, except
that the lowest value has itself as its opposite.
-/

namespace RegisterFile.Document

open Activation

variable {expression : String} {parameters : Parameters}

/-- The outcome of a text whose tokens are those of a sum. -/
theorem expressionValue_of_scan {tree : Phrase .sum}
    (hscan : Token.scan expression = .ok tree.tokens) :
    expressionValue expression parameters =
      (tree.evaluate ⟨expression, parameters⟩ >>= fun value =>
        if 0 ≤ value then .ok (BitVec.ofNat 128 value.toNat)
        else .error (.invalidExpression expression)) := by
  rw [expressionValue_eq, hscan]
  show (run _ (.read .sum tree.tokens) >>= _) = _
  rw [tree.run_sum_tokens, bind_assoc]
  refine congrArg _ (funext fun value => ?_)
  show (if (([] : List Token).isEmpty && decide (0 ≤ value)) = true then _ else _) = _
  rw [List.isEmpty_nil, Bool.true_and]
  simp only [decide_eq_true_eq]

/-- The word of a value in range, if it is not negative. -/
theorem word_of_value_iff {value : Int} (hrange : InRange value) (e : Error) {word : Word} :
    (if 0 ≤ value then .ok (BitVec.ofNat 128 value.toNat) else .error e) = Except.ok word ↔
      value = word.toNat := by
  have hword := word.isLt
  unfold InRange at hrange
  constructor
  · intro hok
    split at hok
    · next hnonneg =>
      cases hok
      rw [BitVec.toNat_ofNat, Nat.mod_eq_of_lt (by omega), Int.toNat_of_nonneg hnonneg]
    · cases hok
  · rintro rfl
    rw [if_pos (Int.natCast_nonneg _), Int.toNat_natCast, BitVec.ofNat_toNat, BitVec.setWidth_eq]

/-- A text with a value is read whole. -/
theorem read_of_expressionValue {value : Word}
    (hvalue : expressionValue expression parameters = .ok value) :
    ∃ tokens, Token.scan expression = .ok tokens ∧
      run ⟨expression, parameters⟩ (.read .sum tokens) = .ok (value.toNat, []) := by
  rw [expressionValue_eq] at hvalue
  obtain ⟨tokens, hscan, hread⟩ := bind_eq_ok_iff.mp hvalue
  obtain ⟨⟨result, rest⟩, hsum, hword⟩ := bind_eq_ok_iff.mp hread
  refine ⟨tokens, hscan, ?_⟩
  dsimp only at hword
  split at hword
  · next hend =>
    obtain ⟨hrest, hnonneg⟩ := Bool.and_eq_true_iff.mp hend
    obtain rfl : rest = [] := List.isEmpty_iff.mp hrest
    obtain ⟨tree, -, hresult⟩ := run_sum_eq_ok_iff.mp hsum
    have hexact : result = value.toNat :=
      (word_of_value_iff (Phrase.inRange_of_evaluate hresult) (.invalidExpression expression)).mp
        ((if_pos (of_decide_eq_true hnonneg)).trans hword)
    rw [hsum, hexact]
  · cases hword

/-- Values come from sums. -/
theorem expressionValue_eq_ok_iff {value : Word} :
    expressionValue expression parameters = .ok value ↔
      ∃ tree : Phrase .sum, Token.scan expression = .ok tree.tokens ∧
        tree.evaluate ⟨expression, parameters⟩ = .ok value.toNat := by
  constructor
  · intro hvalue
    obtain ⟨tokens, hscan, hread⟩ := read_of_expressionValue hvalue
    obtain ⟨tree, rfl, hresult⟩ := run_sum_eq_ok_iff.mp hread
    exact ⟨tree, hscan, hresult⟩
  · rintro ⟨tree, hscan, hresult⟩
    rw [expressionValue_of_scan hscan, hresult]
    exact (word_of_value_iff (Phrase.inRange_of_evaluate hresult)
      (.invalidExpression expression)).mpr rfl

/-- A name alone stands for its value. -/
theorem expressionValue_of_symbol {name : String} {value : Word}
    (hscan : Token.scan expression = .ok [.symbol name])
    (hlookup : parameters.lookup name = some value) (hvalue : value.toNat < 2 ^ 127) :
    expressionValue expression parameters = .ok value := by
  have hrange : InRange value.toNat := by
    unfold InRange
    omega
  exact expressionValue_eq_ok_iff.mpr
    ⟨.part nofun (.part nofun (.symbol name)), hscan, Scope.lookup_of_inRange hlookup hrange⟩

/-- A number alone stands for itself. -/
theorem expressionValue_of_number {value : Word}
    (hscan : Token.scan expression = .ok [.number value]) (hvalue : value.toNat < 2 ^ 127) :
    expressionValue expression parameters = .ok value := by
  have hrange : InRange value.toNat := by
    unfold InRange
    omega
  have hchecked := Scope.checked_of_inRange ⟨expression, parameters⟩ hrange
  exact expressionValue_eq_ok_iff.mpr
    ⟨.part nofun (.part nofun (.number value)), hscan, hchecked⟩

/-- Evaluation follows the grammar. All of some tokens are read, with a value, exactly if they are
    the tokens of a sum that has this value, and a text has a value exactly if its tokens are those
    of a sum with this value. When the sum computes, this is its exact value, and a negative one is
    an error. Blanks between tokens do not matter, and the descent comes to an end. -/
theorem expressionValue_iff_phrase (expression : String) (parameters : Parameters) :
    (∀ (tokens : List Token) (value : Int),
      run ⟨expression, parameters⟩ (.read .sum tokens) = .ok (value, []) ↔
        ∃ tree : Phrase .sum, tree.tokens = tokens ∧
          tree.evaluate ⟨expression, parameters⟩ = .ok value) ∧
    (∀ value : Word, expressionValue expression parameters = .ok value ↔
      ∃ tree : Phrase .sum, Token.scan expression = .ok tree.tokens ∧
        tree.evaluate ⟨expression, parameters⟩ = .ok value.toNat) ∧
    (∀ tree : Phrase .sum, Token.scan expression = .ok tree.tokens → tree.Computes parameters →
      (∀ value : Word, expressionValue expression parameters = .ok value ↔
        tree.value parameters = value.toNat) ∧
      (tree.value parameters < 0 →
        expressionValue expression parameters = .error (.invalidExpression expression))) ∧
    (∀ other : String, Relation.EqvGen Spaced expression other →
      Alike (expressionValue expression parameters) (expressionValue other parameters)) ∧
    WellFounded fun inner outer => Calls ⟨expression, parameters⟩ outer inner := by
  refine ⟨fun tokens value => run_sum_eq_ok_iff, fun value => expressionValue_eq_ok_iff, ?_,
    fun other hspaced => expressionValue_alike parameters hspaced, wellFounded_calls _⟩
  intro tree hscan hcomputes
  have hexact : tree.evaluate ⟨expression, parameters⟩ = .ok (tree.value parameters) :=
    Phrase.evaluate_of_computes hcomputes
  rw [expressionValue_of_scan hscan, hexact]
  refine ⟨fun value => word_of_value_iff (Phrase.inRange_of_evaluate hexact) _, fun hnegative => ?_⟩
  exact if_neg (not_le.mpr hnegative)

/-- The tree of `(W + 2) * 2`. -/
def doubled : Phrase .sum :=
  .part nofun <| .join
    (.part nofun <| .group <| .join (.part nofun <| .part nofun <| .symbol "W") .plus
      (.part nofun <| .number 2))
    .times (.number 2)

theorem expressionValue_doubled :
    (Token.scan "(W + 2) * 2" = .ok doubled.tokens ∧ doubled.Computes [("W", 8)]) ∧
      expressionValue "(W + 2) * 2" [("W", 8)] = .ok 20 := by
  have hscan : Token.scan "(W + 2) * 2" = .ok doubled.tokens := by decide +kernel
  have hcomputes : doubled.Computes [("W", 8)] := by decide +kernel
  have hvalue : doubled.value [("W", 8)] = (20 : Word).toNat := by decide +kernel
  obtain ⟨-, -, htree, -, -⟩ := expressionValue_iff_phrase "(W + 2) * 2" [("W", 8)]
  exact ⟨⟨hscan, hcomputes⟩, ((htree doubled hscan hcomputes).1 20).mpr hvalue⟩

/-! ### Operations -/

end RegisterFile.Document
