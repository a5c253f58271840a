import RegisterFile.Proofs.Document.Descent
import RegisterFile.Proofs.Text.Trim

/-!
Blanks in expressions. A blank between two tokens changes nothing but the text that errors quote:
the tokens are the same ones, and what is computed from them does not look at the text.
-/

namespace RegisterFile.Document

/-- An error without the expression that it quotes. -/
def Error.unquoted : Error → Error
  | invalidExpression _ => invalidExpression ""
  | unresolvedParameter name _ => unresolvedParameter name ""
  | other => other

/-- Two outcomes are alike if they are the same up to the expressions that errors quote. -/
def Alike {α : Type} (outcome other : Except Error α) : Prop :=
  outcome.mapError Error.unquoted = other.mapError Error.unquoted

namespace Alike

variable {α β : Type}

theorem refl (outcome : Except Error α) : Alike outcome outcome :=
  rfl

/-- Steps that are alike, one behind the other. -/
theorem bind {outcome other : Except Error α} {next otherNext : α → Except Error β}
    (halike : Alike outcome other)
    (hnext : ∀ a, outcome = .ok a → Alike (next a) (otherNext a)) :
    Alike (outcome >>= next) (other >>= otherNext) := by
  cases outcome with
  | error e =>
    cases other with
    | error e' => exact congrArg Except.error (Except.error.inj halike)
    | ok a => cases halike
  | ok a =>
    cases other with
    | error e => cases halike
    | ok b =>
      cases halike
      exact hnext a rfl

end Alike

/-! ### Tokens -/

namespace Token

/-- A word goes on from the first text into the second. -/
def Torn (front back : List Char) : Prop :=
  (∃ c ∈ front.getLast?, isWordChar c = true) ∧ ∃ c ∈ back.head?, isWordChar c = true

theorem Torn.append_left {front back : List Char} (htorn : Torn front back) (more : List Char) :
    Torn (more ++ front) back := by
  obtain ⟨⟨c, hlast, hc⟩, hback⟩ := htorn
  refine ⟨⟨c, ?_, hc⟩, hback⟩
  rw [List.getLast?_append, Option.mem_def.mp hlast]
  exact rfl

theorem not_isWordChar_of_isBlank {c : Char} (hblank : Text.isBlank c = true) :
    isWordChar c = false := by
  have hall : ∀ point ∈ Text.blankCodePoints, isWordChar (Char.ofNat point) = false := by decide
  rw [← Char.ofNat_toNat c]
  exact hall c.toNat ((Text.isBlank_iff c).mp hblank)

/-- A blank ends the word in front of it. -/
theorem scanFrom_blank (expression : String) (word : List Char) {blank : Char}
    (hblank : Text.isBlank blank = true) (rest : List Char) :
    scanFrom expression word (blank :: rest) = withWord word (scanFrom expression [] rest) := by
  rw [scanFrom, not_isWordChar_of_isBlank hblank, if_neg Bool.false_ne_true, if_pos hblank]

/-- A word ends by itself where no character of a word follows. -/
theorem withWord_scanFrom (expression : String) (word : List Char) {rest : List Char}
    (hrest : ∀ c ∈ rest.head?, isWordChar c = false) :
    withWord word (scanFrom expression [] rest) = scanFrom expression word rest := by
  cases rest with
  | nil => rfl
  | cons c rest =>
    have hc : isWordChar c = false := hrest c rfl
    rw [scanFrom, scanFrom, hc, if_neg Bool.false_ne_true, if_neg Bool.false_ne_true]
    rfl

/-- A blank that tears no word apart does not change the tokens. -/
theorem scanFrom_insert (expression : String) {blank : Char} (hblank : Text.isBlank blank = true)
    (front back : List Char) {word : List Char} (hword : ∀ c ∈ word, isWordChar c = true)
    (hbetween : ¬ Torn (word.reverse ++ front) back) :
    scanFrom expression word (front ++ blank :: back) =
      scanFrom expression word (front ++ back) := by
  induction front generalizing word with
  | nil =>
    rw [List.nil_append, List.nil_append, scanFrom_blank expression word hblank]
    cases word with
    | nil => rfl
    | cons last word =>
      refine withWord_scanFrom expression _ fun c hc => Bool.eq_false_iff.mpr fun hchar => ?_
      refine hbetween ⟨⟨last, ?_, hword last List.mem_cons_self⟩, c, hc, hchar⟩
      rw [List.append_nil, List.reverse_cons, List.getLast?_concat]
      exact rfl
  | cons c front ih =>
    rw [List.cons_append, List.cons_append]
    -- The word being read either takes in `c`, or ends in front of it.
    by_cases hc : isWordChar c = true
    · rw [scanFrom, scanFrom, if_pos hc, if_pos hc]
      refine ih (List.forall_mem_cons.mpr ⟨hc, hword⟩) ?_
      rwa [List.reverse_cons, List.append_assoc]
    · have hfront : ¬ Torn ([].reverse ++ front) back := fun htorn => by
        have hmore := htorn.append_left (word.reverse ++ [c])
        rw [List.reverse_nil, List.nil_append, List.append_assoc] at hmore
        exact hbetween hmore
      rw [scanFrom, scanFrom, if_neg hc, if_neg hc, ih (List.forall_mem_nil _) hfront]

section

variable {expression : String} {blanks cs rest word : List Char}

/-- Blanks in front of everything else are passed over. -/
theorem scanFrom_blanks_append (hblanks : ∀ c ∈ blanks, Text.isBlank c = true) :
    scanFrom expression [] (blanks ++ rest) = scanFrom expression [] rest := by
  induction blanks with
  | nil => rfl
  | cons blank blanks ih =>
    obtain ⟨hblank, hrest⟩ := List.forall_mem_cons.mp hblanks
    rw [List.cons_append, scanFrom_blank expression [] hblank]
    exact ih hrest

/-- Blanks at the end do not count. -/
theorem scanFrom_append_blanks (hblanks : ∀ c ∈ blanks, Text.isBlank c = true) :
    scanFrom expression word (cs ++ blanks) = scanFrom expression word cs := by
  induction cs generalizing word with
  | nil =>
    cases blanks with
    | nil => rfl
    | cons blank blanks =>
      obtain ⟨hblank, hrest⟩ := List.forall_mem_cons.mp hblanks
      have hnone : scanFrom expression [] (blanks ++ []) = .ok [] := scanFrom_blanks_append hrest
      rw [List.append_nil] at hnone
      rw [List.nil_append, scanFrom_blank expression word hblank, hnone]
      rfl
  | cons c rest ih => simp only [List.cons_append, scanFrom, ih]

theorem scan_trim (expression : String) :
    scan expression = scanFrom expression [] (Text.trim expression.toList) := by
  obtain ⟨front, back, hfront, hback, heq⟩ := Text.exists_append_trim expression.toList
  conv_lhs => rw [scan, heq]
  rw [scanFrom_blanks_append hfront, scanFrom_append_blanks hback]

/-- A word goes on as long as its characters do. -/
theorem scanFrom_word (hcs : ∀ c ∈ cs, isWordChar c = true) :
    scanFrom expression word cs = withWord (cs.reverse ++ word) (.ok []) := by
  induction cs generalizing word with
  | nil => rfl
  | cons c rest ih =>
    obtain ⟨hc, hrest⟩ := List.forall_mem_cons.mp hcs
    rw [scanFrom, if_pos hc, ih hrest, List.reverse_cons, List.append_assoc, List.singleton_append]

end

/-- The text that errors quote has no influence on the tokens. -/
theorem scanFrom_alike (expression other : String) (word cs : List Char) :
    Alike (scanFrom expression word cs) (scanFrom other word cs) := by
  have hword {word : List Char} {rest otherRest : Except Error (List Token)}
      (hrest : Alike rest otherRest) : Alike (withWord word rest) (withWord word otherRest) := by
    unfold withWord
    split
    · exact hrest
    · exact .bind (.refl _) fun token _ => .bind hrest fun tokens _ => .refl _
  induction cs generalizing word with
  | nil => exact .refl _
  | cons c cs ih =>
    rw [scanFrom, scanFrom]
    split
    · exact ih _
    · refine hword ?_
      split
      · exact ih _
      · split
        · exact .bind (ih _) fun tokens _ => .refl _
        · exact rfl

end Token

/-! ### Values -/

theorem Scope.checked_alike (scope other : Scope) (value : Int) :
    Alike (scope.checked value) (other.checked value) := by
  unfold checked
  split <;> exact rfl

theorem Scope.quotient_alike (scope other : Scope) (value divisor : Int) :
    Alike (scope.quotient value divisor) (other.quotient value divisor) := by
  unfold quotient
  split
  · exact rfl
  · exact checked_alike scope other _

theorem Operation.result_alike (scope other : Scope) (operation : Operation) :
    Alike (operation.result scope) (operation.result other) := by
  cases operation with
  | add | subtract | multiply => exact Scope.checked_alike scope other _
  | divide left right => exact Scope.quotient_alike scope other left right
  | negate operand => exact .refl _

section

variable {scope other : Scope} (hparameters : scope.parameters = other.parameters)

include hparameters

theorem Scope.lookup_alike (name : String) : Alike (scope.lookup name) (other.lookup name) := by
  unfold lookup
  rw [hparameters]
  split
  · exact checked_alike scope other _
  · exact rfl

namespace Activation

theorem run_atom_alike {tokens : List Token}
    (ih : ∀ inner, Calls scope (.read .atom tokens) inner →
      Alike (run scope inner) (run other inner)) :
    Alike (run scope (.read .atom tokens)) (run other (.read .atom tokens)) := by
  match tokens with
  | .number value :: rest =>
    rw [run_number, run_number]
    exact .bind (Scope.checked_alike scope other _) fun _ _ => .refl _
  | .symbol name :: rest =>
    rw [run_symbol, run_symbol]
    exact .bind (Scope.lookup_alike hparameters name) fun _ _ => .refl _
  | .minus :: more =>
    rw [run_opposite, run_opposite]
    exact .bind (ih _ .opposite) fun (operand, rest) _ => .refl _
  | .opening :: more =>
    rw [run_group, run_group]
    refine .bind (ih _ .group) fun (value, rest) _ => ?_
    split
    · exact .refl _
    · exact rfl
  | [] | .plus :: _ | .times :: _ | .slash :: _ | .closing :: _ =>
    rw [run_atom_invalid (by rintro _ ⟨⟩ ⟨⟩), run_atom_invalid (by rintro _ ⟨⟩ ⟨⟩)]
    exact rfl

/-- The text that errors quote has no influence on what is read. -/
theorem run_alike (activation : Activation) :
    Alike (run scope activation) (run other activation) := by
  induction activation using (wellFounded_calls scope).induction with
  | h activation ih =>
    match activation with
    | .read level tokens =>
      by_cases hlevel : level = .atom
      · subst hlevel
        exact run_atom_alike hparameters ih
      · rw [run_read hlevel, run_read hlevel]
        exact .bind (ih _ (.part hlevel)) fun _ hpart => ih _ (.rest hlevel hpart)
    | .goOn level value tokens =>
      obtain hends | ⟨sign, more, rfl⟩ := level.ends_or tokens
      · rw [run_goOn_end value hends, run_goOn_end value hends]
        exact .refl _
      · rw [run_goOn, run_goOn]
        refine .bind (ih _ (.operand sign)) fun _ hoperand => ?_
        exact .bind (Operation.result_alike scope other _) fun _ hnext =>
          ih _ (.next sign hoperand hnext)

end Activation

end

/-- The first text with a blank more between two of its tokens. -/
inductive Spaced : String → String → Prop
  | insert {front back : List Char} {blank : Char} (hblank : Text.isBlank blank = true)
    (hbetween : ¬ Token.Torn front back) :
    Spaced (String.ofList (front ++ back)) (String.ofList (front ++ blank :: back))

theorem Spaced.scan_alike {expression other : String} (hspaced : Spaced expression other) :
    Alike (Token.scan expression) (Token.scan other) := by
  obtain ⟨hblank, hbetween⟩ := hspaced
  rw [Token.scan, Token.scan, String.toList_ofList, String.toList_ofList,
    Token.scanFrom_insert _ hblank _ _ (List.forall_mem_nil _) hbetween]
  exact Token.scanFrom_alike _ _ _ _

/-- Blanks between tokens do not change the outcome. -/
theorem expressionValue_alike {expression other : String} (parameters : Parameters)
    (hspaced : Relation.EqvGen Spaced expression other) :
    Alike (expressionValue expression parameters) (expressionValue other parameters) := by
  induction hspaced with
  | rel expression other hspaced =>
    rw [expressionValue_eq, expressionValue_eq]
    refine .bind hspaced.scan_alike fun tokens _ => ?_
    refine .bind (Activation.run_alike (by exact rfl) _) fun (value, rest) _ => ?_
    dsimp only
    split
    · exact .refl _
    · exact rfl
  | refl => exact .refl _
  | symm _ _ _ ih => exact ih.symm
  | trans _ _ _ _ _ ihfirst ihsecond => exact ihfirst.trans ihsecond

end RegisterFile.Document
