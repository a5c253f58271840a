import Mathlib
import RegisterFile.Proofs.Text.Numeral

/-!
Numbers read back from a text: the lines of the text, what follows a known front, and a number up to
the first character that is none of its digits.
-/

namespace RegisterFile

namespace Numeral

/-- Whether a character is a digit of a radix. -/
def isDigitOf (radix : Nat) (c : Char) : Bool :=
  (digit? radix c).isSome

/-- The number at the front of a text, and what follows its digits. -/
def leading? (radix : Nat) (cs : List Char) : Option (Nat × List Char) :=
  (ofDigits? radix (cs.takeWhile (isDigitOf radix))).map fun n =>
    (n, cs.dropWhile (isDigitOf radix))

variable {radix n : Nat}

theorem isDigitOf_of_accumulate {cs : List Char} {acc : Nat}
    (hread : accumulate radix acc cs = some n) : ∀ c ∈ cs, isDigitOf radix c = true := by
  induction cs generalizing acc with
  | nil => exact fun c hc => absurd hc List.not_mem_nil
  | cons c rest ih =>
    obtain ⟨d, hd, hrest⟩ := Option.bind_eq_some_iff.mp hread
    refine List.forall_mem_cons.mpr ⟨?_, ih hrest⟩
    rw [isDigitOf, hd, Option.isSome_some]

theorem isDigitOf_of_ofDigits? {digits : List Char} (hread : ofDigits? radix digits = some n) :
    ∀ c ∈ digits, isDigitOf radix c = true := by
  unfold ofDigits? at hread
  split at hread
  · cases hread
  · exact isDigitOf_of_accumulate hread

/-- Digits are read up to a character that is none. -/
theorem leading?_append {digits more : List Char} {c : Char}
    (hread : ofDigits? radix digits = some n) (hc : isDigitOf radix c = false) :
    leading? radix (digits ++ c :: more) = some (n, c :: more) := by
  have hdigits := isDigitOf_of_ofDigits? hread
  have hnot : ¬ isDigitOf radix c = true := by simp [hc]
  rw [leading?, List.takeWhile_append_of_pos hdigits, List.takeWhile_cons_of_neg hnot,
    List.append_nil, hread, List.dropWhile_append_of_pos hdigits, List.dropWhile_cons_of_neg hnot,
    Option.map_some]

/-- Letters stand for the same digits in either case. -/
theorem digitValue?_toUpper (c : Char) : digitValue? c.toUpper = digitValue? c := by
  by_cases hlower : 'a' ≤ c ∧ c ≤ 'z'
  · have hcodes : ∀ n ∈ List.range' 97 26,
        digitValue? (Char.ofNat n).toUpper = digitValue? (Char.ofNat n) := by decide +kernel
    have hc := hcodes c.toNat (List.mem_range'_1.mpr ?_)
    · rwa [Char.ofNat_toNat] at hc
    · obtain ⟨hlow, hhigh⟩ := hlower
      rw [Char.le_def, UInt32.le_iff_toNat_le] at hlow hhigh
      change 97 ≤ c.toNat at hlow
      change c.toNat ≤ 122 at hhigh
      omega
  · have hsame : c.toUpper = c := dif_neg hlower
    rw [hsame]

theorem accumulate_map_toUpper (cs : List Char) (acc : Nat) :
    accumulate radix acc (cs.map Char.toUpper) = accumulate radix acc cs := by
  induction cs generalizing acc with
  | nil => rfl
  | cons c rest ih =>
    simp only [List.map_cons, accumulate, digit?, digitValue?_toUpper, ih]

theorem accumulate_replicate_zero (hradix : 0 < radix) (count : Nat) (cs : List Char) :
    accumulate radix 0 (List.replicate count '0' ++ cs) = accumulate radix 0 cs := by
  have hzero : digit? radix '0' = some 0 := by
    have hvalue : digitValue? '0' = some 0 := by decide
    rw [digit?, hvalue, Option.filter_some, if_pos (by simpa using hradix)]
  induction count with
  | zero => rfl
  | succ count ih =>
    rw [List.replicate_succ, List.cons_append, accumulate, hzero, Option.bind_some, Nat.zero_mul]
    exact ih

theorem ofDigits?_HEX (n : Nat) : ofDigits? 16 (HEX n) = some n := by
  rw [ofDigits?, if_neg (by simp [HEX]), HEX, accumulate_map_toUpper,
    accumulate_toDigits (by decide) (by decide)]

/-- Zeros in front do not change a number. -/
theorem ofDigits?_padded {digits : List Char} (hread : ofDigits? 16 digits = some n)
    (count : Nat) : ofDigits? 16 (padded count digits) = some n := by
  unfold ofDigits? at hread
  split at hread
  · cases hread
  · next hdigits =>
    have hne : ¬ (padded count digits).isEmpty = true := by
      rw [List.isEmpty_iff] at hdigits ⊢
      exact fun hempty => hdigits (List.append_eq_nil_iff.mp hempty).2
    rw [ofDigits?, if_neg hne, padded, List.leftpad, accumulate_replicate_zero (by decide), hread]

theorem notMem_of_ofDigits? {digits : List Char} (hread : ofDigits? radix digits = some n)
    {c : Char} (hc : isDigitOf radix c = false) : c ∉ digits := by
  intro hmem
  rw [isDigitOf_of_ofDigits? hread c hmem] at hc
  cases hc

section

variable {c : Char} (hc : isDigitOf 16 c = false) (count n : Nat)

include hc

/-- A padded number is read up to a character that is no digit. -/
theorem leading?_padded (more : List Char) :
    leading? 16 (padded count (HEX n) ++ c :: more) = some (n, c :: more) :=
  leading?_append (ofDigits?_padded (ofDigits?_HEX n) count) hc

theorem notMem_padded : c ∉ padded count (HEX n) :=
  notMem_of_ofDigits? (ofDigits?_padded (ofDigits?_HEX n) count) hc

end

end Numeral

namespace Text

/-- What follows a front that a text must have. -/
def after? (front cs : List Char) : Option (List Char) :=
  if front.isPrefixOf cs then some (cs.drop front.length) else none

@[simp] theorem after?_append (front rest : List Char) :
    after? front (front ++ rest) = some rest := by
  rw [after?, if_pos (List.isPrefixOf_iff_prefix.mpr (List.prefix_append front rest)),
    List.drop_left]

theorem after?_eq_none_iff {front cs : List Char} : after? front cs = none ↔ ¬ front <+: cs := by
  simp [after?, List.isPrefixOf_iff_prefix]

/-! ### Pieces -/

section

variable {sep : Char}

theorem splitOn_cons_of_ne {c : Char} (hc : c ≠ sep) (cs : List Char) :
    (c :: cs).splitOn sep = (cs.splitOn sep).modifyHead (c :: ·) := by
  rw [List.splitOn_eq_splitOnP, List.splitOnP_cons_eq_if_modifyHead, if_neg (by simpa using hc),
    ← List.splitOn_eq_splitOnP]

theorem splitOn_cons_self (cs : List Char) : (sep :: cs).splitOn sep = [] :: cs.splitOn sep := by
  rw [List.splitOn_eq_splitOnP, List.splitOnP_cons_eq_if_modifyHead, if_pos (by simp),
    ← List.splitOn_eq_splitOnP]

/-- A text without separators lengthens the first piece of the text behind it. -/
theorem splitOn_append_of_notMem {front : List Char} (hfront : sep ∉ front) (cs : List Char) :
    (front ++ cs).splitOn sep = (cs.splitOn sep).modifyHead (front ++ ·) := by
  induction front with
  | nil =>
    obtain ⟨piece, more, hpieces⟩ := List.exists_cons_of_ne_nil (List.splitOn_ne_nil sep cs)
    rw [List.nil_append, hpieces]
    rfl
  | cons c rest ih =>
    rw [List.mem_cons, not_or] at hfront
    rw [List.cons_append, splitOn_cons_of_ne (Ne.symm hfront.1), ih hfront.2,
      List.modifyHead_modifyHead]
    rfl

theorem splitOn_of_notMem {cs : List Char} (hcs : sep ∉ cs) : cs.splitOn sep = [cs] := by
  have happend := splitOn_append_of_notMem hcs []
  rwa [List.append_nil, List.splitOn_nil, List.modifyHead_cons, List.append_nil] at happend

/-- A separator cuts what is in front of it apart from what is behind. -/
theorem splitOn_append_cons (before after : List Char) :
    (before ++ sep :: after).splitOn sep = before.splitOn sep ++ after.splitOn sep := by
  induction before with
  | nil => exact splitOn_cons_self after
  | cons c rest ih =>
    by_cases hc : c = sep
    · subst hc
      rw [List.cons_append, splitOn_cons_self, ih, splitOn_cons_self, List.cons_append]
    · rw [List.cons_append, splitOn_cons_of_ne hc, ih, splitOn_cons_of_ne hc]
      obtain ⟨piece, more, hpieces⟩ := List.exists_cons_of_ne_nil (List.splitOn_ne_nil sep rest)
      rw [hpieces]
      rfl

/-- No piece contains a separator. -/
theorem notMem_of_mem_splitOn {cs piece : List Char} (hpiece : piece ∈ cs.splitOn sep) :
    sep ∉ piece := by
  induction cs generalizing piece with
  | nil =>
    obtain rfl := List.mem_singleton.mp hpiece
    exact List.not_mem_nil
  | cons c rest ih =>
    by_cases hc : c = sep
    · rw [hc, splitOn_cons_self] at hpiece
      rcases List.mem_cons.mp hpiece with rfl | hlater
      · exact List.not_mem_nil
      · exact ih hlater
    · obtain ⟨first, more, hpieces⟩ := List.exists_cons_of_ne_nil (List.splitOn_ne_nil sep rest)
      rw [splitOn_cons_of_ne hc, hpieces, List.modifyHead_cons] at hpiece
      rcases List.mem_cons.mp hpiece with rfl | hlater
      · have hfirst := ih (hpieces ▸ List.mem_cons_self)
        simpa [Ne.symm hc] using hfirst
      · exact ih (hpieces ▸ List.mem_cons_of_mem first hlater)

/-- Pieces that each end with a separator are the pieces that it separates. -/
theorem splitOn_terminated {pieces : List (List Char)} (hpieces : ∀ piece ∈ pieces, sep ∉ piece)
    (rest : List Char) :
    (pieces.flatMap (· ++ [sep]) ++ rest).splitOn sep = pieces ++ rest.splitOn sep := by
  induction pieces with
  | nil => rfl
  | cons piece more ih =>
    obtain ⟨hpiece, hmore⟩ := List.forall_mem_cons.mp hpieces
    rw [List.flatMap_cons, List.append_assoc, List.append_assoc, List.singleton_append,
      splitOn_append_cons, splitOn_of_notMem hpiece, ih hmore]
    rfl

end

/-! ### Lines -/

/-- Lines as a text, each with its line break. -/
def unlines (lines : List String) : String :=
  String.join (lines.map (· ++ "\n"))

/-- The lines of a text; behind the last line break stands a last one. -/
def lines (text : String) : List (List Char) :=
  text.toList.splitOn '\n'

/-- What follows a front in the first line that has it, indentation aside. -/
def lineAfter? (front : String) (text : String) : Option (List Char) :=
  (lines text).findSome? fun line => after? front.toList (line.dropWhile (· == ' '))

/-- Texts with a line break between neighbours have the lines of each text. -/
theorem lines_intercalate {texts : List String} (htexts : texts ≠ []) :
    lines ("\n".intercalate texts) = texts.flatMap lines := by
  induction texts with
  | nil => exact absurd rfl htexts
  | cons text rest ih =>
    cases rest with
    | nil => simp [lines]
    | cons next more =>
      rw [String.intercalate_cons_cons, List.flatMap_cons, ← ih (List.cons_ne_nil next more)]
      simp only [lines, String.toList_append]
      rw [show "\n".toList = ['\n'] from rfl, List.append_assoc, List.singleton_append,
        splitOn_append_cons]

/-- Each line of a text with its line break is the text with one line break more. -/
theorem unlines_append {texts : List String} (htexts : texts ≠ []) (more : List String) :
    unlines (texts ++ more) = "\n".intercalate texts ++ "\n" ++ unlines more := by
  induction texts with
  | nil => exact absurd rfl htexts
  | cons text rest ih =>
    cases rest with
    | nil => simp [unlines]
    | cons next rest =>
      have hrest := ih (List.cons_ne_nil next rest)
      simp only [unlines, List.cons_append, List.map_cons, String.join_cons] at hrest ⊢
      rw [hrest, String.intercalate_cons_cons]
      simp only [String.append_assoc]

/-- A text stands somewhere inside another one. -/
def Within (block text : String) : Prop :=
  ∃ front back, text = front ++ block ++ back

/-- The lines of a text are read back one by one, as far as they contain no line break. -/
theorem lines_unlines_append {front : List String} (back : List String)
    (hfront : ∀ line ∈ front, '\n' ∉ line.toList) :
    lines (unlines (front ++ back)) = front.map String.toList ++ lines (unlines back) := by
  have htext : (unlines (front ++ back)).toList =
      (front.map String.toList).flatMap (· ++ ['\n']) ++ (unlines back).toList := by
    simp [unlines, List.flatMap_def, Function.comp_def]
  rw [lines, htext, splitOn_terminated (by simpa using hfront)]
  rfl

/-- A single line that does not start with the front. -/
def Passed (front line : String) : Prop :=
  '\n' ∉ line.toList ∧ after? front.toList (line.toList.dropWhile (· == ' ')) = none

theorem lineAfter?_append {front : String} {before : List String} (more : List String)
    (hbefore : ∀ line ∈ before, Passed front line) :
    lineAfter? front (unlines (before ++ more)) = lineAfter? front (unlines more) := by
  have hnone : (before.map String.toList).findSome? (fun line =>
      after? front.toList (line.dropWhile (· == ' '))) = none := by
    rw [List.findSome?_eq_none_iff, List.forall_mem_map]
    exact fun line hline => (hbefore line hline).2
  rw [lineAfter?, lines_unlines_append more fun line hline => (hbefore line hline).1,
    List.findSome?_append, hnone, Option.none_or]
  rfl

/-- The line is found that starts with the front. -/
theorem lineAfter?_cons {front line : String} {rest : List Char} {indent : Nat}
    (more : List String)
    (hline : line.toList = List.replicate indent ' ' ++ (front.toList ++ rest))
    (hbreak : '\n' ∉ line.toList) (hfront : front.toList.head?.any (· != ' ') = true) :
    lineAfter? front (unlines (line :: more)) = some rest := by
  have hlines : lines (unlines (line :: more)) = line.toList :: lines (unlines more) := by
    have happend := @lines_unlines_append [line] more (by simpa using hbreak)
    simpa using happend
  have hdrop : line.toList.dropWhile (· == ' ') = front.toList ++ rest := by
    rw [hline, List.dropWhile_append_of_pos (by simp)]
    cases hchars : front.toList with
    | nil =>
      rw [hchars] at hfront
      cases hfront
    | cons c cs =>
      rw [hchars] at hfront
      rw [List.cons_append, List.dropWhile_cons_of_neg (by simpa using hfront)]
  rw [lineAfter?, hlines, List.findSome?_cons, hdrop, after?_append]

theorem notBlank_of_mem_wordsFrom {current cs word : List Char}
    (hcurrent : ∀ c ∈ current, isBlank c = false) (hword : word ∈ wordsFrom current cs) :
    ∀ c ∈ word, isBlank c = false := by
  have hreverse : ∀ {current : List Char}, (∀ c ∈ current, isBlank c = false) →
      ∀ c ∈ current.reverse, isBlank c = false :=
    fun hcurrent c hc => hcurrent c (List.mem_reverse.mp hc)
  induction cs generalizing current with
  | nil =>
    rw [wordsFrom] at hword
    split at hword
    · cases hword
    · obtain rfl := List.mem_singleton.mp hword
      exact hreverse hcurrent
  | cons c rest ih =>
    have hnil : ∀ c ∈ ([] : List Char), isBlank c = false := by simp
    rw [wordsFrom] at hword
    split at hword
    · split at hword
      · exact ih hnil hword
      · rcases List.mem_cons.mp hword with rfl | hlater
        · exact hreverse hcurrent
        · exact ih hnil hlater
    · next hc => exact ih (List.forall_mem_cons.mpr ⟨by simpa using hc, hcurrent⟩) hword

theorem mem_intercalate {α : Type} {sep : List α} {pieces : List (List α)} {a : α}
    (hmem : a ∈ sep.intercalate pieces) : a ∈ sep ∨ ∃ piece ∈ pieces, a ∈ piece := by
  induction pieces with
  | nil => simp at hmem
  | cons piece rest ih =>
    cases rest with
    | nil => exact .inr ⟨piece, List.mem_cons_self, by simpa using hmem⟩
    | cons next more =>
      simp only [List.intercalate_cons_cons, List.mem_append] at hmem
      rcases hmem with (hpiece | hsep) | hlater
      · exact .inr ⟨piece, List.mem_cons_self, hpiece⟩
      · exact .inl hsep
      · exact (ih hlater).imp_right fun ⟨other, hother, ha⟩ =>
          ⟨other, List.mem_cons_of_mem _ hother, ha⟩

/-- On one line spaces are the only blanks. -/
theorem notMem_onOneLine {c : Char} (hc : isBlank c = true) (hspace : c ≠ ' ') (text : String) :
    c ∉ (onOneLine text).toList := by
  rw [onOneLine, String.toList_ofList]
  intro hmem
  rcases mem_intercalate hmem with hsep | ⟨word, hword, hin⟩
  · exact hspace (List.mem_singleton.mp hsep)
  · rw [notBlank_of_mem_wordsFrom (by simp) hword c hin] at hc
    cases hc

theorem within_unlines {block lines : List String} (hpart : block <:+: lines) :
    Within (unlines block) (unlines lines) := by
  obtain ⟨front, back, rfl⟩ := hpart
  exact ⟨unlines front, unlines back, by simp [unlines, String.append_assoc]⟩

theorem within_of_mem {line : String} {lines : List String} (hmem : line ∈ lines) :
    Within line (unlines lines) := by
  obtain ⟨front, back, rfl⟩ := List.append_of_mem hmem
  exact ⟨unlines front, "\n" ++ unlines back, by simp [unlines, String.append_assoc]⟩

theorem infix_flatMap {α β : Type} {items : List α} {item : α} (hmem : item ∈ items)
    (f : α → List β) : f item <:+: items.flatMap f := by
  obtain ⟨front, back, rfl⟩ := List.append_of_mem hmem
  exact ⟨front.flatMap f, back.flatMap f, by simp⟩

end Text

end RegisterFile
