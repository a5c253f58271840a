import Mathlib
import RegisterFile.Hardware.Module
import RegisterFile.Proofs.Numbers.Reading
import RegisterFile.Proofs.Text.Identifier
import RegisterFile.Text.Identifier

/-!
The comment in front of a Verilog module. Each entry of it is put behind `//` as it is, so a text
with line breaks stays inside the comment only if each of its further lines is a comment of its own.
-/

namespace RegisterFile

namespace Verilog

/-! ### White space and comments -/

/-- What the scanner of a Verilog text is inside of. -/
inductive Region where
  | code
  | lineComment
  | blockComment
  deriving DecidableEq, Repr

/-- Whether a character separates tokens. -/
def isSpace (c : Char) : Bool :=
  [' ', '\t', '\n', '\r', '\x0c'].contains c

/-- A text from its first token on, without the white space and the comments in front of it. -/
def fromToken : Region → List Char → List Char
  | _, [] => []
  | .code, '/' :: '/' :: rest => fromToken .lineComment rest
  | .code, '/' :: '*' :: rest => fromToken .blockComment rest
  | .code, c :: rest => if isSpace c then fromToken .code rest else c :: rest
  | .lineComment, c :: rest => fromToken (if c = '\n' then .code else .lineComment) rest
  | .blockComment, '*' :: '/' :: rest => fromToken .code rest
  | .blockComment, _ :: rest => fromToken .blockComment rest

/-- The first token of a text, if it is a word: a keyword or an identifier. -/
def firstWord (text : String) : String :=
  String.ofList ((fromToken .code text.toList).takeWhile fun c =>
    Text.continuesIdentifier c || c == '$')

/-- A line comment ends with its line. -/
theorem fromToken_lineComment {line : List Char} (hline : '\n' ∉ line) (rest : List Char) :
    fromToken .lineComment (line ++ '\n' :: rest) = fromToken .code rest := by
  induction line with
  | nil => rfl
  | cons c more ih =>
    rw [List.mem_cons, not_or] at hline
    rw [List.cons_append, fromToken, if_neg (Ne.symm hline.1)]
    exact ih hline.2

/-- Lines that start with slashes are passed over one by one. -/
theorem fromToken_intercalate {lines : List (List Char)} (hne : lines ≠ [])
    (hlines : ∀ line ∈ lines, '\n' ∉ line ∧ ['/', '/'] <+: line) (rest : List Char) :
    fromToken .code (['\n'].intercalate lines ++ '\n' :: rest) = fromToken .code rest := by
  induction lines with
  | nil => exact absurd rfl hne
  | cons line more ih =>
    obtain ⟨⟨hbreak, comment, rfl⟩, hmore⟩ := List.forall_mem_cons.mp hlines
    have hcomment : '\n' ∉ comment := fun hmem => hbreak (List.mem_append_right _ hmem)
    cases more with
    | nil =>
      rw [List.intercalate_singleton]
      exact fromToken_lineComment hcomment rest
    | cons next lines =>
      rw [List.intercalate_cons_cons, List.append_assoc, List.append_assoc, List.append_assoc,
        List.singleton_append]
      exact (fromToken_lineComment hcomment _).trans (ih (List.cons_ne_nil next lines) hmore)

/-- A text is passed over if each of its lines starts with slashes. -/
theorem fromToken_commentLines {text : String}
    (hlines : ∀ line ∈ Text.lines text, ['/', '/'] <+: line) (rest : List Char) :
    fromToken .code (text.toList ++ '\n' :: rest) = fromToken .code rest := by
  have hpassed := fromToken_intercalate (List.splitOn_ne_nil '\n' text.toList)
    (fun line hline => ⟨Text.notMem_of_mem_splitOn hline, hlines line hline⟩) rest
  rwa [List.intercalate_splitOn] at hpassed

end Verilog

/-! ### The banner -/

/-- A digest has hexadecimal digits only. -/
theorem Digest.notMem_ofText {c : Char} (hc : Numeral.isDigitOf 16 c = false) (text : String) :
    c ∉ (Digest.ofText text).toList := by
  rw [Digest.ofText, String.toList_ofList, List.mem_flatMap]
  rintro ⟨word, -, hmem⟩
  have hread : Numeral.ofDigits? 16 (Numeral.hex word.toNat) = some word.toNat :=
    Numeral.ofDigits?_toDigits (by decide) (by decide) word.toNat
  exact Numeral.notMem_of_ofDigits? (Numeral.ofDigits?_padded hread 8) hc hmem

namespace Hardware

/-- The comment in front of the module, without the line break behind it. -/
def bannerText (config : Config) (provenance : Provenance) : String :=
  "\n".intercalate ((banner config provenance).map ("// " ++ ·))

/-- A text stays inside of a line comment: each further line of it is a comment of its own. -/
def CommentedOut (text : String) : Prop :=
  ∀ line ∈ (Text.lines text).tail, ['/', '/'] <+: line

instance (text : String) : Decidable (CommentedOut text) :=
  inferInstanceAs (Decidable (∀ line ∈ (Text.lines text).tail, ['/', '/'] <+: line))

theorem commentedOut_of_notMem {text : String} (htext : '\n' ∉ text.toList) :
    CommentedOut text := by
  simp [CommentedOut, Text.lines, Text.splitOn_of_notMem htext]

/-- What stands in front of a text on its first line does not matter. -/
theorem commentedOut_append_iff {front : String} (hfront : '\n' ∉ front.toList) (text : String) :
    CommentedOut (front ++ text) ↔ CommentedOut text := by
  rw [CommentedOut, Text.lines, String.toList_append, Text.splitOn_append_of_notMem hfront,
    List.tail_modifyHead]
  rfl

theorem lines_comment_iff (text : String) :
    (∀ line ∈ Text.lines ("// " ++ text), ['/', '/'] <+: line) ↔ CommentedOut text := by
  have hfront : '\n' ∉ "// ".toList := by simp
  obtain ⟨first, more, htext⟩ :=
    List.exists_cons_of_ne_nil (List.splitOn_ne_nil '\n' text.toList)
  rw [Text.lines, String.toList_append, Text.splitOn_append_of_notMem hfront, CommentedOut,
    Text.lines, htext, List.modifyHead_cons, List.forall_mem_cons, List.tail_cons]
  exact and_iff_right ⟨' ' :: first, rfl⟩

variable {config : Config} {provenance : Provenance}

/-- The module stands behind the banner and a blank line. -/
theorem text_eq_append : ∃ rest, text config provenance =
    bannerText config provenance ++ "\n\nmodule " ++ config.moduleName ++ rest := by
  have hne : (banner config provenance).map ("// " ++ ·) ≠ [] := List.cons_ne_nil _ _
  let m := ofConfig config provenance
  refine ⟨" (\n" ++ Text.unlines (Verilog.portLines m.ports ++ [");", ""] ++
    m.items.flatMap Verilog.Item.lines ++ ["endmodule"]), ?_⟩
  have hlines : m.lines = (banner config provenance).map ("// " ++ ·) ++
      ("" :: ("module " ++ config.moduleName ++ " (") ::
        (Verilog.portLines m.ports ++ [");", ""] ++ m.items.flatMap Verilog.Item.lines ++
          ["endmodule"])) := by
    simp [Verilog.Module.lines, m, ofConfig]
  change Text.unlines m.lines = _
  rw [hlines, Text.unlines_append hne, bannerText]
  apply String.toList_inj.mp
  simp [Text.unlines]

/-- Behind a banner of comment lines the first token is the keyword of the module. -/
theorem firstWord_text
    (hlines : ∀ line ∈ Text.lines (bannerText config provenance), ['/', '/'] <+: line) :
    Verilog.firstWord (text config provenance) = "module" := by
  obtain ⟨rest, htext⟩ := @text_eq_append config provenance
  have hchars : (text config provenance).toList = (bannerText config provenance).toList ++
      '\n' :: ("\nmodule ".toList ++ (config.moduleName ++ rest).toList) := by
    rw [htext]
    simp
  rw [Verilog.firstWord, hchars, Verilog.fromToken_commentLines hlines]
  rfl

theorem notMem_bannerRule : '\n' ∉ bannerRule.toList := by
  have hchars : bannerRule.toList = List.replicate 77 '-' := String.toList_ofList
  rw [hchars]
  intro hmem
  cases List.eq_of_mem_replicate hmem

theorem notMem_displayName (protocol : Bus.Protocol) : '\n' ∉ protocol.displayName.toList := by
  cases protocol <;> simp [Bus.Protocol.displayName]

theorem notMem_resetName (reset : Verilog.Reset) : '\n' ∉ (resetName reset).toList := by
  cases reset <;> simp [resetName]

theorem commentedOut_title (hname : IsIdentifier config.moduleName) :
    CommentedOut s!"{config.moduleName}: {config.protocol.displayName} register file" := by
  refine commentedOut_of_notMem ?_
  change '\n' ∉ (config.moduleName ++ ": " ++ config.protocol.displayName ++
    " register file").toList
  simp [hname.notMem, notMem_displayName]

theorem commentedOut_digest (hdigest : '\n' ∉ provenance.digest.toList) :
    CommentedOut s!"Config digest: sha256:{provenance.digest}" := by
  refine commentedOut_of_notMem ?_
  change '\n' ∉ ("Config digest: sha256:" ++ provenance.digest).toList
  simp [hdigest]

theorem commentedOut_widths (config : Config) :
    CommentedOut
      (s!"Data width {config.dataWidth.toNat}, address width {config.addrWidth.toNat}, " ++
        s!"{resetName (.ofSync config.syncReset)} reset") := by
  refine commentedOut_of_notMem ?_
  have hdecimal : ∀ n : Nat, '\n' ∉ Nat.toDigits 10 n := fun n => Numeral.notMem_decimal rfl
  change '\n' ∉ ("Data width " ++ toString config.dataWidth.toNat ++ ", address width " ++
    toString config.addrWidth.toNat ++ ", " ++
    (resetName (.ofSync config.syncReset) ++ " reset")).toList
  simp [hdecimal, notMem_resetName]

/-- The lines of the banner are comments if each of its entries stays inside of one. -/
theorem lines_bannerText_iff :
    (∀ line ∈ Text.lines (bannerText config provenance), ['/', '/'] <+: line) ↔
      ∀ entry ∈ banner config provenance, CommentedOut entry := by
  have hne : (banner config provenance).map ("// " ++ ·) ≠ [] := List.cons_ne_nil _ _
  rw [bannerText, Text.lines_intercalate hne, List.forall_mem_flatMap, List.forall_mem_map]
  exact forall₂_congr fun entry _ => lines_comment_iff entry

/-- Only the tool and the timestamp can leave the comment in front of the module. -/
theorem bannerText_iff (hname : IsIdentifier config.moduleName)
    (hdigest : '\n' ∉ provenance.digest.toList) :
    (∀ line ∈ Text.lines (bannerText config provenance), ['/', '/'] <+: line) ↔
      CommentedOut provenance.tool ∧ CommentedOut provenance.timestamp := by
  have hrule : CommentedOut bannerRule := commentedOut_of_notMem notMem_bannerRule
  have hedit : CommentedOut "Do not edit by hand." := commentedOut_of_notMem (by simp)
  have htool : CommentedOut s!"Generated by {provenance.tool}" ↔ CommentedOut provenance.tool :=
    @commentedOut_append_iff "Generated by " (by simp) provenance.tool
  have htimestamp : CommentedOut s!"Timestamp:     {provenance.timestamp}" ↔
      CommentedOut provenance.timestamp :=
    @commentedOut_append_iff "Timestamp:     " (by simp) provenance.timestamp
  rw [lines_bannerText_iff, banner]
  simp only [List.forall_mem_cons, hrule, commentedOut_title hname, htool, htimestamp,
    commentedOut_digest hdigest, commentedOut_widths config, hedit]
  simp

end Hardware

end RegisterFile
