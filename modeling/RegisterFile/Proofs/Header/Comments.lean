import Mathlib
import RegisterFile.Proofs.Numbers.Header

/-!
What is left of a header without its comments. Lines that end in a backslash are joined first, and
then each comment counts as a space. Descriptions of registers close no comment; the tool and the
timestamp are written as they are.
-/

namespace RegisterFile.Header

/-- Lines that end in a backslash joined with the lines behind them. -/
def joinLines : List Char → List Char
  | '\\' :: '\n' :: rest => joinLines rest
  | c :: rest => c :: joinLines rest
  | [] => []

/-- What the scanner of a C text is inside of. -/
inductive Region where
  | code
  /-- A string or a character constant. -/
  | quoted (mark : Char)
  | lineComment
  | blockComment
  deriving DecidableEq, Repr

/-- A text with a space for each comment. -/
def withoutComments : Region → List Char → List Char
  | _, [] => []
  | .code, '/' :: '*' :: rest => ' ' :: withoutComments .blockComment rest
  | .code, '/' :: '/' :: rest => ' ' :: withoutComments .lineComment rest
  | .code, c :: rest =>
    c :: withoutComments (if c = '"' ∨ c = '\'' then .quoted c else .code) rest
  | .quoted mark, '\\' :: c :: rest => '\\' :: c :: withoutComments (.quoted mark) rest
  | .quoted mark, c :: rest => c :: withoutComments (if c = mark then .code else .quoted mark) rest
  | .lineComment, '\n' :: rest => '\n' :: withoutComments .code rest
  | .lineComment, _ :: rest => withoutComments .lineComment rest
  | .blockComment, '*' :: '/' :: rest => withoutComments .code rest
  | .blockComment, _ :: rest => withoutComments .blockComment rest

/-- The lines of a text, joined where they end in a backslash, without their comments. -/
def codeLines (text : String) : List (List Char) :=
  (withoutComments .code (joinLines text.toList)).splitOn '\n'

/-- What follows the end of a comment. -/
def afterComment : List Char → Option (List Char)
  | '*' :: '/' :: rest => some rest
  | _ :: rest => afterComment rest
  | [] => none

/-- A text ends the comment that it is put into. -/
def Closes (text : String) : Prop :=
  ['*', '/'] <:+: joinLines text.toList

instance (text : String) : Decidable (Closes text) :=
  inferInstanceAs (Decidable (['*', '/'] <:+: joinLines text.toList))

/-- A line that declares nothing: blank, a directive, or one of the braces around declarations that
    C++ is to link as C. -/
def IsInert (line : List Char) : Prop :=
  let text := line.dropWhile (· == ' ')
  text = [] ∨ text.head? = some '#' ∨ text = "extern \"C\" \x7b".toList ∨ text = "\x7d".toList

/-! ### Joined lines -/

theorem joinLines_cons {c : Char} {rest : List Char}
    (hsplice : ¬ (c = '\\' ∧ rest.head? = some '\n')) :
    joinLines (c :: rest) = c :: joinLines rest := by
  rw [joinLines]
  rintro more rfl rfl
  exact hsplice ⟨rfl, rfl⟩

/-- Texts are joined one by one, unless a backslash stands before a line break between them. -/
theorem joinLines_append {front rest : List Char}
    (hsplice : ¬ (front.getLast? = some '\\' ∧ rest.head? = some '\n')) :
    joinLines (front ++ rest) = joinLines front ++ joinLines rest := by
  fun_induction joinLines front with
  | case1 more ih =>
    refine ih fun h => hsplice ⟨?_, h.2⟩
    cases more with
    | nil => cases h.1
    | cons c cs => simpa [List.getLast?_cons_cons] using h.1
  | case2 c more hnot ih =>
    have htail : ¬ (more.getLast? = some '\\' ∧ rest.head? = some '\n') := by
      refine fun h => hsplice ⟨?_, h.2⟩
      cases more with
      | nil => cases h.1
      | cons d cs => simpa [List.getLast?_cons_cons] using h.1
    rw [List.cons_append, joinLines_cons, ih htail, List.cons_append]
    rintro ⟨rfl, hhead⟩
    cases more with
    | nil => exact hsplice ⟨rfl, hhead⟩
    | cons d cs =>
      obtain rfl : d = '\n' := by simpa using hhead
      exact hnot cs rfl rfl
  | case3 => rfl

/-- A line break is kept behind a line that does not end in a backslash. -/
theorem joinLines_line {line : List Char} (hbreak : '\n' ∉ line)
    (hlast : line.getLast? ≠ some '\\') (rest : List Char) :
    joinLines (line ++ '\n' :: rest) = line ++ '\n' :: joinLines rest := by
  have hline : joinLines line = line := by
    clear hlast
    induction line with
    | nil => rfl
    | cons c more ih =>
      rw [List.mem_cons, not_or] at hbreak
      have hhead : more.head? ≠ some '\n' := fun h => hbreak.2 (List.mem_of_mem_head? h)
      rw [joinLines_cons (fun h => hhead h.2), ih hbreak.2]
  rw [joinLines_append (fun h => hlast h.1), hline, joinLines_cons (by simp)]

theorem joinLines_subset (cs : List Char) : joinLines cs ⊆ cs := by
  fun_induction joinLines cs with
  | case1 rest ih => exact fun c hc => List.mem_cons_of_mem _ (List.mem_cons_of_mem _ (ih hc))
  | case2 c rest _ ih => exact List.cons_subset_cons c ih
  | case3 => exact List.Subset.refl []

/-! ### The end of a comment -/

theorem infix_append_cons_iff {c : Char} (hc : c ≠ '*' ∧ c ≠ '/') (front rest : List Char) :
    ['*', '/'] <:+: front ++ c :: rest ↔ ['*', '/'] <:+: front ∨ ['*', '/'] <:+: rest := by
  induction front with
  | nil =>
    have hnot : ¬ ['*', '/'] <+: c :: rest := by
      rw [List.cons_prefix_cons]
      exact fun h => hc.1 h.1.symm
    simp [List.infix_cons_iff, hnot]
  | cons d more ih =>
    have hprefix : ['*', '/'] <+: d :: (more ++ c :: rest) ↔ ['*', '/'] <+: d :: more := by
      cases more with
      | nil => simp [List.cons_prefix_cons, Ne.symm hc.2]
      | cons e cs => simp [List.cons_prefix_cons]
    rw [List.cons_append, List.infix_cons_iff, List.infix_cons_iff, ih, hprefix, or_assoc]

/-- Spaces between texts keep them from closing a comment together. -/
theorem closes_append_space_iff (front back : String) :
    Closes (front ++ " " ++ back) ↔ Closes front ∨ Closes back := by
  have htext : (front ++ " " ++ back).toList = front.toList ++ ' ' :: back.toList := by simp
  have hspace : joinLines (' ' :: back.toList) = ' ' :: joinLines back.toList :=
    joinLines_cons (by simp)
  rw [Closes, htext, joinLines_append (by simp), hspace]
  exact infix_append_cons_iff (by simp) _ _

/-- So do line breaks, even if a backslash hides them. -/
theorem closes_append_break_iff (front back : String) :
    Closes (front ++ "\n " ++ back) ↔ Closes front ∨ Closes back := by
  have htext : (front ++ "\n " ++ back).toList = front.toList ++ '\n' :: ' ' :: back.toList := by
    simp
  have hspace : joinLines (' ' :: back.toList) = ' ' :: joinLines back.toList :=
    joinLines_cons (by simp)
  rw [Closes, htext]
  by_cases hlast : front.toList.getLast? = some '\\'
  · obtain ⟨more, hmore⟩ := List.getLast?_eq_some_iff.mp hlast
    have hfront : joinLines front.toList = joinLines more ++ ['\\'] := by
      rw [hmore, joinLines_append (by simp)]
      rfl
    have hsplice : joinLines ('\\' :: '\n' :: ' ' :: back.toList) = ' ' :: joinLines back.toList :=
      hspace
    have hcloses : Closes front ↔ ['*', '/'] <:+: joinLines more := by
      rw [Closes, hfront, infix_append_cons_iff (by simp)]
      simp
    rw [hcloses, hmore, List.append_assoc, List.singleton_append, joinLines_append (by simp),
      hsplice]
    exact infix_append_cons_iff (by simp) _ _
  · have hbreak : joinLines ('\n' :: ' ' :: back.toList) =
        '\n' :: ' ' :: joinLines back.toList := by
      rw [joinLines_cons (by simp), hspace]
    have hback : ['*', '/'] <:+: ' ' :: joinLines back.toList ↔ Closes back := by
      have hfirst := infix_append_cons_iff (c := ' ') (by simp) [] (joinLines back.toList)
      rwa [List.nil_append, or_iff_right (by simp)] at hfirst
    rw [joinLines_append (fun h => hlast h.1), hbreak, infix_append_cons_iff (by simp), hback]
    rfl

/-- A text without slashes closes nothing. -/
theorem not_closes {text : String} (htext : '/' ∉ text.toList) : ¬ Closes text :=
  fun h => htext (joinLines_subset _ (h.subset (by simp)))

theorem afterComment_cons {c : Char} {cs : List Char} (hopen : ¬ ['*', '/'] <+: c :: cs) :
    afterComment (c :: cs) = afterComment cs := by
  rw [afterComment]
  rintro rest rfl rfl
  exact hopen ⟨rest, rfl⟩

theorem prefix_terminated_iff {c : Char} (body rest : List Char) :
    ['*', '/'] <+: c :: (body ++ '*' :: '/' :: rest) ↔ ['*', '/'] <+: c :: body := by
  cases body <;> simp [List.cons_prefix_cons]

/-- A comment ends at its terminator if nothing in it ends it before, and only then. -/
theorem afterComment_append_iff (body rest : List Char) :
    afterComment (body ++ '*' :: '/' :: rest) = some rest ↔ ¬ ['*', '/'] <:+: body := by
  induction body with
  | nil => simp [afterComment]
  | cons c body ih =>
    by_cases hclose : ['*', '/'] <+: c :: body
    · have hinfix : ['*', '/'] <:+: c :: body := hclose.isInfix
      obtain ⟨more, heq⟩ := hclose
      have hearly : afterComment (c :: body ++ '*' :: '/' :: rest) =
          some (more ++ '*' :: '/' :: rest) := by
        rw [← heq]
        rfl
      have hlonger : more ++ '*' :: '/' :: rest ≠ rest := by
        intro hsame
        have hlength := congrArg List.length hsame
        simp only [List.length_append, List.length_cons] at hlength
        omega
      rw [hearly, Option.some_inj]
      exact iff_of_false hlonger (not_not_intro hinfix)
    · have hopen : ¬ ['*', '/'] <+: c :: (body ++ '*' :: '/' :: rest) := by
        rwa [prefix_terminated_iff]
      rw [List.cons_append, afterComment_cons hopen, ih, List.infix_cons_iff, or_iff_right hclose]

/-! ### Removed comments -/

theorem withoutComments_blockComment (cs : List Char) :
    withoutComments .blockComment cs = ((afterComment cs).map (withoutComments .code)).getD [] := by
  fun_induction afterComment cs with
  | case1 rest => simp [withoutComments]
  | case2 c rest hnot ih =>
    rw [withoutComments, ih]
    exact hnot
  | case3 => rfl

/-- Characters that start no comment and no constant are kept. -/
def isPlain (c : Char) : Bool :=
  c != '/' && c != '"' && c != '\''

theorem withoutComments_plain {front : List Char} (hfront : front.all isPlain = true)
    (rest : List Char) :
    withoutComments .code (front ++ rest) = front ++ withoutComments .code rest := by
  induction front with
  | nil => rfl
  | cons c more ih =>
    rw [List.all_cons, Bool.and_eq_true] at hfront
    obtain ⟨⟨hslash, hdouble⟩, hsingle⟩ : (c ≠ '/' ∧ c ≠ '"') ∧ c ≠ '\'' := by
      simpa [isPlain] using hfront.1
    have hquote : ¬ (c = '"' ∨ c = '\'') := not_or.mpr ⟨hdouble, hsingle⟩
    rw [List.cons_append, withoutComments, if_neg hquote, ih hfront.2, List.cons_append]
    · exact fun _ h => absurd h hslash
    · exact fun _ h => absurd h hslash

/-- A comment in a line counts as a space. -/
theorem withoutComments_comment {text : List Char} (hopen : ¬ ['*', '/'] <:+: text)
    (rest : List Char) :
    withoutComments .code ('/' :: '*' :: (text ++ '*' :: '/' :: rest)) =
      ' ' :: withoutComments .code rest := by
  rw [withoutComments, withoutComments_blockComment, (afterComment_append_iff text rest).mpr hopen]
  rfl

/-- A line that is read on its own, and that declares nothing. -/
structure Harmless (line : String) : Prop where
  single : '\n' ∉ line.toList
  ended : line.toList.getLast? ≠ some '\\'
  cleared : ∃ cleared, '\n' ∉ cleared ∧ IsInert cleared ∧ ∀ rest,
    withoutComments .code (line.toList ++ '\n' :: rest) =
      cleared ++ '\n' :: withoutComments .code rest

/-- Harmless lines leave inert lines when their comments are removed. -/
theorem isInert_unlines {lines : List String} (hlines : ∀ line ∈ lines, Harmless line) :
    ∀ line ∈ codeLines (Text.unlines lines), IsInert line := by
  induction lines with
  | nil =>
    intro line hline
    obtain rfl := List.mem_singleton.mp hline
    exact .inl rfl
  | cons line more ih =>
    obtain ⟨⟨hsingle, hended, cleared, hbreak, hinert, hcleared⟩, hmore⟩ :=
      List.forall_mem_cons.mp hlines
    have htext : (Text.unlines (line :: more)).toList =
        line.toList ++ '\n' :: (Text.unlines more).toList := by
      simp [Text.unlines]
    rw [codeLines, htext, joinLines_line hsingle hended, hcleared, Text.splitOn_append_cons,
      Text.splitOn_of_notMem hbreak, List.singleton_append, List.forall_mem_cons]
    exact ⟨hinert, ih hmore⟩

/-- A directive without comments is harmless. -/
theorem Harmless.plain {line : String} (hplain : line.toList.all isPlain = true)
    (hinert : IsInert line.toList) (hsingle : '\n' ∉ line.toList)
    (hended : line.toList.getLast? ≠ some '\\') : Harmless line where
  single := hsingle
  ended := hended
  cleared := by
    refine ⟨line.toList, hsingle, hinert, fun rest => ?_⟩
    rw [withoutComments_plain hplain, withoutComments]
    · rw [if_neg (by simp)]
    · simp
    · simp

/-- A comment is harmless, alone in its line or behind a directive. -/
theorem Harmless.comment {front text : String} (hplain : front.toList.all isPlain = true)
    (hinert : IsInert (front ++ " ").toList) (hopen : ¬ ['*', '/'] <:+: text.toList)
    (hfront : '\n' ∉ front.toList) (htext : '\n' ∉ text.toList) :
    Harmless (front ++ (Line.comment text).text) where
  single := by simp [Line.text, hfront, htext]
  ended := by
    have hline : (front ++ (Line.comment text).text).toList =
        (front ++ "/* " ++ text ++ " *").toList ++ ['/'] := by simp [Line.text]
    rw [hline, List.getLast?_concat]
    decide
  cleared := by
    refine ⟨(front ++ " ").toList, by simp [hfront], hinert, fun rest => ?_⟩
    have hline : (front ++ (Line.comment text).text).toList ++ '\n' :: rest = front.toList ++
        '/' :: '*' :: ((" " ++ text ++ " ").toList ++ '*' :: '/' :: '\n' :: rest) := by
      simp [Line.text]
    have hinside : ¬ ['*', '/'] <:+: (" " ++ text ++ " ").toList := by
      have hchars : (" " ++ text ++ " ").toList = [] ++ ' ' :: (text.toList ++ ' ' :: []) := by simp
      rw [hchars, infix_append_cons_iff (by simp), infix_append_cons_iff (by simp)]
      simp [hopen]
    rw [hline, withoutComments_plain hplain, withoutComments_comment hinside, withoutComments]
    · simp
    · simp
    · simp

/-! ### The header -/

variable {config : Config} {provenance : Provenance} {register : Register}

theorem head?_openComment (cs : List Char) : (openComment cs).head? = cs.head? := by
  fun_cases openComment cs <;> rfl

/-- Escaped, a text closes no comment: the space put in keeps an asterisk from the slash behind
    it, and no other slash comes behind an asterisk by that. -/
theorem openComment_open (cs : List Char) : ¬ ['*', '/'] <:+: openComment cs := by
  fun_induction openComment cs with
  | case1 rest ih =>
    rw [List.infix_cons_iff, List.infix_cons_iff, List.infix_cons_iff]
    simp [List.cons_prefix_cons, ih]
  | case2 c rest hnot ih =>
    rw [List.infix_cons_iff, or_iff_left ih, List.cons_prefix_cons]
    rintro ⟨rfl, more, hmore⟩
    have hhead : rest.head? = some '/' := by
      rw [← head?_openComment, ← hmore]
      rfl
    obtain ⟨behind, rfl⟩ := List.head?_eq_some_iff.mp hhead
    exact hnot behind rfl rfl
  | case3 => simp

theorem registerComment_open (hname : IsIdentifier register.name) :
    ¬ ['*', '/'] <:+: (registerComment register).toList := by
  have htype : ∀ type : RegisterType, '/' ∉ type.name.toList := by
    intro type
    cases type <;> simp [RegisterType.name]
  have htitle : '/' ∉ (s!"{register.name} ({register.type.name})").toList := by
    change '/' ∉ (register.name ++ " (" ++ register.type.name ++ ")").toList
    simp [hname.notMem, htype]
  dsimp only [registerComment]
  generalize s!"{register.name} ({register.type.name})" = title at htitle
  split
  · exact fun h => htitle (h.subset (by simp))
  · have hchars : (title ++ ": " ++ commentText register.description).toList =
        (title ++ ":").toList ++
          ' ' :: openComment (Text.onOneLine register.description).toList := by
      simp [commentText]
    rw [hchars, infix_append_cons_iff (by simp), not_or]
    refine ⟨fun h => ?_, openComment_open _⟩
    have hslash : '/' ∈ (title ++ ":").toList := h.subset (by simp)
    simp [htitle] at hslash

/-- The comment at the top of a header, as far as the timestamp. -/
def topCommentFront (config : Config) (tool timestamp : String) : String :=
  "\n * " ++ config.moduleName ++ " register definitions" ++ "\n * Generated by " ++ tool ++
    "\n * Timestamp: " ++ timestamp

/-- What stands in the comment at the top of a header. -/
def topComment (config : Config) (provenance : Provenance) : String :=
  topCommentFront config provenance.tool provenance.timestamp ++ "\n * Do not edit by hand.\n "

/-- The lines of a header behind the comment at its top. -/
def File.contents (file : File) : List String :=
  ["", "#ifndef " ++ file.guard, "#define " ++ file.guard, "", "#include <stdint.h>", ""] ++
    linkage "extern \"C\" \x7b" ++ file.body.map Line.text ++ [""] ++ linkage "\x7d" ++
    ["#endif /* " ++ file.guard ++ " */"]

theorem text_eq_append : (File.ofConfig config provenance).text =
    "/*" ++ topComment config provenance ++ "*/\n" ++
      Text.unlines (File.ofConfig config provenance).contents := by
  have hlines : (File.ofConfig config provenance).lines =
      ["/*", " * " ++ (config.moduleName ++ " register definitions"),
        " * " ++ ("Generated by " ++ provenance.tool),
        " * " ++ ("Timestamp: " ++ provenance.timestamp), " * Do not edit by hand.", " */"] ++
        (File.ofConfig config provenance).contents := rfl
  apply String.toList_inj.mp
  change (Text.unlines (File.ofConfig config provenance).lines).toList = _
  rw [hlines]
  simp [Text.unlines, topComment, topCommentFront]

theorem closes_topCommentFront_iff (hname : IsIdentifier config.moduleName)
    (tool timestamp : String) :
    Closes (topCommentFront config tool timestamp) ↔ Closes tool ∨ Closes timestamp := by
  have hpieces : topCommentFront config tool timestamp =
      "" ++ "\n " ++ ("* " ++ config.moduleName ++ " register definitions") ++
        "\n " ++ "* Generated by" ++ " " ++ tool ++
        "\n " ++ "* Timestamp:" ++ " " ++ timestamp := by
    apply String.toList_inj.mp
    simp [topCommentFront]
  have hempty : ¬ Closes "" := not_closes (by simp)
  have htitle : ¬ Closes ("* " ++ config.moduleName ++ " register definitions") :=
    not_closes (by simp [hname.notMem])
  have hgenerated : ¬ Closes "* Generated by" := not_closes (by simp)
  have htime : ¬ Closes "* Timestamp:" := not_closes (by simp)
  rw [hpieces]
  simp only [closes_append_break_iff, closes_append_space_iff, hempty, htitle, hgenerated, htime,
    false_or, or_false]

/-- Only the tool and the timestamp can close the comment at the top of a header. -/
theorem closes_topComment_iff (hname : IsIdentifier config.moduleName) :
    Closes (topComment config provenance) ↔
      Closes provenance.tool ∨ Closes provenance.timestamp := by
  have hpieces : topComment config provenance =
      topCommentFront config provenance.tool provenance.timestamp ++
        "\n " ++ "* Do not edit by hand." ++ "\n " ++ "" := by
    apply String.toList_inj.mp
    simp [topComment]
  have hedit : ¬ Closes "* Do not edit by hand." := not_closes (by simp)
  have hempty : ¬ Closes "" := not_closes (by simp)
  rw [hpieces, closes_append_break_iff, closes_append_break_iff, or_iff_left hempty,
    or_iff_left hedit, closes_topCommentFront_iff hname]

theorem isPlain_of_isMacroChar {c : Char} (hc : isMacroChar c = true) : isPlain c = true := by
  rw [isPlain, Bool.and_eq_true, Bool.and_eq_true, bne_iff_ne, bne_iff_ne, bne_iff_ne]
  refine ⟨⟨?_, ?_⟩, ?_⟩ <;>
  · rintro rfl
    cases hc

/-- A line of the characters of macros is harmless if it declares nothing. -/
theorem InMacro.harmless {line : String} (hline : InMacro line) (hinert : IsInert line.toList) :
    Harmless line :=
  .plain (List.all_eq_true.mpr fun c hc => isPlain_of_isMacroChar (List.all_eq_true.mp hline c hc))
    hinert (hline.notMem rfl) fun h => hline.notMem rfl (List.mem_of_getLast? h)

theorem harmless_blank : Harmless "" :=
  InMacro.harmless rfl (.inl rfl)

theorem harmless_define {m : Macro} (hname : IsName m.name) (hmentions : m.MentionsNames) :
    Harmless m.text := by
  refine (inMacro_text hname hmentions).harmless (.inr (.inl ?_))
  simp [Macro.text]

theorem harmless_linkage {brace : String} (hbrace : Harmless brace) :
    ∀ line ∈ linkage brace, Harmless line := by
  have hopening : Harmless "#ifdef __cplusplus" :=
    InMacro.harmless rfl (.inr (.inl rfl))
  have hclosing : Harmless "#endif" := InMacro.harmless rfl (.inr (.inl rfl))
  simp [linkage, hbrace, hopening, hclosing, harmless_blank]

theorem harmless_extern : Harmless "extern \"C\" \x7b" where
  single := by simp
  ended := by simp
  cleared := by
    refine ⟨"extern \"C\" \x7b".toList, by simp, .inr (.inr (.inl (by simp))), fun rest => ?_⟩
    rfl

theorem harmless_registerLines (hwf : config.WellFormed) (hmem : register ∈ config.registers) :
    ∀ line ∈ registerLines config config.moduleName.toUpper register, Harmless line.text := by
  let width := (config.registerWidth register).toNat
  have hcomment : ∀ {text : String}, ¬ ['*', '/'] <:+: text.toList → '\n' ∉ text.toList →
      Harmless (Line.comment text).text := fun hopen htext => by
    simpa using @Harmless.comment "" _ (by simp) (.inl (by simp)) hopen (by simp) htext
  have hname := hwf.registerName register hmem
  intro line hline
  rcases List.mem_append.mp hline with hline | hline
  · rcases List.mem_append.mp hline with hline | hline
    · rcases List.mem_pair.mp hline with rfl | rfl
      · exact harmless_blank
      · exact hcomment (registerComment_open hname) (newline_comment hname)
    · split at hline
      · cases hline
      · obtain rfl := List.mem_singleton.mp hline
        have hchars : ∀ c : Char, c.isDigit = false →
            c ∉ "-bit register: values split into 64-bit halves".toList →
            c ∉ (s!"{width}-bit register: values split into 64-bit halves").toList := by
          intro c hdigit hc
          change c ∉ (toString width ++ "-bit register: values split into 64-bit halves").toList
          rw [String.toList_append, List.mem_append, not_or, Nat.toString_eq_repr,
            Nat.toList_repr]
          exact ⟨Numeral.notMem_decimal hdigit, hc⟩
        refine hcomment (fun h => hchars '/' (by simp) (by simp) (h.subset (by simp))) ?_
        exact hchars '\n' (by simp) (by simp)
  · obtain ⟨m, hm, rfl⟩ := List.mem_map.mp hline
    have hname := isName_macro hwf hmem hm
    exact harmless_define hname (mentionsNames_registerMacros hwf hmem hm)

theorem harmless_contents (hwf : config.WellFormed) :
    ∀ line ∈ (File.ofConfig config provenance).contents, Harmless line := by
  let guard := config.moduleName.toUpper ++ "_H"
  have hguard : IsName guard := (IsName.toUpper hwf.moduleName).append rfl
  have hinclude : Harmless "#include <stdint.h>" :=
    .plain rfl (.inr (.inl rfl)) (by simp) (by simp)
  have hifndef : InMacro ("#ifndef " ++ guard) := .append rfl hguard.inMacro
  have hdefine : InMacro ("#define " ++ guard) := .append rfl hguard.inMacro
  have hopen : ¬ ['*', '/'] <:+: guard.toList := fun h =>
    hguard.notMem (c := '/') rfl (h.subset (by simp))
  have hendif : Harmless ("#endif /* " ++ guard ++ " */") := by
    have hline : "#endif /* " ++ guard ++ " */" = "#endif " ++ (Line.comment guard).text := by
      apply String.toList_inj.mp
      simp [Line.text]
    rw [hline]
    exact .comment rfl (.inr (.inl (by simp))) hopen (by simp) (hguard.notMem rfl)
  have hwidth : ∀ ending, IsName ending → ∀ value,
      Harmless (Line.define ⟨config.moduleName.toUpper ++ ending, [], .decimal value⟩).text :=
    fun _ hending _ => harmless_define ((IsName.toUpper hwf.moduleName).append hending)
      ⟨by simp, by simp [Expr.names]⟩
  have hbody : ∀ line ∈ (File.ofConfig config provenance).body.map Line.text, Harmless line := by
    refine List.forall_mem_map.mpr fun line hline => ?_
    rcases List.mem_append.mp hline with hline | hline
    · rcases List.mem_pair.mp hline with rfl | rfl
      · exact hwidth "_DATA_WIDTH" rfl _
      · exact hwidth "_ADDR_WIDTH" rfl _
    · obtain ⟨register, hmem, hline⟩ := List.mem_flatMap.mp hline
      exact harmless_registerLines hwf hmem line hline
  have hbrace : Harmless "\x7d" :=
    .plain rfl (.inr (.inr (.inr (by simp)))) (by simp) (by simp)
  have hopening : ∀ line ∈ ["", "#ifndef " ++ guard, "#define " ++ guard, "",
      "#include <stdint.h>", ""], Harmless line := by
    simp [harmless_blank, hinclude, hifndef.harmless (.inr (.inl (by simp))),
      hdefine.harmless (.inr (.inl (by simp)))]
  simp only [File.contents, List.forall_mem_append, List.forall_mem_singleton]
  exact ⟨⟨⟨⟨⟨hopening, harmless_linkage harmless_extern⟩, hbody⟩, harmless_blank⟩,
    harmless_linkage hbrace⟩, hendif⟩

/-- A header once its lines are joined, cut at the end of the comment at its top. -/
theorem joinLines_text (config : Config) (provenance : Provenance) :
    joinLines (File.ofConfig config provenance).text.toList =
      '/' :: '*' :: (joinLines (topComment config provenance).toList ++
        '*' :: '/' :: '\n' ::
          joinLines (Text.unlines (File.ofConfig config provenance).contents).toList) := by
  have hchars : (File.ofConfig config provenance).text.toList =
      '/' :: '*' :: ((topComment config provenance).toList ++ '*' :: '/' :: '\n' ::
        (Text.unlines (File.ofConfig config provenance).contents).toList) := by
    rw [text_eq_append]
    simp
  rw [hchars, joinLines_cons (by simp), joinLines_cons (by simp), joinLines_append (by simp),
    joinLines_cons (by simp), joinLines_cons (by simp), joinLines_cons (by simp)]

/-- The comment at the top of a header ends where it is meant to, unless the tool or the timestamp
    ends it before. -/
theorem afterComment_text_iff (hname : IsIdentifier config.moduleName) :
    afterComment ((joinLines (File.ofConfig config provenance).text.toList).drop 2) =
        some ('\n' :: joinLines (Text.unlines (File.ofConfig config provenance).contents).toList) ↔
      ¬ Closes provenance.tool ∧ ¬ Closes provenance.timestamp := by
  rw [joinLines_text, List.drop_succ_cons, List.drop_succ_cons, List.drop_zero,
    afterComment_append_iff, ← not_or]
  exact not_congr (closes_topComment_iff hname)

/-- A header declares nothing outside of its comments if the tool and the timestamp close none. -/
theorem isInert_text (hwf : config.WellFormed) (htool : ¬ Closes provenance.tool)
    (htimestamp : ¬ Closes provenance.timestamp) :
    ∀ line ∈ codeLines (File.ofConfig config provenance).text, IsInert line := by
  have hopen : ¬ ['*', '/'] <:+: joinLines (topComment config provenance).toList := fun h =>
    ((closes_topComment_iff hwf.moduleName).mp h).elim htool htimestamp
  have hbreak : ∀ rest, ' ' :: withoutComments .code ('\n' :: rest) =
      [' '] ++ '\n' :: withoutComments .code rest := fun _ => rfl
  rw [codeLines, joinLines_text, withoutComments_comment hopen, hbreak, Text.splitOn_append_cons,
    Text.splitOn_of_notMem (by simp), List.singleton_append, List.forall_mem_cons]
  exact ⟨.inl (by simp), isInert_unlines (harmless_contents hwf)⟩

/-- What a timestamp has behind the end of the comment becomes a line of the declarations. -/
theorem mem_of_closing_timestamp (hname : IsIdentifier config.moduleName)
    {tool before code : String} (digest : String) (htool : ¬ Closes tool)
    (hbefore : ¬ Closes before) (hplain : code.toList.all isPlain = true)
    (hsingle : '\n' ∉ code.toList) (hended : code.toList.getLast? ≠ some '\\') :
    code.toList ∈ codeLines
      (File.ofConfig config ⟨tool, before ++ "*/\n" ++ code, digest⟩).text := by
  let provenance : Provenance := ⟨tool, before ++ "*/\n" ++ code, digest⟩
  let front := topCommentFront config tool before
  let back := "\n * Do not edit by hand.\n */\n" ++
    Text.unlines (File.ofConfig config provenance).contents
  have hopen : ¬ ['*', '/'] <:+: joinLines front.toList := fun h =>
    ((closes_topCommentFront_iff hname tool before).mp h).elim htool hbefore
  have hchars : (File.ofConfig config provenance).text.toList = '/' :: '*' ::
      (front.toList ++ '*' :: '/' :: '\n' :: (code.toList ++ '\n' :: back.toList.tail)) := by
    rw [text_eq_append]
    simp [topComment, topCommentFront, front, back, provenance]
  have hjoined : joinLines (File.ofConfig config provenance).text.toList = '/' :: '*' ::
      (joinLines front.toList ++ '*' :: '/' :: '\n' ::
        (code.toList ++ '\n' :: joinLines back.toList.tail)) := by
    rw [hchars, joinLines_cons (by simp), joinLines_cons (by simp), joinLines_append (by simp),
      joinLines_cons (by simp), joinLines_cons (by simp), joinLines_cons (by simp),
      joinLines_line hsingle hended]
  have hbreak : ∀ rest, withoutComments .code ('\n' :: rest) =
      '\n' :: withoutComments .code rest := fun _ => rfl
  rw [codeLines, hjoined, withoutComments_comment hopen, hbreak, withoutComments_plain hplain,
    hbreak, ← List.singleton_append, Text.splitOn_append_cons, Text.splitOn_append_cons,
    Text.splitOn_of_notMem hsingle]
  simp

end RegisterFile.Header
