import Mathlib
import RegisterFile.Proofs.Hardware.Banner
import RegisterFile.Proofs.Header.Comments
import RegisterFile.Proofs.Validate.Accepts

/-!
Free text in the comments of generated files: descriptions of registers, the name of the tool and
the timestamp. Descriptions are put on one line and escaped, and so they never leave their comment.
The tool and the timestamp are written as they are: they stay in the comments exactly if their
further lines are comments of their own and nothing in them ends a comment.
-/

namespace RegisterFile

/-- Where the free text of the Verilog module and the C header of a register file ends up. -/
structure FreeTextConfined (config : Config) (provenance : Provenance) : Prop where
  /-- The banner stands in front of the module. -/
  module : ∃ rest, Hardware.text config provenance =
    Hardware.bannerText config provenance ++ "\n\nmodule " ++ config.moduleName ++ rest
  /-- Its lines are all comments if the tool and the timestamp allow it. -/
  banner : (∀ line ∈ Text.lines (Hardware.bannerText config provenance), ['/', '/'] <+: line) ↔
    Hardware.CommentedOut provenance.tool ∧ Hardware.CommentedOut provenance.timestamp
  /-- Then no token comes before the keyword of the module. -/
  firstWord : Hardware.CommentedOut provenance.tool → Hardware.CommentedOut provenance.timestamp →
    Verilog.firstWord (Hardware.text config provenance) = "module"
  /-- The comment at the top of the header ends in front of its contents, unless the tool or the
      timestamp ends it before. -/
  topComment : Header.afterComment ((Header.joinLines
      (Header.File.ofConfig config provenance).text.toList).drop 2) = some ('\n' :: Header.joinLines
        (Text.unlines (Header.File.ofConfig config provenance).contents).toList) ↔
    ¬ Header.Closes provenance.tool ∧ ¬ Header.Closes provenance.timestamp
  /-- Then directives, the braces of C++ and blank lines are all there is outside of comments. -/
  header : ¬ Header.Closes provenance.tool → ¬ Header.Closes provenance.timestamp →
    ∀ line ∈ Header.codeLines (Header.File.ofConfig config provenance).text, Header.IsInert line

/-- Whatever the descriptions of an accepted register file are, only the tool and the timestamp can
    leave the comments that they are written into. -/
theorem freeTextConfined_of_isValid {config : Config} (hvalid : (validate config).isValid = true)
    (tool timestamp : String) :
    FreeTextConfined config (.ofConfig tool timestamp config) := by
  have hwf := Validate.wellFormed_of_isValid hvalid
  have hdigest : '\n' ∉ (Provenance.ofConfig tool timestamp config).digest.toList :=
    Digest.notMem_ofText (by decide) config.canonical
  have hbanner := Hardware.bannerText_iff hwf.moduleName hdigest
  exact {
    module := Hardware.text_eq_append
    banner := hbanner
    firstWord := fun htool htimestamp => Hardware.firstWord_text (hbanner.mpr ⟨htool, htimestamp⟩)
    topComment := Header.afterComment_text_iff hwf.moduleName
    header := Header.isInert_text hwf }

/-- A register file with a register whose description tries to end its comment. -/
def Config.described : Config where
  moduleName := "regs"
  registers := [{ name := "CTRL", address := some 0, description := "ends */ or **//\n*/ int x;" }]

/-- The description stays in its comment, next to a timestamp of two lines. -/
theorem freeTextConfined_described :
    (validate Config.described).isValid = true ∧
      Verilog.firstWord (Hardware.text .described (.ofConfig "regforge" "0\n// UTC" .described)) =
        "module" ∧
      ∀ line ∈ Header.codeLines (Header.File.ofConfig .described
        (.ofConfig "regforge" "0\n// UTC" .described)).text, Header.IsInert line := by
  have hvalid : (validate Config.described).isValid = true := by decide +kernel
  have hconfined := freeTextConfined_of_isValid hvalid "regforge" "0\n// UTC"
  have htool : Hardware.CommentedOut "regforge" := Hardware.commentedOut_of_notMem (by simp)
  have htimestamp : Hardware.CommentedOut "0\n// UTC" := by decide
  have htoolOpen : ¬ Header.Closes "regforge" := Header.not_closes (by simp)
  have htimestampOpen : ¬ Header.Closes "0\n// UTC" := by decide
  exact ⟨hvalid, hconfined.firstWord htool htimestamp, hconfined.header htoolOpen htimestampOpen⟩

/-- A timestamp that ends the comments: a line of the banner is no comment, and the header declares
    a variable. -/
theorem not_confined_timestamp :
    (validate Config.described).isValid = true ∧
      ¬ (∀ line ∈ Text.lines (Hardware.bannerText .described
        (.ofConfig "regforge" "now */\nint x;" .described)), ['/', '/'] <+: line) ∧
      "int x;".toList ∈ Header.codeLines (Header.File.ofConfig .described
        (.ofConfig "regforge" "now */\nint x;" .described)).text ∧
      ¬ Header.IsInert "int x;".toList := by
  have hvalid : (validate Config.described).isValid = true := by decide +kernel
  have hname := (Validate.wellFormed_of_isValid hvalid).moduleName
  -- the digest is not computed
  obtain ⟨digest, hdigest, hprovenance⟩ : ∃ digest : String, '\n' ∉ digest.toList ∧
      Provenance.ofConfig "regforge" "now */\nint x;" .described =
        ⟨"regforge", "now " ++ "*/\n" ++ "int x;", digest⟩ :=
    ⟨_, Digest.notMem_ofText (by decide) Config.described.canonical, rfl⟩
  have htool : ¬ Header.Closes "regforge" := Header.not_closes (by simp)
  have hbefore : ¬ Header.Closes "now " := Header.not_closes (by simp)
  have htimestamp : ¬ Hardware.CommentedOut ("now " ++ "*/\n" ++ "int x;") := by decide
  rw [hprovenance]
  refine ⟨hvalid, ?_, ?_, by simp [Header.IsInert]⟩
  · exact fun hlines => htimestamp ((Hardware.bannerText_iff hname hdigest).mp hlines).2
  · exact Header.mem_of_closing_timestamp hname digest htool hbefore (by decide) (by simp) (by simp)

end RegisterFile
