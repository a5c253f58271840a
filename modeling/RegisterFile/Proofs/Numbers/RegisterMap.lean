import Mathlib
import RegisterFile.Proofs.Numbers.Reading
import RegisterFile.Proofs.Text.Identifier
import RegisterFile.RegisterMap

/-!
The numbers of a register in the register map: the memory map has a row for it, in which bars stand
between the cells, and its own section has a line for each of them.
-/

namespace RegisterFile

namespace RegisterMap

/-- A hexadecimal number between a front and a back. -/
def hex? (front back cs : List Char) : Option Nat := do
  let (value, rest) ← Numeral.leading? 16 (← Text.after? (front ++ ['0', 'x']) cs)
  if rest = back then some value else none

/-- A number in a line of a section, in the form of code. -/
def lineNumber? (front text : String) : Option Nat :=
  (Text.lineAfter? front text).bind (hex? ['`'] ['`'])

/-- The number in a cell of a row; cell 0 is in front of the first bar. -/
def cellNumber? (column : Nat) (row : String) : Option Nat :=
  (row.toList.splitOn '|')[column]?.bind (hex? [' '] [' '])

/-- The section of a register. -/
def block (config : Config) (register : Register) : String :=
  Text.unlines (registerSection config register)

/-- A register map states an address and a reset value for a register, in its section and in the
    memory map. -/
structure States (config : Config) (register : Register) (text : String)
    (address reset : Nat) : Prop where
  sectionWithin : Text.Within (block config register) text
  sectionAddress : lineNumber? "- **Address:** " (block config register) = some address
  sectionReset : lineNumber? "- **Reset value:** " (block config register) = some reset
  rowWithin : Text.Within (row (memoryRow config register)) text
  rowAddress : cellNumber? 1 (row (memoryRow config register)) = some address
  rowReset : cellNumber? 4 (row (memoryRow config register)) = some reset

theorem hex?_padded (front back : List Char) {c : Char} (hc : Numeral.isDigitOf 16 c = false)
    (width value : Nat) :
    hex? front (c :: back)
      (front ++ ((Numeral.paddedHexText width value).toList ++ c :: back)) = some value := by
  let digits := Numeral.padded (Numeral.hexDigitCount width) (Numeral.HEX value)
  have htext : front ++ ((Numeral.paddedHexText width value).toList ++ c :: back) =
      (front ++ ['0', 'x']) ++ (digits ++ c :: back) := by
    simp [Numeral.paddedHexText, digits]
  have hread : Numeral.leading? 16 (digits ++ c :: back) = some (value, c :: back) :=
    Numeral.leading?_padded hc _ value back
  rw [htext, hex?, Text.after?_append]
  simp [hread]

/-- A padded number consists of its digits and the letter in front of them. -/
theorem notMem_padded {c : Char} (hc : Numeral.isDigitOf 16 c = false) (hx : c ≠ 'x')
    (width value : Nat) : c ∉ (Numeral.paddedHexText width value).toList := by
  have hzero : c ≠ '0' := by
    rintro rfl
    exact absurd hc (by decide)
  have hdigits := Numeral.notMem_padded hc (Numeral.hexDigitCount width) value
  simpa [Numeral.paddedHexText, hzero, hx] using hdigits

variable {config : Config} {provenance : Provenance} {register : Register}

theorem section_within (hmem : register ∈ config.registers) :
    Text.Within (block config register) (text config provenance) := by
  change Text.Within _ (Text.unlines (lines config provenance))
  apply Text.within_unlines
  exact (Text.infix_flatMap hmem (registerSection config)).trans (List.suffix_append _ _).isInfix

theorem row_within (hmem : register ∈ config.registers) :
    Text.Within (row (memoryRow config register)) (text config provenance) := by
  change Text.Within _ (Text.unlines (lines config provenance))
  apply Text.within_of_mem
  have hsorted : register ∈ byAddress config.registers := List.mem_mergeSort.mpr hmem
  have hrow : row (memoryRow config register) ∈ memoryMap config := by
    rw [memoryMap, if_neg (by simpa using List.ne_nil_of_mem hmem)]
    apply List.mem_append_left
    apply List.mem_append_right
    exact List.mem_cons_of_mem _ (List.mem_cons_of_mem _
      (List.mem_map_of_mem (List.mem_map_of_mem hsorted)))
  exact List.mem_append_left _ (List.mem_append_right _ hrow)

/-- The lines of a section up to the reset value. -/
theorem section_eq : ∃ more, registerSection config register =
    ["## " ++ register.name, ""] ++ ("- **Address:** `" ++ addressText config register ++ "`") ::
      (["- **Type:** " ++ register.type.name,
        "- **Width:** " ++ toString (config.registerWidth register).toNat ++ " bits"] ++
      ("- **Reset value:** `" ++ registerReset config register ++ "`") :: more) := by
  refine ⟨lockLine register.lockedBy ++ register.magic.toList.map magicLine ++ [""] ++
    paragraph register.description ++
    table ["Bits", "Name", "Type", "Reset", "Description"]
      (if register.fields.isEmpty then [wholeRow config register]
        else register.fields.map (fieldRow register)) ++ [""], ?_⟩
  simp only [registerSection, List.append_assoc]
  rfl

/-- The cells of a row in front of the description. -/
theorem toList_row : ∃ more, (row (memoryRow config register)).toList =
    [[], ' ' :: ((addressText config register).toList ++ [' ']),
      (" [" ++ register.name ++ "](#" ++ register.name.toLower ++ ") ").toList,
      ' ' :: (register.type.name.toList ++ [' ']),
      ' ' :: ((registerReset config register).toList ++ [' '])].flatMap (· ++ ['|']) ++ more := by
  refine ⟨' ' :: (cellText register.description).toList ++ [' ', '|'], ?_⟩
  have hlink : s!"[{register.name}](#{register.name.toLower})" =
      "[" ++ register.name ++ "](#" ++ register.name.toLower ++ ")" := rfl
  simp only [row, memoryRow, hlink]
  simp

theorem notMem_typeName {c : Char} (hc : c.isAlphanum = false) (type : RegisterType) :
    c ∉ type.name.toList := by
  have hchars : type.name.toList.all Char.isAlphanum = true := by
    cases type <;> decide
  intro hmem
  rw [List.all_eq_true.mp hchars c hmem] at hc
  cases hc

/-! ### What is stated -/

theorem lineNumber?_of_line {before : List String} {front line : String} {width value : Nat}
    (more : List String) (hbefore : ∀ line ∈ before, Text.Passed front line)
    (hline : line.toList =
      front.toList ++ '`' :: ((Numeral.paddedHexText width value).toList ++ ['`']))
    (hbreak : '\n' ∉ front.toList) (hfront : front.toList.head?.any (· != ' ') = true) :
    lineNumber? front (Text.unlines (before ++ line :: more)) = some value := by
  have hread : hex? ['`'] ['`']
      ('`' :: ((Numeral.paddedHexText width value).toList ++ ['`'])) = some value :=
    hex?_padded ['`'] [] (by decide) width value
  have hnumber := notMem_padded (c := '\n') (by decide) (by decide) width value
  have hbreaks : '\n' ∉ line.toList := by simp [hline, hbreak, hnumber]
  have hindent : line.toList = List.replicate 0 ' ' ++
      (front.toList ++ '`' :: ((Numeral.paddedHexText width value).toList ++ ['`'])) := hline
  rw [lineNumber?, Text.lineAfter?_append _ hbefore,
    Text.lineAfter?_cons _ hindent hbreaks hfront, Option.bind_some, hread]

theorem section_stated (hname : IsIdentifier register.name) :
    lineNumber? "- **Address:** " (block config register) =
        some (register.address.getD 0).toNat ∧
      lineNumber? "- **Reset value:** " (block config register) =
        some (register.resetAt (config.registerWidth register).toNat).toNat := by
  obtain ⟨more, hsection⟩ := @section_eq config register
  let address := "- **Address:** `" ++ addressText config register ++ "`"
  have hcharacters := hname.notMem (c := '\n') (by decide) (by decide)
  have htype := notMem_typeName (c := '\n') (by decide) register.type
  have hnumber := notMem_padded (c := '\n') (by decide) (by decide) config.addrWidth.toNat
    (register.address.getD 0).toNat
  have hwidth : '\n' ∉ Nat.toDigits 10 (config.registerWidth register).toNat :=
    Numeral.notMem_decimal (by decide)
  have htitle : ∀ line ∈ ["## " ++ register.name, ""], Text.Passed "- **Address:** " line := by
    simp [Text.Passed, Text.after?_eq_none_iff, hcharacters]
  have hbetween : ∀ line ∈ ["## " ++ register.name, "", address,
      "- **Type:** " ++ register.type.name,
      "- **Width:** " ++ toString (config.registerWidth register).toNat ++ " bits"],
      Text.Passed "- **Reset value:** " line := by
    simp [Text.Passed, Text.after?_eq_none_iff, hcharacters, htype, hwidth, hnumber, address,
      addressText]
  have haddress : address.toList = "- **Address:** ".toList ++
      '`' :: ((Numeral.paddedHexText config.addrWidth.toNat
        (register.address.getD 0).toNat).toList ++ ['`']) := by
    simp [address, addressText]
  have hreset : ("- **Reset value:** `" ++ registerReset config register ++ "`").toList =
      "- **Reset value:** ".toList ++
        '`' :: ((Numeral.paddedHexText (config.registerWidth register).toNat
          (register.resetAt (config.registerWidth register).toNat).toNat).toList ++ ['`']) := by
    simp [registerReset]
  have haddressRead := lineNumber?_of_line
    (["- **Type:** " ++ register.type.name,
        "- **Width:** " ++ toString (config.registerWidth register).toNat ++ " bits"] ++
      ("- **Reset value:** `" ++ registerReset config register ++ "`") :: more)
    htitle haddress (by decide) (by decide)
  have hresetRead := lineNumber?_of_line more hbetween hreset (by decide) (by decide)
  rw [block, hsection]
  exact ⟨haddressRead, hresetRead⟩

theorem row_stated (hname : IsIdentifier register.name) :
    cellNumber? 1 (row (memoryRow config register)) =
        some (register.address.getD 0).toNat ∧
      cellNumber? 4 (row (memoryRow config register)) =
        some (register.resetAt (config.registerWidth register).toNat).toNat := by
  obtain ⟨more, hrow⟩ := @toList_row config register
  have hnumber : ∀ width value, '|' ∉ (Numeral.paddedHexText width value).toList :=
    notMem_padded (by decide) (by decide)
  have hexact := hname.notMem (c := '|') (by decide) (by decide)
  have hlower := hname.notMem_ident (c := '|') (by decide) (by decide)
  have htype := notMem_typeName (c := '|') (by decide) register.type
  have haddress : '|' ∉ (addressText config register).toList := hnumber _ _
  have hreset : '|' ∉ (registerReset config register).toList := hnumber _ _
  have hread : ∀ width value, hex? [' '] [' ']
      (' ' :: ((Numeral.paddedHexText width value).toList ++ [' '])) = some value :=
    fun width value => hex?_padded [' '] [] (by decide) width value
  rw [ident] at hlower
  simp only [cellNumber?, hrow]
  rw [Text.splitOn_terminated (by simp [haddress, hreset, hexact, hlower, htype])]
  simp only [List.cons_append, List.getElem?_cons_succ, List.getElem?_cons_zero, Option.bind_some,
    addressText, registerReset, hread, and_self]

/-- The register map states each register's address and reset value. -/
theorem states_text (hwf : config.WellFormed) (hmem : register ∈ config.registers)
    {address : UInt64} (haddress : register.address = some address) :
    States config register (text config provenance) address.toNat
      (register.resetAt (config.registerWidth register).toNat).toNat := by
  have hname := hwf.registerName register hmem
  obtain ⟨hsectionAddress, hsectionReset⟩ := @section_stated config register hname
  obtain ⟨hrowAddress, hrowReset⟩ := @row_stated config register hname
  rw [haddress, Option.getD_some] at hsectionAddress hrowAddress
  exact ⟨section_within hmem, hsectionAddress, hsectionReset, row_within hmem, hrowAddress,
    hrowReset⟩

end RegisterMap

end RegisterFile
