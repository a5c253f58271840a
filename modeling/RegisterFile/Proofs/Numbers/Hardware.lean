import Mathlib
import RegisterFile.Hardware.Module
import RegisterFile.Proofs.Layout
import RegisterFile.Proofs.Numbers.Reading
import RegisterFile.Proofs.Text.Identifier

/-!
The numbers of a register in the Verilog module: its address is a constant, and its reset value is
what its storage is assigned at a reset.
-/

namespace RegisterFile

open Verilog

namespace Verilog

/-- A sized hexadecimal literal at the end of a statement. What its width does not hold is lost. -/
def sized? (cs : List Char) : Option Nat := do
  let (width, rest) ← Numeral.leading? 10 cs
  let (value, rest) ← Numeral.leading? 16 (← Text.after? ['\'', 'h'] rest)
  if rest = [';'] then some (value % 2 ^ width) else none

theorem sized?_hex {width : Nat} {value : Word} (hvalue : value.toNat < 2 ^ width) :
    sized? ((Expr.hex width value).text.toList ++ [';']) = some value.toNat := by
  let digits := Numeral.padded (Numeral.hexDigitCount width) (Numeral.HEX value.toNat)
  have htext : (Expr.hex width value).text.toList ++ [';'] =
      Numeral.decimal width ++ ('\'' :: 'h' :: (digits ++ [';'])) := by
    simp [Expr.hex, Expr.text, literalText, literalDigits, Radix.letter, digits]
  have hwidth : Numeral.leading? 10 (Numeral.decimal width ++ '\'' :: 'h' :: (digits ++ [';'])) =
      some (width, '\'' :: 'h' :: (digits ++ [';'])) :=
    Numeral.leading?_append (Numeral.ofDigits?_decimal width) (by decide +kernel)
  have hdigits : Numeral.leading? 16 (digits ++ [';']) = some (value.toNat, [';']) :=
    Numeral.leading?_padded (by decide) _ value.toNat []
  have hmark : Text.after? ['\'', 'h'] ('\'' :: 'h' :: (digits ++ [';'])) =
      some (digits ++ [';']) := Text.after?_append ['\'', 'h'] _
  rw [htext]
  simp only [sized?, hwidth, hmark, hdigits, Option.bind_eq_bind, Option.bind_some, if_true,
    Nat.mod_eq_of_lt hvalue]

end Verilog

namespace Hardware

/-- The lines of the Verilog module that state a register's address. -/
def addressBlock (config : Config) (register : Register) : String :=
  Text.unlines (addressConstant config (Layout.ofRegister config register)).lines

/-- The lines of the Verilog module that reset a register. -/
def resetBlock (config : Config) (register : Register) : String :=
  Text.unlines ((resetRegister (Layout.ofRegister config register)).flatMap (Stmt.lines 3))

/-- A Verilog text states an address and a reset value for a register. -/
structure States (config : Config) (register : Register) (text : String)
    (address reset : Nat) : Prop where
  addressWithin : Text.Within (addressBlock config register) text
  address : (Text.lineAfter? ("localparam ADDR_" ++ register.name.toUpper ++ " = ")
    (addressBlock config register)).bind sized? = some address
  resetWithin : Text.Within (resetBlock config register) text
  reset : (Text.lineAfter? (ident register.name ++ "_reg <= ")
    (resetBlock config register)).bind sized? = some reset

variable {config : Config} {register : Register} {provenance : Provenance}

/-! ### Where the blocks stand -/

theorem lines_ofList (level : Nat) (stmts : List Stmt) :
    (Stmt.ofList stmts).lines level = stmts.flatMap (Stmt.lines level) := by
  induction stmts with
  | nil => rfl
  | cons stmt rest ih =>
    cases rest with
    | nil => simp [Stmt.ofList]
    | cons next more => simp only [Stmt.ofList, Stmt.lines, ih, List.flatMap_cons]

theorem items_infix_titled (title : String) (items : List Item) :
    items <:+: titled title items := by
  cases items with
  | nil => exact List.nil_infix
  | cons item rest => exact ⟨[.comment title], [.blank], rfl⟩

theorem within_text {lines : List String}
    (hlines : lines <:+: (items config (Layout.ofConfig config)).flatMap Item.lines) :
    Text.Within (Text.unlines lines) (text config provenance) := by
  refine Text.within_unlines (hlines.trans ?_)
  rw [Module.lines]
  exact List.infix_append _ _ _

theorem address_within (hmem : register ∈ config.registers) :
    Text.Within (addressBlock config register) (text config provenance) := by
  apply within_text
  have hlayout : Layout.ofRegister config register ∈ (Layout.ofConfig config).registers :=
    List.mem_map_of_mem hmem
  have hitem : addressConstant config (Layout.ofRegister config register) ∈
      items config (Layout.ofConfig config) := by
    have htitled := (items_infix_titled "Register addresses"
      ((Layout.ofConfig config).registers.map (addressConstant config))).subset
        (List.mem_map_of_mem hlayout)
    simp only [items, List.append_assoc]
    exact List.mem_append_left _ htitled
  exact Text.infix_flatMap hitem Item.lines

theorem reset_within (hmem : register ∈ config.registers) :
    Text.Within (resetBlock config register) (text config provenance) := by
  apply within_text
  let layout := Layout.ofConfig config
  have hlayout : Layout.ofRegister config register ∈ layout.registers :=
    List.mem_map_of_mem hmem
  have hitem : updateBlock config layout ∈ items config layout := by
    have hupdates : updateBlock config layout ∈ updates config layout := by
      rw [updates, if_neg (by simpa using List.ne_nil_of_mem hlayout)]
      exact List.mem_singleton_self _
    have htitled := (items_infix_titled "Register updates" (updates config layout)).subset hupdates
    simp only [items, List.mem_append]
    exact .inl (.inl (.inl (.inr htitled)))
  have hreset : (resetRegister (Layout.ofRegister config register)).flatMap (Stmt.lines 3) <:+:
      (resetBody layout).lines 3 := by
    rw [resetBody, lines_ofList, List.flatMap_assoc]
    exact Text.infix_flatMap hlayout fun register => (resetRegister register).flatMap (Stmt.lines 3)
  refine (hreset.trans ?_).trans (Text.infix_flatMap hitem Item.lines)
  simp only [updateBlock, Reset.sequential, Item.lines, Stmt.lines]
  exact ((List.infix_append [] _ _).trans (List.suffix_cons _ _).isInfix).trans
    ((List.prefix_append _ _).isInfix.trans (List.suffix_cons _ _).isInfix)

/-! ### What the blocks state -/

theorem notMem_hex {c : Char} (hdigit : Numeral.isDigitOf 16 c = false)
    (hdecimal : c.isDigit = false) (hmark : c ≠ '\'' ∧ c ≠ 'h') (width : Nat) (value : Word) :
    c ∉ (Expr.hex width value).text.toList := by
  have hvalue := Numeral.notMem_padded hdigit (Numeral.hexDigitCount width) value.toNat
  simpa [Expr.hex, Expr.text, literalText, literalDigits, Radix.letter, hmark,
    Numeral.notMem_decimal hdecimal] using hvalue

/-- The literal at the end of a line is read back. -/
theorem sized?_of_line {front line : String} {width indent : Nat} {value : Word}
    (more : List String) (hvalue : value.toNat < 2 ^ width)
    (hline : line.toList = List.replicate indent ' ' ++
      (front.toList ++ ((Expr.hex width value).text.toList ++ [';'])))
    (hbreak : '\n' ∉ front.toList) (hfront : front.toList.head?.any (· != ' ') = true) :
    (Text.lineAfter? front (Text.unlines (line :: more))).bind sized? = some value.toNat := by
  have hdigits := notMem_hex (c := '\n') (by decide +kernel) (by decide) (by decide) width value
  have hbreaks : '\n' ∉ line.toList := by
    rw [hline]
    simp [hbreak, hdigits]
  rw [Text.lineAfter?_cons more hline hbreaks hfront, Option.bind_some, sized?_hex hvalue]

theorem address_stated (hname : IsIdentifier register.name) {address : UInt64}
    (haddress : register.address = some address)
    (hfits : address.toNat < 2 ^ config.addrWidth.toNat) :
    (Text.lineAfter? ("localparam ADDR_" ++ register.name.toUpper ++ " = ")
      (addressBlock config register)).bind sized? = some address.toNat := by
  let value : Word := BitVec.ofNat 128 address.toNat
  let front := "localparam ADDR_" ++ register.name.toUpper ++ " = "
  have hvalue : value.toNat = address.toNat := Word.toNat_ofUInt64 address
  have hline : (line 1 ("localparam " ++ padRight 0 ("ADDR_" ++ register.name.toUpper) ++ " = " ++
        (Expr.hex config.addrWidth.toNat value).text ++ ";")).toList =
      List.replicate 4 ' ' ++
        (front.toList ++ ((Expr.hex config.addrWidth.toNat value).text.toList ++ [';'])) := by
    simp [line, spaces, padRight, front]
  have hbreak : '\n' ∉ front.toList := by
    simpa [front] using hname.notMem_toUpper (c := '\n') (by decide) (by decide)
  have hblock : addressBlock config register = Text.unlines
      [line 1 ("localparam " ++ padRight 0 ("ADDR_" ++ register.name.toUpper) ++ " = " ++
        (Expr.hex config.addrWidth.toNat value).text ++ ";")] := by
    simp only [addressBlock, addressConstant, Item.lines, Layout.ofRegister, addressName, haddress,
      Option.getD_some, value]
  rw [hblock, sized?_of_line [] (by rwa [hvalue]) hline hbreak (by simp [front]), hvalue]

theorem reset_stated (hname : IsIdentifier register.name)
    (hfits : (register.resetAt (config.registerWidth register).toNat).toNat <
      2 ^ (config.registerWidth register).toNat) :
    (Text.lineAfter? (ident register.name ++ "_reg <= ")
      (resetBlock config register)).bind sized? =
        some (register.resetAt (config.registerWidth register).toNat).toNat := by
  let width := (config.registerWidth register).toNat
  let front := ident register.name ++ "_reg <= "
  have hline : (line 3 (padRight 0 (Ref.text ⟨storageName (ident register.name), .whole⟩) ++
        " <= " ++ (Expr.hex width (register.resetAt width)).text ++ ";")).toList =
      List.replicate 12 ' ' ++
        (front.toList ++ ((Expr.hex width (register.resetAt width)).text.toList ++ [';'])) := by
    simp [line, spaces, padRight, Ref.text, Select.text, storageName, front]
  have hbreak : '\n' ∉ front.toList := by
    simpa [front] using hname.notMem_ident (c := '\n') (by decide) (by decide)
  have hhead : front.toList.head?.any (· != ' ') = true := by
    have hspace := hname.notMem_ident (c := ' ') (by decide) (by decide)
    cases hchars : (ident register.name).toList with
    | nil => simp [front, hchars]
    | cons c rest =>
      rw [hchars] at hspace
      have hc : c ≠ ' ' := fun heq => hspace (heq ▸ List.mem_cons_self)
      simp [front, hchars, hc]
  exact sized?_of_line _ hfits hline hbreak hhead

/-- The Verilog module states each register's address and reset value. -/
theorem states_text (hwf : config.WellFormed) (hmem : register ∈ config.registers)
    {address : UInt64} (haddress : register.address = some address) :
    States config register (text config provenance) address.toNat
      (register.resetAt (config.registerWidth register).toNat).toNat where
  addressWithin := address_within hmem
  address := by
    obtain ⟨placed, hplaced, hfits, -⟩ := hwf.addressed register hmem
    obtain rfl := Option.some.inj (hplaced.symm.trans haddress)
    exact address_stated (hwf.registerName register hmem) haddress hfits
  resetWithin := reset_within hmem
  reset := reset_stated (hwf.registerName register hmem) <|
    (hwf.regular_ofRegister hmem).reset.toNat_lt

end Hardware

end RegisterFile
