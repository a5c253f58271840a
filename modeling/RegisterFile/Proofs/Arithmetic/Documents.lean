import RegisterFile.Accessors.Build
import RegisterFile.Header.File
import RegisterFile.Proofs.Arithmetic.Layout
import RegisterFile.RegisterMap

/-!
The C header, the register map and the accessor module of an accepted register file are calculated
without a stop. They work on the description itself and not on the resolved view of it: all that
they calculate are masks and reset values of fields that lie within a word.
-/

namespace RegisterFile

open Checked

/-- Every field of every register lies within a word. -/
def Config.InWord (config : Config) : Prop :=
  ∀ register ∈ config.registers, register.InWord

/-! ### The header -/

namespace Header

def constantsM (name : String) (value : Word) (width : Nat) : Checked (List Macro) :=
  if width ≤ maxConstantWidth then
    pure [⟨name, [], .hex (Numeral.hexDigitCount width) value .unsigned⟩]
  else do
    return [⟨name ++ "_LO", [], .hex 16 (value &&& Word.lowMask 64) .unsignedLongLong⟩,
      ⟨name ++ "_HI", [], .hex 16 (← shiftRight value 64) .unsignedLongLong⟩]

def positionM (name : String) (mask : Word) (low width : Nat) : Checked (List Macro) := do
  return (← constantsM (name ++ "_MASK") mask width) ++ [⟨name ++ "_SHIFT", [], .decimal low⟩]

def fieldMacrosM (stem : String) (width : Nat) (field : Field) : Checked (List Macro) := do
  let name := stem ++ "_" ++ field.name.toUpper
  return (← positionM name (← field.bits.maskM) field.bits.low width) ++
    (if width ≤ maxConstantWidth then [getter name, setter name] else [])

def positionsM (stem : String) (width : Nat) (register : Register) : Checked (List Macro) :=
  if register.fields.isEmpty then do positionM stem (← Word.lowMaskM width) 0 width
  else flatMapM register.fields (fieldMacrosM stem width)

def registerMacrosM (config : Config) (stem : String) (register : Register) :
    Checked (List Macro) := do
  let width := (config.registerWidth register).toNat
  return ⟨stem ++ "_ADDR", [],
      .hex (Numeral.hexDigitCount config.addrWidth.toNat)
        (BitVec.ofNat 128 (register.address.getD 0).toNat) .unsigned⟩ ::
    ((← constantsM (stem ++ "_RESET") (← register.resetAtM width) width) ++
      (← positionsM stem width register))

def registerLinesM (config : Config) (prefixName : String) (register : Register) :
    Checked (List Line) := do
  let width := (config.registerWidth register).toNat
  return [.blank, .comment (registerComment register)] ++
    (if width ≤ maxConstantWidth then []
      else [.comment s!"{width}-bit register: values split into 64-bit halves"]) ++
    (← registerMacrosM config (prefixName ++ "_" ++ register.name.toUpper) register).map .define

def File.ofConfigM (config : Config) (provenance : Provenance) : Checked File := do
  let name := config.moduleName.toUpper
  return { banner :=
             [s!"{config.moduleName} register definitions", s!"Generated by {provenance.tool}",
               s!"Timestamp: {provenance.timestamp}", "Do not edit by hand."]
           guard := name ++ "_H"
           body :=
             [.define ⟨name ++ "_DATA_WIDTH", [], .decimal config.dataWidth.toNat⟩,
               .define ⟨name ++ "_ADDR_WIDTH", [], .decimal config.addrWidth.toNat⟩] ++
             (← flatMapM config.registers (registerLinesM config name)) }

variable {config : Config} {register : Register} {stem : String} {width : Nat}

theorem constantsM_eq (name : String) (value : Word) (width : Nat) :
    constantsM name value width = pure (constants name value width) := by
  unfold constantsM constants
  split
  · rfl
  · rw [shiftRight_eq (by decide), pure_bind]

theorem positionM_eq (name : String) (mask : Word) (low width : Nat) :
    positionM name mask low width = pure (position name mask low width) := by
  rw [positionM, constantsM_eq, pure_bind, position]

theorem positionsM_eq (hfields : register.InWord) :
    positionsM stem width register = pure (positions stem width register) := by
  unfold positionsM positions
  split
  · rw [Word.lowMaskM_eq, pure_bind, positionM_eq]
  · refine flatMapM_eq fun field hfield => ?_
    rw [fieldMacrosM, BitRange.maskM_eq (hfields field hfield), pure_bind, positionM_eq, pure_bind,
      fieldMacros]

theorem registerLinesM_eq (hfields : register.InWord) (prefixName : String) :
    registerLinesM config prefixName register =
      pure (registerLines config prefixName register) := by
  rw [registerLinesM, registerMacrosM, Register.resetAtM_eq hfields, pure_bind, constantsM_eq,
    pure_bind, positionsM_eq hfields, pure_bind, pure_bind, registerLines, registerMacros]

theorem File.ofConfigM_eq (hfields : config.InWord) (provenance : Provenance) :
    File.ofConfigM config provenance = pure (File.ofConfig config provenance) := by
  rw [ofConfigM, flatMapM_eq fun register hmem => registerLinesM_eq (hfields register hmem) _,
    pure_bind, ofConfig]

end Header

/-! ### The register map -/

/-- The cycles that a read takes: on APB the wait states and one more. -/
def Config.readLatencyM (config : Config) : Checked Nat :=
  match config.protocol with
  | .apb => add 1 (Bus.Apb.waitStates config)
  | _ => pure config.interface.readLatency

theorem Config.readLatencyM_eq (config : Config) :
    config.readLatencyM = pure config.interface.readLatency := by
  have hwaits : Bus.Apb.waitStates config ≤ 15 := Nat.min_le_right _ _
  have hsum : 1 + Bus.Apb.waitStates config < bitLimit := by
    simp only [bitLimit, UInt32.size]
    omega
  unfold readLatencyM interface
  cases hprotocol : config.protocol with
  | apb => exact add_eq hsum
  | _ => rfl

namespace RegisterMap

def overviewM (config : Config) : Checked (List String) := do
  return ["## Overview", ""] ++
    table ["Property", "Value"]
      [["Bus protocol", config.protocol.displayName],
        ["Data width", s!"{config.dataWidth.toNat} bits"],
        ["Address width", s!"{config.addrWidth.toNat} bits"],
        ["Reset", resetText config.syncReset],
        ["Byte enables", if config.byteEnable then "yes" else "no"],
        ["Read latency", s!"{← config.readLatencyM} cycle(s)"],
        ["Error response", config.interface.errorEncoding],
        ["Ports", s!"{config.writePorts.toNat} write, {config.readPorts.toNat} read"]] ++ [""]

def registerResetM (config : Config) (register : Register) : Checked String := do
  let width := (config.registerWidth register).toNat
  return Numeral.paddedHexText width (← register.resetAtM width).toNat

def memoryRowM (config : Config) (register : Register) : Checked (List String) := do
  return [addressText config register, s!"[{register.name}](#{register.name.toLower})",
    register.type.name, ← registerResetM config register, cellText register.description]

def memoryMapM (config : Config) : Checked (List String) := do
  let rows ← (byAddress config.registers).mapM (memoryRowM config)
  return ["## Memory map", ""] ++
    (if config.registers.isEmpty then ["No registers."]
      else table ["Address", "Register", "Type", "Reset", "Description"] rows) ++ [""]

def fieldRowM (register : Register) (field : Field) : Checked (List String) := do
  return [bitsText field.bits, field.name, (field.typeIn register).name,
    Numeral.paddedHexText (← field.bits.widthM) (← field.resetInM register).toNat,
    cellText (fieldText field)]

def wholeRowM (config : Config) (register : Register) : Checked (List String) := do
  return [s!"[{(config.registerWidth register).toNat - 1}:0]", register.name, register.type.name,
    ← registerResetM config register, cellText register.description]

def fieldRowsM (config : Config) (register : Register) : Checked (List (List String)) :=
  if register.fields.isEmpty then do return [← wholeRowM config register]
  else register.fields.mapM (fieldRowM register)

def registerSectionM (config : Config) (register : Register) : Checked (List String) := do
  return ["## " ++ register.name, "",
    s!"- **Address:** `{addressText config register}`",
    s!"- **Type:** {register.type.name}",
    s!"- **Width:** {(config.registerWidth register).toNat} bits",
    s!"- **Reset value:** `{← registerResetM config register}`"] ++
    lockLine register.lockedBy ++ register.magic.toList.map magicLine ++ [""] ++
    paragraph register.description ++
    table ["Bits", "Name", "Type", "Reset", "Description"] (← fieldRowsM config register) ++ [""]

def linesM (config : Config) (provenance : Provenance) : Checked (List String) := do
  return [s!"# {config.moduleName} register map", "",
    s!"Generated by {provenance.tool} at {provenance.timestamp}.", ""] ++
    (← overviewM config) ++ (← memoryMapM config) ++
    (← flatMapM config.registers (registerSectionM config))

def textM (config : Config) (provenance : Provenance) : Checked String := do
  return String.join ((← linesM config provenance).map (· ++ "\n"))

variable {config : Config} {register : Register}

theorem overviewM_eq (config : Config) : overviewM config = pure (overview config) := by
  rw [overviewM, Config.readLatencyM_eq, pure_bind, overview]

theorem registerResetM_eq (hfields : register.InWord) :
    registerResetM config register = pure (registerReset config register) := by
  rw [registerResetM, Register.resetAtM_eq hfields, pure_bind, registerReset]

theorem memoryMapM_eq (hfields : config.InWord) :
    memoryMapM config = pure (memoryMap config) := by
  have hrows : ∀ register ∈ byAddress config.registers,
      memoryRowM config register = pure (memoryRow config register) := by
    intro register hmem
    have hregister := hfields register (List.mem_mergeSort.mp hmem)
    rw [memoryRowM, registerResetM_eq hregister, pure_bind, memoryRow]
  rw [memoryMapM, mapM_eq_pure hrows, pure_bind, memoryMap]

theorem fieldRowM_eq (hfields : register.InWord) {field : Field}
    (hfield : field ∈ register.fields) :
    fieldRowM register field = pure (fieldRow register field) := by
  have hhigh := hfields field hfield
  rw [fieldRowM, BitRange.widthM_eq hhigh, pure_bind, Field.resetInM_eq hhigh, pure_bind, fieldRow]

theorem fieldRowsM_eq (hfields : register.InWord) :
    fieldRowsM config register =
      pure (if register.fields.isEmpty then [wholeRow config register]
        else register.fields.map (fieldRow register)) := by
  unfold fieldRowsM
  split
  · rw [wholeRowM, registerResetM_eq hfields, pure_bind, pure_bind, wholeRow]
  · exact mapM_eq_pure fun field hfield => fieldRowM_eq hfields hfield

theorem registerSectionM_eq (hfields : register.InWord) :
    registerSectionM config register = pure (registerSection config register) := by
  rw [registerSectionM, registerResetM_eq hfields, pure_bind, fieldRowsM_eq hfields, pure_bind,
    registerSection]

theorem textM_eq (hfields : config.InWord) (provenance : Provenance) :
    textM config provenance = pure (text config provenance) := by
  rw [textM, linesM, overviewM_eq, pure_bind, memoryMapM_eq hfields, pure_bind,
    flatMapM_eq fun register hmem => registerSectionM_eq (hfields register hmem), pure_bind,
    pure_bind, text, lines]

end RegisterMap

/-! ### The accessor module -/

namespace Accessors

def fieldMethodsM (register : Register) (field : Field) : Checked (List Method) := do
  let stem := fieldStem field.name
  let mask ← Word.lowMaskM (← field.bits.widthM)
  let doc := some (fieldDoc register field)
  return ⟨doc, identifier stem, getterBody mask field.bits.low⟩ ::
    (if isWritable register field then
      [⟨doc, "set_" ++ stem, setterBody mask field.bits.low⟩] else [])

def registerMethodsM (register : Register) : Checked (List Method) := do
  return [⟨none, "new", .make (.wrap .resetValue)⟩, ⟨none, "reset", .change [.put .resetValue]⟩] ++
    (← flatMapM register.fields (fieldMethodsM register)) ++
    [⟨none, "raw", .get .stored⟩, ⟨none, "set_raw", .set [.put (.local "value")]⟩]

def RegisterType.ofRegisterM (config : Config) (register : Register) : Checked RegisterType := do
  let width := (config.registerWidth register).toNat
  return { doc := registerDoc register
           name := identifier register.name
           storage := .ofWidth width
           address := register.address.getD 0
           reset := ← register.resetAtM width
           methods := ← registerMethodsM register }

def Module.ofConfigM (config : Config) : Checked Module := do
  return { name := identifier config.moduleName.toLower
           doc := s!"{config.moduleName} register file ({config.protocol.displayName})"
           fileName := fileTypeName config
           baseAddress := config.baseAddress
           dataWidth := config.dataWidth
           addrWidth := config.addrWidth
           registers := ← (distinct config.registers).mapM (RegisterType.ofRegisterM config) }

/-- The text or the lack of it; whether something is left without a name is no matter of numbers. -/
def textM (config : Config) : Checked (Option String) := do
  let m ← Module.ofConfigM config
  return if m.names.any isHole then none else some m.text

variable {config : Config} {register : Register}

theorem mem_of_mem_distinctFrom {seen : List String} {registers : List Register}
    (hmem : register ∈ distinctFrom seen registers) : register ∈ registers := by
  induction registers generalizing seen with
  | nil => exact hmem
  | cons first rest ih =>
    unfold distinctFrom at hmem
    split at hmem
    · exact List.mem_cons_of_mem _ (ih hmem)
    · rcases List.mem_cons.mp hmem with rfl | hrest
      · exact List.mem_cons_self ..
      · exact List.mem_cons_of_mem _ (ih hrest)

theorem registerMethodsM_eq (hfields : register.InWord) :
    registerMethodsM register = pure (registerMethods register) := by
  have hmethods : ∀ field ∈ register.fields,
      fieldMethodsM register field = pure (fieldMethods register field) := by
    intro field hfield
    rw [fieldMethodsM, BitRange.widthM_eq (hfields field hfield), pure_bind, Word.lowMaskM_eq,
      pure_bind, fieldMethods]
  rw [registerMethodsM, flatMapM_eq hmethods, pure_bind, registerMethods]

theorem textM_eq (hfields : config.InWord) : textM config = pure (text? config) := by
  have hregisters : ∀ register ∈ distinct config.registers,
      RegisterType.ofRegisterM config register =
        pure (RegisterType.ofRegister config register) := by
    intro register hmem
    have hregister := hfields register (mem_of_mem_distinctFrom hmem)
    rw [RegisterType.ofRegisterM, Register.resetAtM_eq hregister, pure_bind,
      registerMethodsM_eq hregister, pure_bind, RegisterType.ofRegister]
  rw [textM, Module.ofConfigM, mapM_eq_pure hregisters, pure_bind, pure_bind, text?,
    Module.ofConfig]

end Accessors

end RegisterFile
