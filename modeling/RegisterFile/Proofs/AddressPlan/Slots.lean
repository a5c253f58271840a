import Mathlib
import RegisterFile.AddressPlan

/-!
Which addresses are assigned. The free slots of a register file are the multiples of its alignment
from the base address on that no register has, in increasing order. The registers without an
address get them one by one in the order of declaration, up to the first one for which none is
left.
-/

namespace RegisterFile

namespace AddressPlan

variable {step start cursor : Nat} {used slots : List UInt64} {address slot : UInt64}
  {register : Register} {registers rest : List Register}

/-- The multiples of `step` from `start` on that are not in use, in increasing order. -/
def slotsFrom (step : Nat) (used : List UInt64) (start : Nat) : List UInt64 :=
  ((List.range addressLimit).filter fun n =>
    start ≤ n ∧ step ∣ n ∧ UInt64.ofNat n ∉ used).map UInt64.ofNat

/-- The slots that assignment can hand out. -/
def freeSlots (config : Config) : List UInt64 :=
  slotsFrom (alignment config) (config.registers.filterMap Register.address)
    config.baseAddress.toNat

/-- The registers without an address, in the order of declaration. -/
def unplaced (registers : List Register) : List Register :=
  registers.filter fun register => register.address.isNone

/-- The registers, each without an address given the slot behind those for the registers without
    one in front of it. -/
def fill (slots : List UInt64) (registers : List Register) : List Register :=
  registers.mapIdx fun position register =>
    if register.address.isSome then register
    else { register with address := slots[(unplaced (registers.take position)).length]? }

/-- The address of a register, if it has one, is a multiple of the alignment. -/
def OnSlot (config : Config) (register : Register) : Prop :=
  ∀ address, register.address = some address → alignment config ∣ address.toNat

/-- What assignment makes of a register file, in terms of its free slots. -/
structure FillsInOrder (config : Config) : Prop where
  increasing : (freeSlots config).Pairwise (· < ·)
  mem_freeSlots : ∀ address, address ∈ freeSlots config ↔
    config.baseAddress ≤ address ∧ alignment config ∣ address.toNat ∧
      ∀ register ∈ config.registers, register.address ≠ some address
  /-- The first address that is no multiple of the alignment is refused. -/
  misaligned : ∀ front register back address, config.registers = front ++ register :: back →
    (∀ earlier ∈ front, OnSlot config earlier) → register.address = some address →
      ¬ alignment config ∣ address.toNat →
        assign config = .error (.misaligned register.name address (alignment config))
  /-- The first register for which there is no slot is named. -/
  exhausted : (∀ register ∈ config.registers, OnSlot config register) → ∀ register,
    (unplaced config.registers)[(freeSlots config).length]? = some register →
      assign config = .error (.exhausted register.name (alignment config))
  /-- Where there are slots enough, they are given away in order, and nothing else changes. -/
  placed : (∀ register ∈ config.registers, OnSlot config register) →
    (unplaced config.registers).length ≤ (freeSlots config).length →
      assign config =
        .ok { config with registers := fill (freeSlots config) config.registers }
  no_conflict : ∀ register address, assign config ≠ .error (.conflict register address)
  /-- A second assignment has nothing to do. -/
  stable : ∀ planned, assign config = .ok planned → assign planned = .ok planned

/-! ### Slots in order -/

theorem mem_slotsFrom :
    address ∈ slotsFrom step used start ↔
      start ≤ address.toNat ∧ step ∣ address.toNat ∧ address ∉ used := by
  simp only [slotsFrom, List.mem_map, List.mem_filter, List.mem_range, decide_eq_true_eq]
  constructor
  · rintro ⟨n, ⟨hlimit, hstart, hstep, hunused⟩, rfl⟩
    rw [UInt64.toNat_ofNat_of_lt' hlimit]
    exact ⟨hstart, hstep, hunused⟩
  · rintro ⟨hstart, hstep, hunused⟩
    refine ⟨address.toNat, ⟨address.toNat_lt_size, hstart, hstep, ?_⟩, UInt64.ofNat_toNat⟩
    rwa [UInt64.ofNat_toNat]

theorem pairwise_slotsFrom (step : Nat) (used : List UInt64) (start : Nat) :
    (slotsFrom step used start).Pairwise (· < ·) := by
  rw [slotsFrom, List.pairwise_map]
  refine (List.pairwise_lt_range.filter _).imp_of_mem fun hn hm hlt => ?_
  have hnLimit := List.mem_range.mp (List.mem_of_mem_filter hn)
  have hmLimit := List.mem_range.mp (List.mem_of_mem_filter hm)
  rw [UInt64.lt_iff_toNat_lt, UInt64.toNat_ofNat_of_lt' hnLimit,
    UInt64.toNat_ofNat_of_lt' hmLimit]
  exact hlt

/-- An increasing list is the list of slots if it has the same members. -/
theorem eq_slotsFrom (hslots : slots.Pairwise (· < ·))
    (hmem : ∀ address, address ∈ slots ↔ address ∈ slotsFrom step used start) :
    slots = slotsFrom step used start :=
  hslots.eq_of_mem_iff (pairwise_slotsFrom step used start) hmem

/-- Multiples are at least a step apart. -/
theorem add_le_of_dvd {n : Nat} (hstart : step ∣ start) (hn : step ∣ n) (hlt : start < n) :
    start + step ≤ n := by
  have hstep := Nat.le_of_dvd (Nat.sub_pos_of_lt hlt) (Nat.dvd_sub hn hstart)
  omega

theorem dvd_roundUp (hstep : 0 < step) (n : Nat) : step ∣ roundUp step n := by
  unfold roundUp
  split
  · next hmultiple => exact Nat.dvd_of_mod_eq_zero hmultiple
  · have hrest := Nat.mod_lt n hstep
    have hparts := Nat.div_add_mod n step
    refine ⟨n / step + 1, ?_⟩
    rw [Nat.mul_add, Nat.mul_one]
    omega

/-- A multiple reaches a number exactly if it reaches that number rounded up. -/
theorem roundUp_le_iff {n multiple : Nat} (hstep : 0 < step) (hmultiple : step ∣ multiple) :
    roundUp step n ≤ multiple ↔ n ≤ multiple := by
  have hrest := Nat.mod_lt n hstep
  have hle : n ≤ roundUp step n := by
    unfold roundUp
    split <;> omega
  have hlt : roundUp step n < n + step := by
    unfold roundUp
    split <;> omega
  refine ⟨hle.trans, fun hn => ?_⟩
  by_contra hnot
  have hnext := add_le_of_dvd hmultiple (dvd_roundUp hstep n) (Nat.lt_of_not_le hnot)
  omega

theorem slotsFrom_roundUp (hstep : 0 < step) (used : List UInt64) (start : Nat) :
    slotsFrom step used (roundUp step start) = slotsFrom step used start := by
  refine eq_slotsFrom (pairwise_slotsFrom ..) fun address => ?_
  simp only [mem_slotsFrom]
  constructor
  · rintro ⟨hstart, hmultiple, hunused⟩
    exact ⟨(roundUp_le_iff hstep hmultiple).mp hstart, hmultiple, hunused⟩
  · rintro ⟨hstart, hmultiple, hunused⟩
    exact ⟨(roundUp_le_iff hstep hmultiple).mpr hstart, hmultiple, hunused⟩

/-! ### The first free slot -/

/-- There are no slots beyond the addresses. -/
theorem slotsFrom_of_limit (hlimit : addressLimit ≤ start) : slotsFrom step used start = [] := by
  refine List.eq_nil_iff_forall_not_mem.mpr fun address haddress => ?_
  have hstart := (mem_slotsFrom.mp haddress).1
  have haddress : address.toNat < addressLimit := address.toNat_lt_size
  omega

/-- A slot in use is passed over. -/
theorem slotsFrom_of_used (hstart : step ∣ start) (hlimit : start < addressLimit)
    (hused : UInt64.ofNat start ∈ used) :
    slotsFrom step used start = slotsFrom step used (start + step) := by
  refine eq_slotsFrom (pairwise_slotsFrom ..) fun address => ?_
  simp only [mem_slotsFrom]
  constructor
  · rintro ⟨hle, hmultiple, hunused⟩
    refine ⟨add_le_of_dvd hstart hmultiple (Nat.lt_of_le_of_ne hle ?_), hmultiple, hunused⟩
    rintro rfl
    rw [UInt64.ofNat_toNat] at hused
    exact hunused hused
  · rintro ⟨hle, hmultiple, hunused⟩
    exact ⟨by omega, hmultiple, hunused⟩

/-- A free slot comes first, and the others lie behind it. -/
theorem slotsFrom_of_unused (hstep : 0 < step) (hstart : step ∣ start)
    (hlimit : start < addressLimit) (hunused : UInt64.ofNat start ∉ used) :
    slotsFrom step used start =
      UInt64.ofNat start :: slotsFrom step (UInt64.ofNat start :: used) (start + step) := by
  have htoNat : (UInt64.ofNat start).toNat = start := UInt64.toNat_ofNat_of_lt' hlimit
  refine (eq_slotsFrom (List.pairwise_cons.mpr ⟨?_, pairwise_slotsFrom ..⟩)
    fun address => ?_).symm
  · intro address haddress
    have hbehind := (mem_slotsFrom.mp haddress).1
    rw [UInt64.lt_iff_toNat_lt, htoNat]
    omega
  · simp only [List.mem_cons, mem_slotsFrom, not_or]
    constructor
    · rintro (rfl | ⟨hle, hmultiple, -, hfree⟩)
      · rw [htoNat]
        exact ⟨Nat.le_refl start, hstart, hunused⟩
      · exact ⟨by omega, hmultiple, hfree⟩
    · rintro ⟨hle, hmultiple, hfree⟩
      refine or_iff_not_imp_left.mpr fun hne => ⟨?_, hmultiple, hne, hfree⟩
      refine add_le_of_dvd hstart hmultiple (Nat.lt_of_le_of_ne hle ?_)
      rintro rfl
      exact hne UInt64.ofNat_toNat.symm

/-- The search ends at the first slot of the list, and then the list goes on behind it. -/
theorem slotsFrom_of_firstFree (used : List UInt64) (hstep : 0 < step) (hcursor : step ∣ cursor) :
    (firstFree step used cursor = none ∧ slotsFrom step used cursor = []) ∨
      ∃ slot, firstFree step used cursor = some slot ∧ slot ∉ used ∧ step ∣ slot.toNat ∧
        slotsFrom step used cursor =
          slot :: slotsFrom step (slot :: used) (slot.toNat + step) := by
  fun_induction firstFree step used cursor with
  | case1 cursor hlimit htaken ih =>
    rw [slotsFrom_of_used hcursor hlimit (List.contains_iff_mem.mp htaken.1)]
    exact ih (Nat.dvd_add hcursor (Nat.dvd_refl step))
  | case2 cursor hlimit hfree =>
    have hunused : UInt64.ofNat cursor ∉ used := fun hmem =>
      hfree ⟨List.contains_iff_mem.mpr hmem, hstep⟩
    have htoNat : (UInt64.ofNat cursor).toNat = cursor := UInt64.toNat_ofNat_of_lt' hlimit
    refine .inr ⟨_, rfl, hunused, by rwa [htoNat], ?_⟩
    rw [htoNat]
    exact slotsFrom_of_unused hstep hcursor hlimit hunused
  | case3 cursor hlimit => exact .inl ⟨rfl, slotsFrom_of_limit (Nat.le_of_not_lt hlimit)⟩

/-! ### Slots for registers -/

@[simp] theorem unplaced_cons_of_some (haddress : register.address = some address) :
    unplaced (register :: rest) = unplaced rest := by
  rw [unplaced, List.filter_cons_of_neg (by simp [haddress]), unplaced]

@[simp] theorem unplaced_cons_of_none (haddress : register.address = none) :
    unplaced (register :: rest) = register :: unplaced rest := by
  rw [unplaced, List.filter_cons_of_pos (by simp [haddress]), unplaced]

theorem fill_cons_of_some (haddress : register.address = some address) :
    fill slots (register :: rest) = register :: fill slots rest := by
  simp [fill, List.mapIdx_cons, haddress]

theorem fill_cons_of_none (haddress : register.address = none) :
    fill (slot :: slots) (register :: rest) =
      { register with address := some slot } :: fill slots rest := by
  simp [fill, List.mapIdx_cons, haddress, unplaced]

/-- Registers that all have an address keep it. -/
theorem fill_of_placed (hplaced : ∀ register ∈ registers, register.address.isSome = true) :
    fill slots registers = registers := by
  induction registers with
  | nil => rfl
  | cons register rest ih =>
    obtain ⟨hregister, hrest⟩ := List.forall_mem_cons.mp hplaced
    obtain ⟨address, haddress⟩ := Option.isSome_iff_exists.mp hregister
    rw [fill_cons_of_some haddress, ih hrest]

theorem unplaced_of_placed (hplaced : ∀ register ∈ registers, register.address.isSome = true) :
    unplaced registers = [] :=
  List.filter_eq_nil_iff.mpr fun register hregister => by
    simp [Option.isSome_iff_ne_none.mp (hplaced register hregister)]

/-- What does not depend on the address of a register is as before. -/
theorem map_fill {β : Type} {read : Register → β}
    (hread : ∀ register address, read { register with address } = read register)
    (slots : List UInt64) (registers : List Register) :
    (fill slots registers).map read = registers.map read := by
  refine List.ext_getElem (by simp [fill]) fun position _ _ => ?_
  simp only [fill, List.getElem_map, List.getElem_mapIdx]
  split
  · rfl
  · exact hread _ _

/-- With slots enough every register has an address, its own or a slot. -/
theorem exists_address_of_mem_fill (hlength : (unplaced registers).length ≤ slots.length) :
    ∀ register ∈ fill slots registers, ∃ address, register.address = some address ∧
      (register ∈ registers ∨ address ∈ slots) := by
  induction registers generalizing slots with
  | nil => simp [fill]
  | cons register rest ih =>
    cases haddress : register.address with
    | some address =>
      rw [unplaced_cons_of_some haddress] at hlength
      rw [fill_cons_of_some haddress, List.forall_mem_cons]
      refine ⟨⟨address, haddress, .inl List.mem_cons_self⟩, fun other hother => ?_⟩
      obtain ⟨address, haddress, hmem⟩ := ih hlength other hother
      exact ⟨address, haddress, hmem.imp_left (List.mem_cons_of_mem _)⟩
    | none =>
      rw [unplaced_cons_of_none haddress] at hlength
      cases slots with
      | nil => cases hlength
      | cons slot slots =>
        rw [fill_cons_of_none haddress, List.forall_mem_cons]
        refine ⟨⟨slot, rfl, .inr List.mem_cons_self⟩, fun other hother => ?_⟩
        obtain ⟨address, haddress, hmem⟩ := ih (Nat.le_of_succ_le_succ hlength) other hother
        exact ⟨address, haddress, hmem.imp (List.mem_cons_of_mem _) (List.mem_cons_of_mem _)⟩

/-- Registers are placed on the slots from a cursor on, until none is left for the next. -/
theorem place_eq (hstep : 0 < step) (hcursor : step ∣ cursor) :
    place step used cursor registers =
      match (unplaced registers)[(slotsFrom step used cursor).length]? with
      | some register => .error (.exhausted register.name step)
      | none => .ok (fill (slotsFrom step used cursor) registers) := by
  induction registers generalizing used cursor with
  | nil => simp [place, unplaced, fill]
  | cons register rest ih =>
    rw [place]
    cases haddress : register.address with
    | some address =>
      rw [Option.isSome_some, if_pos rfl, ih hcursor, unplaced_cons_of_some haddress,
        fill_cons_of_some haddress]
      cases (unplaced rest)[(slotsFrom step used cursor).length]? <;> rfl
    | none =>
      rw [Option.isSome_none, if_neg Bool.false_ne_true, unplaced_cons_of_none haddress]
      obtain ⟨hfree, hslots⟩ | ⟨slot, hfree, hunused, hslot, hslots⟩ :=
        slotsFrom_of_firstFree used hstep hcursor
      · rw [hfree, hslots]
        rfl
      · have hcontains : ¬ used.contains slot = true := by simpa using hunused
        rw [hfree, hslots, fill_cons_of_none haddress, List.length_cons, List.getElem?_cons_succ]
        simp only [if_neg hcontains]
        rw [ih (Nat.dvd_add hslot (Nat.dvd_refl step))]
        cases (unplaced rest)[(slotsFrom step (slot :: used) (slot.toNat + step)).length]? <;> rfl

/-! ### Assignment -/

variable {config : Config}

theorem alignment_pos (config : Config) : 0 < alignment config :=
  Nat.lt_of_lt_of_le (by decide) (Nat.le_max_left 4 _)

theorem mem_freeSlots_iff :
    address ∈ freeSlots config ↔
      config.baseAddress ≤ address ∧ alignment config ∣ address.toNat ∧
        ∀ register ∈ config.registers, register.address ≠ some address := by
  rw [freeSlots, mem_slotsFrom, List.mem_filterMap, UInt64.le_iff_toNat_le]
  simp only [not_exists, not_and, ne_eq]

theorem misaligned?_of_onSlot (haligned : ∀ register ∈ registers, OnSlot config register) :
    misaligned? (alignment config) registers = none := by
  refine List.findSome?_eq_none_iff.mpr fun register hregister => ?_
  cases haddress : register.address with
  | none => rfl
  | some address =>
    have hmultiple := haligned register hregister address haddress
    exact if_pos (Nat.mod_eq_zero_of_dvd hmultiple)

theorem misaligned?_of_first {front : List Register} (back : List Register)
    (hfront : ∀ earlier ∈ front, OnSlot config earlier) (haddress : register.address = some address)
    (hmisaligned : ¬ alignment config ∣ address.toNat) :
    misaligned? (alignment config) (front ++ register :: back) = some (register.name, address) := by
  have hrest : ¬ address.toNat % alignment config = 0 := fun hzero =>
    hmisaligned (Nat.dvd_of_mod_eq_zero hzero)
  have hnone := misaligned?_of_onSlot hfront
  rw [misaligned?] at hnone ⊢
  rw [List.findSome?_append, hnone, Option.none_or, List.findSome?_cons, haddress]
  simp [hrest]

/-- No address is off its slot once the check for misaligned ones finds none. -/
theorem dvd_of_misaligned?_eq_none {registers : List Register}
    (hnone : misaligned? step registers = none) :
    ∀ register ∈ registers, ∀ address, register.address = some address →
      step ∣ address.toNat := by
  intro register hregister address haddress
  have hfound := List.findSome?_eq_none_iff.mp hnone register hregister
  rw [haddress] at hfound
  rw [Nat.dvd_iff_mod_eq_zero]
  simpa using hfound

/-- Behind the check of the addresses that are there, assignment is placement on the free slots. -/
theorem assign_of_onSlot (haligned : ∀ register ∈ config.registers, OnSlot config register) :
    assign config =
      match (unplaced config.registers)[(freeSlots config).length]? with
      | some register => .error (.exhausted register.name (alignment config))
      | none => .ok { config with registers := fill (freeSlots config) config.registers } := by
  have hstep := alignment_pos config
  rw [freeSlots, ← slotsFrom_roundUp hstep]
  simp only [assign, misaligned?_of_onSlot haligned]
  rw [place_eq hstep (dvd_roundUp hstep _)]
  cases (unplaced config.registers)[(slotsFrom (alignment config)
    (config.registers.filterMap Register.address)
    (roundUp (alignment config) config.baseAddress.toNat)).length]? <;> rfl

/-- Assignment works exactly if no address is off its slot and there are slots enough. -/
theorem assign_eq_ok_iff {planned : Config} :
    assign config = .ok planned ↔
      (∀ register ∈ config.registers, OnSlot config register) ∧
        (unplaced config.registers).length ≤ (freeSlots config).length ∧
          planned = { config with registers := fill (freeSlots config) config.registers } := by
  constructor
  · intro hassign
    have haligned : ∀ register ∈ config.registers, OnSlot config register := by
      cases hmisaligned : misaligned? (alignment config) config.registers with
      | some found => simp [assign, hmisaligned] at hassign
      | none => exact dvd_of_misaligned?_eq_none hmisaligned
    rw [assign_of_onSlot haligned] at hassign
    split at hassign
    · cases hassign
    · next hnone =>
      cases hassign
      exact ⟨haligned, List.getElem?_eq_none_iff.mp hnone, rfl⟩
  · rintro ⟨haligned, hlength, rfl⟩
    rw [assign_of_onSlot haligned, List.getElem?_eq_none hlength]

/-- Assignment changes addresses only, and leaves every register with one on a slot. -/
theorem slots_of_assign {planned : Config} (hassign : assign config = .ok planned) :
    planned = { config with registers := planned.registers } ∧
      ∀ register ∈ planned.registers,
        ∃ address, register.address = some address ∧ alignment config ∣ address.toNat := by
  obtain ⟨haligned, hlength, rfl⟩ := assign_eq_ok_iff.mp hassign
  refine ⟨rfl, fun register hregister => ?_⟩
  obtain ⟨address, haddress, hmem | hslot⟩ :=
    exists_address_of_mem_fill hlength register hregister
  · exact ⟨address, haddress, haligned register hmem address haddress⟩
  · exact ⟨address, haddress, (mem_freeSlots_iff.mp hslot).2.1⟩

/-- A register file in which every register has its place stays as it is. -/
theorem assign_of_placed (hplaced : ∀ register ∈ config.registers,
      ∃ address, register.address = some address ∧ alignment config ∣ address.toNat) :
    assign config = .ok config := by
  have haligned : ∀ register ∈ config.registers, OnSlot config register := by
    intro register hregister address haddress
    obtain ⟨slot, hslot, hmultiple⟩ := hplaced register hregister
    rw [haddress] at hslot
    rwa [Option.some.inj hslot]
  have hsome : ∀ register ∈ config.registers, register.address.isSome = true := by
    intro register hregister
    obtain ⟨slot, hslot, -⟩ := hplaced register hregister
    rw [hslot, Option.isSome_some]
  rw [assign_of_onSlot haligned, unplaced_of_placed hsome, fill_of_placed hsome]
  rfl

/-- Addresses are assigned in order: the first free slots go to the registers without an address
    as they are declared. It fails for the first address off its slot, else for the first
    register without a slot, and in no other way; and what it gives is left alone by a second
    assignment. -/
theorem fillsInOrder (config : Config) : FillsInOrder config where
  increasing := pairwise_slotsFrom ..
  mem_freeSlots := fun _ => mem_freeSlots_iff
  misaligned := by
    intro front register back address hregisters hfront haddress hmisaligned
    have hfirst := misaligned?_of_first back hfront haddress hmisaligned
    simp only [assign, hregisters, hfirst]
  exhausted := by
    intro haligned register hregister
    rw [assign_of_onSlot haligned, hregister]
  placed := fun haligned hlength => assign_eq_ok_iff.mpr ⟨haligned, hlength, rfl⟩
  no_conflict := by
    intro register address hconflict
    cases hmisaligned : misaligned? (alignment config) config.registers with
    | some found => simp [assign, hmisaligned] at hconflict
    | none =>
      rw [assign_of_onSlot (dvd_of_misaligned?_eq_none hmisaligned)] at hconflict
      split at hconflict <;> cases hconflict
  stable := by
    intro planned hassign
    obtain ⟨hplanned, hslots⟩ := slots_of_assign hassign
    have halignment : alignment planned = alignment config := by
      rw [hplanned]
      rfl
    exact assign_of_placed (halignment ▸ hslots)

/-- A register file of five-byte words whose base lies just below the last two addresses; one
    register has the first of them. -/
def lastWords (names : List String) : Config where
  moduleName := "regs"
  dataWidth := 40
  addrWidth := 64
  baseAddress := 18446744073709551606
  registers :=
    { name := "LOW", address := some 18446744073709551610 } :: names.map fun name => { name }

theorem freeSlots_lastWords (names : List String) :
    freeSlots (lastWords names) = [18446744073709551615] := by
  refine (eq_slotsFrom (List.pairwise_singleton ..) fun address => ?_).symm
  show _ ↔ address ∈ freeSlots (lastWords names)
  have hunused : (∀ register ∈ (lastWords names).registers, register.address ≠ some address) ↔
      address ≠ 18446744073709551610 := by
    simp [lastWords, @eq_comm _ address]
  have halignment : alignment (lastWords names) = 5 := by simp [alignment, lastWords]
  rw [mem_freeSlots_iff, hunused, halignment, List.mem_singleton, lastWords,
    UInt64.le_iff_toNat_le, Ne, ← UInt64.toNat_inj, ← UInt64.toNat_inj]
  have hlimit := address.toNat_lt_size
  simp only [UInt64.size, UInt64.reduceToNat] at hlimit ⊢
  omega

theorem onSlot_lastWords (names : List String) :
    ∀ register ∈ (lastWords names).registers, OnSlot (lastWords names) register := by
  simp [OnSlot, alignment, lastWords]

/-- Of two registers without an address the first gets the only slot, and the second none. -/
theorem fillsInOrder_lastWords :
    (∃ planned, assign (lastWords ["TOP"]) = .ok planned ∧
        planned.registers.map Register.address =
          [some 18446744073709551610, some 18446744073709551615] ∧
        assign planned = .ok planned) ∧
      assign (lastWords ["TOP", "NONE"]) = .error (.exhausted "NONE" 5) := by
  constructor
  · have hfills := fillsInOrder (lastWords ["TOP"])
    have hplanned := hfills.placed (onSlot_lastWords _) (by rw [freeSlots_lastWords]; decide)
    refine ⟨_, hplanned, ?_, hfills.stable _ hplanned⟩
    rw [freeSlots_lastWords]
    rfl
  · refine (fillsInOrder (lastWords ["TOP", "NONE"])).exhausted (onSlot_lastWords _)
      { name := "NONE" } ?_
    rw [freeSlots_lastWords]
    rfl

end AddressPlan

end RegisterFile
