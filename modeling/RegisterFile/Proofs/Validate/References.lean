import RegisterFile.Proofs.Validate.Structure

/-!
What the checks of references accept: locks, magic gates and the names of generated ports. The
remaining checks only warn, apart from the options of the protocol.
-/

namespace RegisterFile.Validate

/-! ### Locks and magic gates -/

theorem isLockBit_iff {locker : Register} {index : UInt32} :
    isLockBit locker index = true ↔
      locker.type = .lockField ∨
        ∃ field ∈ locker.fields, index.toNat ∈ field.bits ∧ field.typeIn locker = .lockField := by
  have hbit (range : BitRange) :
      range.overlaps (BitRange.bit index) = true ↔ index.toNat ∈ range := by
    rw [overlaps_iff]
    constructor
    · rintro ⟨i, hrange, hlow, hhigh⟩
      simp only [BitRange.bit] at hlow hhigh
      obtain rfl : index.toNat = i := by omega
      exact hrange
    · exact fun hmem => ⟨index.toNat, hmem, by simp [BitRange.mem_iff, BitRange.bit]⟩
  simp [isLockBit, hbit]

theorem selectorProblem_eq_none_iff {config : Config} {locker : Register}
    {selector : LockSelector} :
    selectorProblem? config locker selector = none ↔ selector.Picks config locker := by
  cases selector with
  | bit index =>
    rw [LockSelector.Picks, ← isLockBit_iff, ← UInt32.lt_iff_toNat_lt, ← UInt32.not_le]
    by_cases hlock : isLockBit locker index = true <;>
      by_cases hinside : config.registerWidth locker ≤ index <;>
      simp [selectorProblem?, hlock, hinside]
  | field name =>
    simp only [selectorProblem?, LockSelector.Picks]
    cases locker.field? name with
    | none => simp
    | some field => by_cases htype : field.typeIn locker = .lockField <;> simp [htype]

theorem lockProblem_eq_none_iff {config : Config} {lock : Lock} :
    lockProblem? config lock = none ↔ lock.Resolves config := by
  simp only [lockProblem?, Lock.Resolves]
  cases config.register? lock.register with
  | none => simp
  | some locker => simp [selectorProblem_eq_none_iff]

theorem isValid_locksAt_iff {config : Config} {location : Location} {locks : List Lock} :
    (locksAt config location locks).isValid = true ↔ ∀ lock ∈ locks, lock.Resolves config := by
  induction locks with
  | nil => simp [locksAt]
  | cons lock rest ih =>
    rw [List.forall_mem_cons, ← ih, ← lockProblem_eq_none_iff]
    cases hproblem : lockProblem? config lock <;> simp [locksAt, hproblem]

theorem isValid_locks_iff {config : Config} :
    (locks config).isValid = true ↔
      ∀ register ∈ config.registers, ∀ lock ∈ register.allLocks, lock.Resolves config := by
  simp only [locks, Report.isValid_flatMap_iff, Report.isValid_append, Bool.and_eq_true,
    isValid_locksAt_iff, Register.allLocks, List.forall_mem_append, List.forall_mem_flatMap]

theorem register?_isSome_iff {config : Config} {name : String} :
    (config.register? name).isSome = true ↔
      ∃ register ∈ config.registers, register.name = name := by
  simp [Config.register?]

theorem isValid_magicGate_iff {config : Config} {location : Location}
    {magic : MagicDependency} :
    (magicGate config location magic).isValid = true ↔
      ∃ source ∈ config.registers, source.name = magic.source := by
  rw [← register?_isSome_iff]
  cases hsource : config.register? magic.source <;>
    simp [magicGate, magicUnresolved, magicTruncated, hsource]

theorem isValid_magicGates_iff {config : Config} :
    (magicGates config).isValid = true ↔
      ∀ register ∈ config.registers, ∀ magic ∈ register.allMagic,
        ∃ source ∈ config.registers, source.name = magic.source := by
  have hfields (register : Register) (P : MagicDependency → Prop) :
      (∀ field ∈ register.fields, ∀ magic, field.magic = some magic → P magic) ↔
        ∀ magic, (∃ field ∈ register.fields, field.magic = some magic) → P magic := by
    constructor
    · rintro hall magic ⟨field, hfield, hmagic⟩
      exact hall field hfield magic hmagic
    · exact fun hall field hfield magic hmagic => hall magic ⟨field, hfield, hmagic⟩
  simp only [magicGates, magicAt, Report.isValid_flatMap_iff, Report.isValid_append,
    Bool.and_eq_true, isValid_magicGate_iff, Register.allMagic, List.forall_mem_append,
    List.mem_filterMap, Option.mem_toList, hfields]

/-! ### Port names -/

theorem isValid_portsFrom_iff {owners entries : List (String × String)} :
    (portsFrom owners entries).isValid = true ↔
      (∀ port ∈ entries.map Prod.fst, port ∉ owners.map Prod.fst) ∧
      (entries.map Prod.fst).Nodup := by
  induction entries generalizing owners with
  | nil => simp [portsFrom]
  | cons entry rest ih =>
    obtain ⟨port, register⟩ := entry
    have howner : (owners.lookup port).isNone = true ↔ port ∉ owners.map Prod.fst := by
      rw [Option.isNone_iff_eq_none, lookup_eq_none_iff]
    have hstep : (portsFrom owners ((port, register) :: rest)).isValid =
        ((owners.lookup port).isNone && (portsFrom ((port, register) :: owners) rest).isValid) := by
      cases hlookup : owners.lookup port <;> simp [portsFrom, hlookup]
    rw [hstep, Bool.and_eq_true, howner, ih]
    simp only [List.map_cons, List.mem_cons, not_or, List.nodup_cons]
    grind

/-- The validator and the module generator give a register the same ports. -/
theorem portNames_eq (register : RegisterLayout) :
    portNames register = (Hardware.registerPorts register).map Verilog.Port.name := by
  have hfields (fields : List HwField) :
      (fields.flatMap fun hw =>
        (if hw.output then [s!"{hw.stem}_o"] else []) ++
        (if hw.input then [s!"{hw.stem}_i", s!"{hw.stem}_we"] else [])) =
      (fields.flatMap Hardware.fieldPorts).map Verilog.Port.name := by
    rw [List.map_flatMap]
    congr 1
    funext hw
    cases houtput : hw.output <;> cases hinput : hw.input <;>
      simp [Hardware.fieldPorts, houtput, hinput, Verilog.Port.output, Verilog.Port.input]
  have hpulses (segments : List Segment) :
      segments.filterMap Segment.pulsePort =
        (segments.filterMap Hardware.pulsePort?).map Verilog.Port.name := by
    rw [List.map_filterMap]
    congr 1
    funext segment
    cases hpulse : segment.pulsePort <;>
      simp [Hardware.pulsePort?, hpulse, Verilog.Port.outputReg]
  simp only [portNames, Hardware.registerPorts, List.map_append, hfields, hpulses]

theorem isValid_ports_iff {config : Config} :
    (portsFrom [] (ownedPorts config)).isValid = true ↔ config.hardwarePorts.Nodup := by
  have hports : (ownedPorts config).map Prod.fst = config.hardwarePorts := by
    simp [ownedPorts, portOwners, Config.hardwarePorts, List.map_flatMap, Function.comp_def,
      portNames_eq]
  simp [isValid_portsFrom_iff, hports]

/-! ### Warnings and options -/

theorem isValid_resets (config : Config) : (resets config).isValid = true := by
  simp [resets, resetValue, resetTruncated, Report.isValid_flatMap_iff]

theorem isValid_usage (register : Register) : (usage register).isValid = true := by
  unfold usage
  split
  · simp
  · simp [Report.isValid_flatMap_iff]

theorem isValid_writeCollisions (config : Config) : (writeCollisions config).isValid = true := by
  simp [writeCollisions, writeCollisionsIn]

theorem isValid_protocol_iff {config : Config}
    (hwidth : 0 < config.dataWidth.toNat ∧ config.dataWidth.toNat ≤ 128) :
    (protocol config).isValid = true ↔
      (config.protocol = .apb → config.options.waitStates.toNat ≤ 15) := by
  have hwarn : (Bus.widthFindings config).isValid = true := by
    simp only [Bus.widthFindings]
    split <;> rfl
  have htypes : Report.isValid ((Layout.ofConfig config).registers.flatMap fun register =>
      register.segments.filterMap (Bus.segmentFinding? config register)) = true := by
    rw [Report.isValid_flatMap_iff]
    intro register _
    rw [Report.isValid_iff]
    intro finding hfinding
    obtain ⟨segment, _, hsome⟩ := List.mem_filterMap.mp hfinding
    obtain ⟨reason, _, rfl⟩ := Option.map_eq_some_iff.mp hsome
    rfl
  simp only [protocol, hasBusWidth, hwidth, decide_true, Bool.and_self, if_true, Bus.findings,
    Bus.layoutFindings, Report.isValid_append, hwarn, htypes, Bool.true_and, Bool.and_true]
  cases hprotocol : config.protocol with
  | apb =>
    have hmax : Bus.Apb.maxWaitStates = 15 := rfl
    simp only [Config.interface, hprotocol, Bus.Apb.interface, Bus.Apb.findings, true_imp_iff]
    by_cases hwaits : Bus.Apb.maxWaitStates < config.options.waitStates.toNat
    · simp only [if_pos hwaits, Report.isValid_cons, Diagnostic.isError_error, Bool.not_true,
        Bool.false_and, Bool.false_eq_true, false_iff]
      omega
    · simp only [if_neg hwaits, Report.isValid_nil, true_iff]
      omega
  | axi4Lite => simp [Config.interface, hprotocol, Bus.AxiLite.interface]
  | wishbone => simp [Config.interface, hprotocol, Bus.Wishbone.interface]
  | ocp => simp [Config.interface, hprotocol, Bus.Ocp.interface]
  | custom => simp [Config.interface, hprotocol, Bus.Custom.interface]

end RegisterFile.Validate
