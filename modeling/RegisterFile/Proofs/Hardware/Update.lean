import RegisterFile.Proofs.Hardware.Segments

/-!
The update block, signal by signal. A signal of a register is only assigned by the statements of
that register: at a reset to where it starts, and otherwise by hardware writes, bus writes and the
effects of reads in this order.
-/

namespace RegisterFile.Hardware

open Verilog

variable {config : Config} {widths : Widths} {e : Env} {register : RegisterLayout}
  {segment : Segment} {hw : HwField} {i j : Nat}

/-! ### Hardware writes -/

theorem updates_hardwareWrites :
    ∀ s ∈ hardwareWrites register, s.Updates [storageName register.ident] := by
  intro s hs
  obtain ⟨hw, -, rfl⟩ := List.mem_map.mp hs
  exact updates_storageBits.when _

section HardwareWrites

variable (hwf : config.WellFormed) (hsignals : Signals config widths)
  (hmem : register ∈ (Layout.ofConfig config).registers) (hhw : hw ∈ register.hwFields)

include hwf hsignals hmem hhw

theorem effect_hardwareWrite (hinput : hw.input = true) :
    (hardwareWrite register hw).effect widths e (storageName register.ident) i =
      if (Expr.signal s!"{hw.stem}_we").holds widths e = true ∧ i ∈ hw.bits then
        some ((e.value widths s!"{hw.stem}_i").getLsbD (i - hw.bits.low))
      else none := by
  have hhigh := ((hwf.regular.registers register hmem).hwInside hw hhw).high_lt
  have hwidth := hsignals.hwData register hmem hw hhw hinput
  have hvalue : (Expr.signal s!"{hw.stem}_i").evalFor widths e
      (storageBits register hw.bits.high hw.bits.low) = e.value widths s!"{hw.stem}_i" := by
    rw [Expr.evalFor, Expr.signal, Expr.eval, Env.read_whole]
  rw [hardwareWrite, Stmt.when, Stmt.effect_branch, storageBits,
    Stmt.effect_part (hsignals.storage register hmem) hw.bits.low_le_high hhigh, ← storageBits,
    hvalue, Stmt.effect_skip]
  cases (Expr.signal s!"{hw.stem}_we").holds widths e with
  | true =>
    simp only [if_true, true_and]
    rfl
  | false => simp only [Bool.false_eq_true, if_false, false_and]

end HardwareWrites

/-- A stored bit that hardware does not write is left alone. -/
theorem effects_hardwareWrites_miss (hwf : config.WellFormed) (hsignals : Signals config widths)
    (hmem : register ∈ (Layout.ofConfig config).registers)
    (hmiss : ∀ hw ∈ register.hwFields, hw.input = true → i ∈ hw.bits →
      (Expr.signal s!"{hw.stem}_we").holds widths e = false) :
    Stmt.effects widths e (hardwareWrites register) (storageName register.ident) i = none := by
  apply Stmt.effects_eq_none
  intro s hs
  obtain ⟨hw, hfilter, rfl⟩ := List.mem_map.mp hs
  obtain ⟨hhw, hinput⟩ := List.mem_filter.mp hfilter
  rw [effect_hardwareWrite hwf hsignals hmem hhw hinput, if_neg]
  rintro ⟨henable, hin⟩
  rw [hmiss hw hhw hinput hin] at henable
  cases henable

/-- The field of a stored bit decides about it. -/
theorem effects_hardwareWrites_hit (hwf : config.WellFormed) (hsignals : Signals config widths)
    (hmem : register ∈ (Layout.ofConfig config).registers) (hhw : hw ∈ register.hwFields)
    (hinput : hw.input = true) (hin : i ∈ hw.bits)
    (henable : (Expr.signal s!"{hw.stem}_we").holds widths e = true) :
    Stmt.effects widths e (hardwareWrites register) (storageName register.ident) i =
      some ((e.value widths s!"{hw.stem}_i").getLsbD (i - hw.bits.low)) := by
  rw [hardwareWrites, List.map_eq_flatMap,
    Stmt.effects_flatMap (List.mem_filter.mpr ⟨hhw, hinput⟩), Stmt.effects_singleton,
    effect_hardwareWrite hwf hsignals hmem hhw hinput, if_pos ⟨henable, hin⟩]
  intro other hfilter hne
  obtain ⟨hother, hotherInput⟩ := List.mem_filter.mp hfilter
  rw [Stmt.effects_singleton, effect_hardwareWrite hwf hsignals hmem hother hotherInput, if_neg]
  rintro ⟨-, hotherIn⟩
  exact hne ((hwf.regular.registers register hmem).hw_eq hother hhw hotherIn hin)

/-! ### Effects of reads -/

theorem updates_readEffect {s : Stmt} (hsome : segmentReadEffect? register segment = some s) :
    s.Updates [storageName register.ident] := by
  obtain ⟨effect, -, rfl⟩ := Option.map_eq_some_iff.mp hsome
  exact updates_storageBits

theorem updates_readStmts :
    ∀ s ∈ register.segments.filterMap (segmentReadEffect? register),
      s.Updates [storageName register.ident] := by
  intro s hs
  obtain ⟨segment, -, hsome⟩ := List.mem_filterMap.mp hs
  exact updates_readEffect hsome

theorem updates_readEffects :
    ∀ s ∈ readEffects config register, s.Updates [storageName register.ident] := by
  intro s hs
  unfold readEffects at hs
  split at hs
  · cases hs
  · next effects =>
    have hstmts : (Stmt.ofList (register.segments.filterMap (segmentReadEffect? register))).Updates
        [storageName register.ident] := Stmt.Updates.ofList updates_readStmts
    simp only [List.mem_cons, List.not_mem_nil, or_false] at hs
    rcases hs with rfl | rfl
    · exact Stmt.updates_comment _
    · exact hstmts.when _

theorem effects_readEffects {name : String} :
    Stmt.effects widths e (readEffects config register) name i =
      if (anyRead config register).holds widths e then
        Stmt.effects widths e (register.segments.filterMap (segmentReadEffect? register)) name i
      else none := by
  have hclocked : ∀ s ∈ register.segments.filterMap (segmentReadEffect? register),
      s.isClocked = true := fun s hs => (updates_readStmts s hs).clocked
  unfold readEffects
  split
  · next hnone =>
    rw [hnone]
    exact (ite_self _).symm
  · rw [Stmt.effects, Stmt.effects_singleton, Stmt.effect_comment, Option.or_none, Stmt.when,
      Stmt.effect_branch, Stmt.effect_skip, Stmt.effect_ofList hclocked]

/-- The statement for a read of one segment and the model's step do the same to a bit. -/
theorem effects_segmentReadEffect (hwf : config.WellFormed) (hsignals : Signals config widths)
    (hmem : register ∈ (Layout.ofConfig config).registers)
    (hsegment : segment ∈ register.segments) (hi : i < register.width.toNat) (value : Word) :
    (Stmt.effects widths e (segmentReadEffect? register segment).toList
        (storageName register.ident) i).getD (value.getLsbD i) =
      (Model.afterRead register value segment).getLsbD i := by
  have hregister := hwf.regular.registers register hmem
  have hword := hregister.width_le
  have hhigh := (hregister.segmentsInside segment hsegment).high_lt
  have hspan := segment.bits.low_add_width
  rw [Model.getLsbD_afterRead register value segment hi (by omega)]
  cases heffect : segment.readEffect with
  | none =>
    rw [segmentReadEffect?, heffect]
    exact (ite_self _).symm
  | some effect =>
    rw [segmentReadEffect?, heffect, Option.map_some, Option.toList_some,
      Stmt.effects_singleton, storageBits, Stmt.effect_part (hsignals.storage register hmem)
        segment.bits.low_le_high hhigh]
    by_cases hin : i ∈ segment.bits
    · obtain ⟨hlow, hle⟩ := BitRange.mem_iff.mp hin
      rw [if_pos ⟨hlow, hle⟩, (BitRange.getLsbD_mask_iff (by omega)).mpr hin, if_pos rfl,
        Option.getD_some, Expr.evalFor]
      cases effect with
      | clear => exact getLsbD_zero
      | set =>
        simp only [Expr.hex, Expr.eval]
        rw [BitVec.getLsbD_and, Word.getLsbD_lowMask, decide_eq_true (by omega),
          decide_eq_true (by omega)]
        rfl
    · have hmask : segment.bits.mask.getLsbD i = false := by
        rw [Bool.eq_false_iff, ne_eq, BitRange.getLsbD_mask_iff (by omega)]
        exact hin
      rw [if_neg (fun h => hin (BitRange.mem_iff.mpr h)), hmask, if_neg Bool.false_ne_true]
      rfl

/-- So do the statements for all segments and the model's pass over them. -/
theorem effects_readStmts (hwf : config.WellFormed) (hsignals : Signals config widths)
    (hmem : register ∈ (Layout.ofConfig config).registers) (hi : i < register.width.toNat)
    {segments : List Segment} (hsegments : segments ⊆ register.segments) (value : Word) :
    (Stmt.effects widths e (segments.filterMap (segmentReadEffect? register))
        (storageName register.ident) i).getD (value.getLsbD i) =
      (segments.foldl (Model.afterRead register) value).getLsbD i := by
  induction segments generalizing value with
  | nil => rfl
  | cons segment rest ih =>
    obtain ⟨hsegment, hrest⟩ := List.cons_subset.mp hsegments
    have hstep := effects_segmentReadEffect (e := e) hwf hsignals hmem hsegment hi value
    rw [List.foldl_cons, ← ih hrest, ← hstep, List.filterMap_eq_flatMap_toList,
      List.filterMap_eq_flatMap_toList, List.flatMap_cons, Stmt.effects_append]
    cases Stmt.effects widths e (rest.flatMap fun segment =>
      (segmentReadEffect? register segment).toList) (storageName register.ident) i <;> rfl

/-! ### Reset -/

theorem updates_resetSegment :
    ∀ s ∈ resetSegment segment, s.Updates (segmentSignals segment) := by
  intro s hs
  rcases List.mem_append.mp hs with hs | hs
  · obtain ⟨flag, hflag, rfl⟩ := Option.map_eq_some_iff.mp (Option.mem_toList.mp hs)
    exact Stmt.updates_store (mem_segmentSignals.mpr (Or.inl hflag))
  · obtain ⟨pulse, hpulse, rfl⟩ := Option.map_eq_some_iff.mp (Option.mem_toList.mp hs)
    exact Stmt.updates_store (mem_segmentSignals.mpr (Or.inr hpulse))

theorem updates_resetRegister :
    ∀ s ∈ resetRegister register, s.Updates (registerSignals register) := by
  intro s hs
  rcases List.mem_cons.mp hs with rfl | hs
  · exact Stmt.updates_store List.mem_cons_self
  · obtain ⟨segment, hsegment, hs⟩ := List.mem_flatMap.mp hs
    refine (updates_resetSegment s hs).mono fun name hname => ?_
    exact List.mem_cons_of_mem _ (List.mem_flatMap.mpr ⟨segment, hsegment, hname⟩)

theorem effects_resetRegister_storage (hwf : config.WellFormed) (hsignals : Signals config widths)
    (hmem : register ∈ (Layout.ofConfig config).registers) (hi : i < register.width.toNat) :
    Stmt.effects widths e (resetRegister register) (storageName register.ident) i =
      some (register.reset.getLsbD i) := by
  have hregister := hwf.regular.registers register hmem
  have hwidth := hsignals.storage register hmem
  have hsegments : Stmt.effects widths e (register.segments.flatMap resetSegment)
      (storageName register.ident) i = none := by
    apply Stmt.effects_flatMap_eq_none
    intro segment hsegment
    exact Stmt.effects_eq_none_of_updates updates_resetSegment
      (storageName_not_mem hmem hmem hsegment)
  rw [resetRegister, Stmt.effects, hsegments, Option.none_or, Stmt.effect_store (by omega),
    Expr.evalFor, Expr.hex, Expr.eval, hregister.reset.and_lowMask]

theorem effects_resetRegister_signal (hwf : config.WellFormed) (hflags : config.writtenFlags.Nodup)
    (hmem : register ∈ (Layout.ofConfig config).registers) (hsegment : segment ∈ register.segments)
    {name : String} (hname : name ∈ segmentSignals segment) :
    Stmt.effects widths e (resetRegister register) name i =
      Stmt.effects widths e (resetSegment segment) name i := by
  have hne : name ≠ storageName register.ident := by
    rintro rfl
    exact storageName_not_mem hmem hmem hsegment hname
  have hstorage : (Stmt.store (storageName register.ident)
      (.hex register.width.toNat register.reset)).Updates [storageName register.ident] :=
    Stmt.updates_store (List.mem_singleton_self _)
  rw [resetRegister, Stmt.effects,
    hstorage.effect_eq_none fun h => hne (List.mem_singleton.mp h), Option.or_none,
    Stmt.effects_flatMap hsegment]
  intro other hother hotherNe
  apply Stmt.effects_eq_none_of_updates updates_resetSegment
  intro hotherName
  exact hotherNe (segment_eq_of_signal hwf hflags hmem hmem hother hsegment hotherName hname).2

theorem effects_resetSegment_flag (hsignals : Signals config widths)
    (hmem : register ∈ (Layout.ofConfig config).registers) (hsegment : segment ∈ register.segments)
    {flag : String} (hflag : segment.writtenFlag = some flag) :
    Stmt.effects widths e (resetSegment segment) flag 0 = some false := by
  have hwidth := hsignals.flag register hmem segment hsegment flag hflag
  have hpulses : Stmt.effects widths e (segment.pulsePort.map fun pulse =>
      Stmt.store pulse (zero segment.bits.width)).toList flag 0 = none := by
    apply Stmt.effects_eq_none
    intro s hs
    obtain ⟨pulse, hpulse, rfl⟩ := Option.map_eq_some_iff.mp (Option.mem_toList.mp hs)
    rw [Stmt.store, Stmt.effect_nonblocking]
    exact if_neg fun h => flag_ne_pulse hmem hsegment hflag hpulse h.1.symm
  rw [resetSegment, Stmt.effects_append, hpulses, Option.none_or, hflag, Option.map_some,
    Option.toList_some, Stmt.effects_singleton, Stmt.effect_store (by omega), Expr.evalFor,
    Expr.eval_bit, getLsbD_flag]

theorem effects_resetSegment_pulse {pulse : String} (hpulse : segment.pulsePort = some pulse)
    (hj : j < widths pulse) :
    Stmt.effects widths e (resetSegment segment) pulse j = some false := by
  rw [resetSegment, Stmt.effects_append, hpulse, Option.map_some, Option.toList_some,
    Stmt.effects_singleton, Stmt.effect_store hj, Expr.evalFor, getLsbD_zero]
  rfl

/-! ### The block -/

theorem updates_busWrites :
    ∀ s ∈ busWrites config register, s.Updates (registerSignals register) := by
  intro s hs
  obtain ⟨segment, hfilter, rfl⟩ := List.mem_map.mp hs
  refine updates_busWrite.mono (List.cons_subset_cons _ fun name hname => ?_)
  exact List.mem_flatMap.mpr ⟨segment, (List.mem_filter.mp hfilter).1, hname⟩

theorem storage_subset_registerSignals :
    [storageName register.ident] ⊆ registerSignals register :=
  List.cons_subset.mpr ⟨List.mem_cons_self, List.nil_subset _⟩

/-- Statements that come register by register leave the signals of other registers alone. -/
theorem effects_registers (hwf : config.WellFormed) (hflags : config.writtenFlags.Nodup)
    (hmem : register ∈ (Layout.ofConfig config).registers) {name : String}
    (hname : name ∈ registerSignals register) {stmts : RegisterLayout → List Stmt}
    (hstmts : ∀ other, ∀ s ∈ stmts other, s.Updates (registerSignals other)) :
    Stmt.effects widths e ((Layout.ofConfig config).registers.flatMap stmts) name i =
      Stmt.effects widths e (stmts register) name i := by
  apply Stmt.effects_flatMap hmem
  intro other hother hne
  apply Stmt.effects_eq_none_of_updates (hstmts other)
  intro hotherName
  exact hne (register_eq_of_signal hwf hflags hother hmem hotherName hname)

theorem isClocked_resetStmts :
    ∀ s ∈ (Layout.ofConfig config).registers.flatMap resetRegister, s.isClocked = true := by
  intro s hs
  obtain ⟨register, -, hs⟩ := List.mem_flatMap.mp hs
  exact (updates_resetRegister s hs).clocked

theorem isClocked_clockStmts :
    ∀ s ∈ (Layout.ofConfig config).registers.flatMap hardwareWrites ++
        (Layout.ofConfig config).registers.flatMap (busWrites config) ++
        (Layout.ofConfig config).registers.flatMap (readEffects config),
      s.isClocked = true := by
  intro s hs
  simp only [List.mem_append, List.mem_flatMap] at hs
  rcases hs with (⟨register, -, hs⟩ | ⟨register, -, hs⟩) | ⟨register, -, hs⟩
  · exact (updates_hardwareWrites s hs).clocked
  · exact (updates_busWrites s hs).clocked
  · exact (updates_readEffects s hs).clocked

theorem isClocked_updateBody : (updateBody config).isClocked = true :=
  Bool.and_eq_true_iff.mpr ⟨Stmt.isClocked_ofList isClocked_resetStmts,
    Stmt.isClocked_ofList isClocked_clockStmts⟩

theorem registerSignals_subset_targets (hmem : register ∈ (Layout.ofConfig config).registers) :
    registerSignals register ⊆ (updateBody config).targets := by
  have hreset (s : Stmt) (hs : s ∈ resetRegister register) {name : String}
      (hname : name ∈ s.targets) : name ∈ (updateBody config).targets := by
    apply List.mem_append_left
    rw [resetBody, Stmt.targets_ofList]
    exact List.mem_flatMap.mpr ⟨s, List.mem_flatMap.mpr ⟨register, hmem, hs⟩, hname⟩
  intro name hname
  rcases List.mem_cons.mp hname with rfl | hname
  · exact hreset _ List.mem_cons_self (List.mem_singleton_self _)
  · obtain ⟨segment, hsegment, hname⟩ := List.mem_flatMap.mp hname
    have hstore (s : Stmt) (hs : s ∈ resetSegment segment) : s ∈ resetRegister register :=
      List.mem_cons_of_mem _ (List.mem_flatMap.mpr ⟨segment, hsegment, hs⟩)
    rcases mem_segmentSignals.mp hname with hflag | hpulse
    · refine hreset (.store name (.bit false)) (hstore _ ?_) (List.mem_singleton_self _)
      rw [resetSegment, hflag]
      exact List.mem_cons_self
    · refine hreset (.store name (zero segment.bits.width)) (hstore _ ?_)
        (List.mem_singleton_self _)
      rw [resetSegment, hpulse]
      exact List.mem_append_right _ (List.mem_singleton_self _)

section Block

variable (hwf : config.WellFormed) (hflags : config.writtenFlags.Nodup)
  (hmem : register ∈ (Layout.ofConfig config).registers) {name : String}
  (hname : name ∈ registerSignals register)

include hwf hflags hmem hname

/-- Under reset, the reset of its register decides about a signal. -/
theorem effect_updateBody_reset
    (hactive : (Reset.ofSync config.syncReset).active.holds widths e = true) :
    (updateBody config).effect widths e name i =
      Stmt.effects widths e (resetRegister register) name i := by
  rw [updateBody, Stmt.effect_branch, hactive, if_pos rfl, resetBody,
    Stmt.effect_ofList isClocked_resetStmts,
    effects_registers hwf hflags hmem hname fun other => updates_resetRegister]

/-- Without reset, the later of what hardware, the bus and reads do to a signal holds. -/
theorem effect_updateBody_clock
    (hreleased : (Reset.ofSync config.syncReset).active.holds widths e = false) :
    (updateBody config).effect widths e name i =
      (Stmt.effects widths e (readEffects config register) name i).or
        ((Stmt.effects widths e (busWrites config register) name i).or
          (Stmt.effects widths e (hardwareWrites register) name i)) := by
  have hhardware (other : RegisterLayout) :
      ∀ s ∈ hardwareWrites other, s.Updates (registerSignals other) :=
    fun s hs => (updates_hardwareWrites s hs).mono storage_subset_registerSignals
  have hreads (other : RegisterLayout) :
      ∀ s ∈ readEffects config other, s.Updates (registerSignals other) :=
    fun s hs => (updates_readEffects s hs).mono storage_subset_registerSignals
  rw [updateBody, Stmt.effect_branch, hreleased, if_neg Bool.false_ne_true, Stmt.effect_block,
    clockBody, Stmt.effect_ofList isClocked_clockStmts, Stmt.effects_append, Stmt.effects_append,
    effects_registers hwf hflags hmem hname hhardware,
    effects_registers hwf hflags hmem hname fun other => updates_busWrites,
    effects_registers hwf hflags hmem hname hreads]

end Block

end RegisterFile.Hardware
