import RegisterFile.Proofs.Hardware.Refines
import RegisterFile.Proofs.Model.Step

/-!
Stored bits of segments that pulse. The bus never sets one: a write that gets at it makes it zero.
But nothing keeps reset from setting it, and then it stays set until such a write.
-/

namespace RegisterFile

theorem WriteEffect.bit_of_isPulse {effect : WriteEffect} (hpulse : effect.isPulse = true)
    (current data : Bool) : effect.bit current data = false := by
  cases effect with
  | pulse level => rfl
  | _ => cases hpulse

namespace Model

variable {model : Model} {state : State} {register : RegisterLayout} {before after : Cell}
  {segment : Segment} {i : Nat}

section

variable (hregister : register.Regular) (hsegment : segment ∈ register.segments)
  (hpulse : segment.writeEffect.isPulse = true) (hin : i ∈ segment.bits)

include hregister hsegment hpulse hin

theorem CellWritten.pulseBit {data strobe : Word}
    (hwritten : model.CellWritten state register before data strobe after)
    (hbit : after.value.getLsbD i = true) :
    before.value.getLsbD i = true ∧
      ¬ model.Reaches state register before strobe segment i := by
  -- Whatever reaches the bit is the segment itself, which would leave it zero.
  have hunreached : ∀ other, ¬ model.Reaches state register before strobe other i := by
    intro other hreaches
    have hvalue := (hwritten.reached other i hreaches).1
    obtain ⟨written, hentry, -, hotherIn, -⟩ := hreaches
    obtain rfl := hregister.segment_eq (List.of_mem_zip hentry).1 hsegment hotherIn hin
    rw [hbit] at hvalue
    exact Bool.false_ne_true ((WriteEffect.bit_of_isPulse hpulse _ _).symm.trans hvalue.symm)
  exact ⟨(hwritten.kept i hunreached).1.symm.trans hbit, hunreached segment⟩

/-- The bus never sets a stored bit of a segment that pulses. -/
theorem Performed.pulseBit {operation : Operation}
    (hperformed : model.Performed state register before operation after)
    (hhardware : ¬ operation.IsHardware) (hbit : after.value.getLsbD i = true) :
    before.value.getLsbD i = true ∨ operation = .reset ∧ register.reset.getLsbD i = true := by
  cases hperformed with
  | reset => exact Or.inr ⟨rfl, hbit⟩
  | passed => exact Or.inl hbit
  | written hwritten => exact Or.inl (hwritten.pulseBit hregister hsegment hpulse hin hbit).1
  | read =>
    have heffect := Segment.readEffect_eq_none (Or.inl hpulse)
    exact Or.inl ((getLsbD_read hregister hsegment heffect hin before.value).symm.trans hbit)
  | driven => exact absurd trivial hhardware

end

/-! ### Runs -/

section

variable (hmodel : model.Regular) (hstems : model.StemsDistinct)
  (hregister : register ∈ model.layout.registers) (hsegment : segment ∈ register.segments)
  (hpulse : segment.writeEffect.isPulse = true) (hin : i ∈ segment.bits)

include hmodel hstems hregister hsegment hpulse hin

theorem hasBit_perform (hfits : model.Fits state) {operation : Operation}
    (hhardware : ¬ operation.IsHardware)
    (hbit : model.HasBit (model.perform state operation) register i) :
    model.HasBit state register i ∨ operation = .reset ∧ register.reset.getLsbD i = true := by
  obtain ⟨after, hafter, hbit⟩ := hbit
  obtain ⟨before, hbefore, hperformed⟩ := holds_perform hmodel hfits operation hstems hafter
  exact (hperformed.pulseBit (hmodel.layout.registers register hregister) hsegment hpulse hin
    hhardware hbit).imp_left fun hbit => ⟨before, hbefore, hbit⟩

theorem reset_of_hasBit_run (operations : List Operation)
    (hhardware : ∀ operation ∈ operations, ¬ operation.IsHardware)
    (hbit : model.HasBit (model.run operations) register i) :
    register.reset.getLsbD i = true := by
  induction operations using List.reverseRecOn with
  | nil =>
    obtain ⟨cell, hcell, hbit⟩ := hbit
    rwa [holds_reset hcell] at hbit
  | append_singleton operations operation ih =>
    rw [run_append_singleton] at hbit
    rw [List.forall_mem_append, List.forall_mem_singleton] at hhardware
    rcases hasBit_perform hmodel hstems hregister hsegment hpulse hin
      (fits_run hmodel operations) hhardware.2 hbit with hbefore | ⟨-, hreset⟩
    · exact ih hhardware.1 hbefore
    · exact hreset

/-- A bit that is zero stays zero until the next reset. -/
theorem hasBit_of_foldl (hfits : model.Fits state) (operations : List Operation)
    (hbus : ∀ operation ∈ operations, ¬ operation.IsHardware ∧ operation ≠ .reset)
    (hbit : model.HasBit (operations.foldl model.perform state) register i) :
    model.HasBit state register i := by
  induction operations generalizing state with
  | nil => exact hbit
  | cons operation rest ih =>
    obtain ⟨⟨hhardware, hreset⟩, hrest⟩ := List.forall_mem_cons.mp hbus
    have hafter := ih (fits_perform hmodel hfits operation) hrest hbit
    exact (hasBit_perform hmodel hstems hregister hsegment hpulse hin hfits hhardware
      hafter).resolve_right fun hboth => hreset hboth.1

omit hstems in
theorem not_hasBit_of_reaches (hfits : model.Fits state)
    (hholds : model.Holds state register before) {strobe : Word}
    (hreaches : model.Reaches state register before strobe segment i) (data : Word) :
    ¬ model.HasBit (model.perform state (.write register.address data strobe)) register i := by
  rintro ⟨after, hafter, hbit⟩
  obtain ⟨cell, hcell, -, hhere⟩ := holds_write hmodel hfits hafter
  obtain ⟨-, rfl⟩ := hcell.unique hmodel.layout hholds rfl
  exact ((hhere rfl).pulseBit (hmodel.layout.registers register hregister) hsegment hpulse hin
    hbit).2 hreaches

end

end Model

/-- Without hardware writes a stored bit of a segment that pulses is zero in every run exactly if
    reset leaves it zero. If reset sets it, it is zero from a write that gets at it to the next
    reset. -/
theorem pulseBit_zero_iff (config : Config) (hvalid : (validate config).isValid = true)
    {register : RegisterLayout} (hregister : register ∈ (Layout.ofConfig config).registers)
    {segment : Segment} (hsegment : segment ∈ register.segments)
    (hpulse : segment.writeEffect.isPulse = true) {i : Nat} (hin : i ∈ segment.bits) :
    ((∀ operations : List Model.Operation,
        (∀ operation ∈ operations, ¬ operation.IsHardware) →
        ¬ (Model.ofConfig config).HasBit ((Model.ofConfig config).run operations) register i) ↔
      register.reset.getLsbD i = false) ∧
    ∀ (earlier later : List Model.Operation) (data strobe : Word) (cell : Model.Cell),
      (Model.ofConfig config).Holds ((Model.ofConfig config).run earlier) register cell →
      (Model.ofConfig config).Reaches ((Model.ofConfig config).run earlier) register cell strobe
        segment i →
      (∀ operation ∈ later, ¬ operation.IsHardware ∧ operation ≠ .reset) →
      ¬ (Model.ofConfig config).HasBit
        ((Model.ofConfig config).run (earlier ++ .write register.address data strobe :: later))
        register i := by
  have hwf := Validate.wellFormed_of_isValid hvalid
  have hmodel := hwf.regular_model
  have hstems := Hardware.stemsDistinct hwf
  refine ⟨⟨fun hzero => ?_, fun hreset operations hhardware hbit => ?_⟩, ?_⟩
  · rw [← Bool.not_eq_true]
    intro hbit
    obtain ⟨cell, hcell⟩ := (Model.fits_reset hmodel.layout).exists_holds hregister
    refine hzero [] (List.forall_mem_nil _) ⟨cell, hcell, ?_⟩
    rwa [Model.holds_reset hcell]
  · have hset := Model.reset_of_hasBit_run hmodel hstems hregister hsegment hpulse hin operations
      hhardware hbit
    rw [hreset] at hset
    cases hset
  · intro earlier later data strobe cell hcell hreaches hlater hbit
    have hfits := Model.fits_run hmodel earlier
    rw [Model.run, List.foldl_append, List.foldl_cons] at hbit
    exact Model.not_hasBit_of_reaches hmodel hregister hsegment hpulse hin hfits hcell
      hreaches data (Model.hasBit_of_foldl hmodel hstems hregister hsegment hpulse hin
        (Model.fits_perform hmodel hfits _) later hlater hbit)

/-- A register that pulses and that reset does not leave at zero. -/
def Register.go : Register where
  name := "GO"
  address := some 0
  type := .write1Pulse
  resetValue := 5

/-- A register that is written only while the pulsing one holds what reset has put there. -/
def Config.armed : Config where
  moduleName := "regs"
  registers := [.go, { name := "DATA", address := some 4, magic := some ⟨"GO", 5⟩ }]

/-- The pulsing register as one segment. -/
def Segment.go : Segment :=
  .build none (.full 32) .write1Pulse none [] [] "go"

theorem Config.isValid_armed : (validate Config.armed).isValid = true := by
  decide +kernel

theorem Segment.go_mem : Segment.go ∈ (Layout.ofRegister Config.armed .go).segments := by
  decide +kernel

/-- Bit 1, which reset leaves at zero, stays at zero; bit 0 does so from the first pulse on. -/
theorem pulseBit_zero_iff_armed :
    (validate Config.armed).isValid = true ∧
      Layout.ofRegister Config.armed .go ∈ (Layout.ofConfig Config.armed).registers ∧
      Segment.go ∈ (Layout.ofRegister Config.armed .go).segments ∧
      Segment.go.writeEffect.isPulse = true ∧ 0 ∈ Segment.go.bits ∧ 1 ∈ Segment.go.bits ∧
      ((∀ operations : List Model.Operation,
          (∀ operation ∈ operations, ¬ operation.IsHardware) →
          ¬ (Model.ofConfig Config.armed).HasBit ((Model.ofConfig Config.armed).run operations)
            (Layout.ofRegister Config.armed .go) 1) ↔
        (Layout.ofRegister Config.armed .go).reset.getLsbD 1 = false) ∧
      ¬ (Model.ofConfig Config.armed).HasBit
        ((Model.ofConfig Config.armed).run [.write 0 2 0, .tick, .write 0 1 0, .read 0])
        (Layout.ofRegister Config.armed .go) 0 := by
  have hregister : Layout.ofRegister Config.armed .go ∈
      (Layout.ofConfig Config.armed).registers := List.mem_cons_self
  refine ⟨Config.isValid_armed, hregister, Segment.go_mem, rfl, by decide, by decide,
    (pulseBit_zero_iff Config.armed Config.isValid_armed hregister Segment.go_mem rfl
      (by decide)).1, ?_⟩
  refine (pulseBit_zero_iff Config.armed Config.isValid_armed hregister Segment.go_mem rfl
    (by decide)).2 [] [.tick, .write 0 1 0, .read 0] 2 0 ⟨5, [false], 0⟩ ⟨0, rfl, ?_⟩ ?_ ?_
  · decide +kernel
  · refine ⟨false, by decide +kernel, ⟨rfl, ?_, ?_, rfl⟩, by decide, ?_⟩
    · rintro ⟨tap, htap, -⟩
      cases htap
    · exact fun gate hgate => by cases hgate
    · exact fun hbyte => by cases hbyte
  · simp [Model.Operation.IsHardware]

/-- Reset sets bits that pulse, and they open a magic gate that the first pulse shuts. -/
theorem pulse_holds_reset :
    (validate Config.armed).isValid = true ∧
      Segment.go ∈ (Layout.ofRegister Config.armed .go).segments ∧
      Segment.go.writeEffect.isPulse = true ∧ 0 ∈ Segment.go.bits ∧
      (Model.ofConfig Config.armed).HasBit ((Model.ofConfig Config.armed).run [])
        (Layout.ofRegister Config.armed .go) 0 ∧
      (Model.ofConfig Config.armed).run [.write 4 1 0] = [⟨5, [false], 0⟩, ⟨1, [false], 0⟩] ∧
      (Model.ofConfig Config.armed).run [.write 0 2 0, .tick, .write 4 1 0] =
        [⟨0, [false], 0⟩, ⟨0, [false], 0⟩] :=
  ⟨Config.isValid_armed, Segment.go_mem, rfl, by decide,
    ⟨⟨5, [false], 0⟩, ⟨0, rfl, by decide +kernel⟩, by decide⟩, by decide +kernel,
    by decide +kernel⟩

end RegisterFile
