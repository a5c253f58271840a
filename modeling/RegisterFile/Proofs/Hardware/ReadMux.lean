import RegisterFile.Proofs.Hardware.Status

/-!
The read multiplexer. At rest it gives the readable bits of the register that is addressed, or
zeros and an error if there is none.
-/

namespace RegisterFile.Hardware

open Verilog

variable {config : Config} {widths : Widths} {e : Env} {state : Model.State}
  {register : RegisterLayout} {cell : Model.Cell} {address : UInt64} {name : String}

/-- The data of a read and its error are signals of their own. -/
theorem readNames_apart (config : Config) :
    config.interface.signals.readAddr ∉ [config.interface.signals.readData, readDecodeError] ∧
      config.interface.signals.readData ≠ readDecodeError ∧
      family config.interface.signals.readData = .fixed := by
  cases hprotocol : config.protocol with
  | custom =>
    simp only [Config.interface, hprotocol, Bus.Custom.interface, Bus.Custom.signals]
    split <;> decide
  | _ =>
    simp only [Config.interface, hprotocol, Bus.Apb.interface, Bus.Apb.signals,
      Bus.AxiLite.interface, Bus.AxiLite.signals, Bus.Wishbone.interface, Bus.Wishbone.signals,
      Bus.Ocp.interface, Bus.Ocp.signals]
    decide

theorem not_mem_readNames (hname : family name ≠ .fixed) :
    name ∉ [config.interface.signals.readData, readDecodeError] := by
  have herror : family readDecodeError = .fixed := by decide
  intro hmem
  simp only [List.mem_cons, List.not_mem_nil, or_false] at hmem
  rcases hmem with rfl | rfl
  · exact hname (readNames_apart config).2.2
  · exact hname herror

theorem family_addressName (hmem : register ∈ (Layout.ofConfig config).registers) :
    family (addressName register) = .address :=
  family_addressNames config _ (List.mem_map.mpr ⟨register, hmem, rfl⟩)

/-! ### Running the multiplexer -/

/-- The values after the defaults of the multiplexer are set. -/
def muxDefaults (config : Config) (widths : Widths) (e : Env) : Env :=
  let data : Ref := ⟨config.interface.signals.readData, .whole⟩
  let error : Ref := ⟨readDecodeError, .whole⟩
  let cleared := e.assign widths
    (data, (Expr.hex config.dataWidth.toNat 0).evalFor widths e data)
  cleared.assign widths (error, (Expr.bit false).evalFor widths cleared error)

/-- The arms of the multiplexer. -/
def muxArms (config : Config) : List (String × Ref × Expr) :=
  (Layout.ofConfig config).registers.map fun register =>
    (addressName register, ⟨config.interface.signals.readData, .whole⟩, readValue config register)

/-- The body of the multiplexer. -/
def muxBody (config : Config) : Stmt :=
  .seq (.blocking ⟨config.interface.signals.readData, .whole⟩ (.hex config.dataWidth.toNat 0))
    (.seq (.blocking ⟨readDecodeError, .whole⟩ (.bit false))
      (.select ⟨config.interface.signals.readAddr, .whole⟩ (muxArms config)
        (some (⟨readDecodeError, .whole⟩, .bit true))))

theorem readMux_eq (config : Config) :
    readMux config (Layout.ofConfig config) (busReadPort config) =
      .always .change (muxBody config) :=
  rfl

theorem value_muxDefaults_other
    (hname : name ∉ [config.interface.signals.readData, readDecodeError]) :
    (muxDefaults config widths e).value widths name = e.value widths name := by
  simp only [List.mem_cons, List.not_mem_nil, or_false, not_or] at hname
  rw [muxDefaults, Env.value_assign_other hname.2, Env.value_assign_other hname.1]

theorem value_muxDefaults_data :
    (muxDefaults config widths e).value widths config.interface.signals.readData = 0 := by
  have hzero : (Expr.hex config.dataWidth.toNat 0).evalFor widths e
      ⟨config.interface.signals.readData, .whole⟩ = 0 := by
    rw [Expr.evalFor, Expr.hex, Expr.eval, Word.zero_and]
  rw [muxDefaults, Env.value_assign_other (readNames_apart config).2.1, Env.value_assign_self,
    hzero, Word.zero_and]

theorem value_muxDefaults_error :
    (muxDefaults config widths e).value widths readDecodeError = 0 := by
  rw [muxDefaults, Env.value_assign_self, Expr.evalFor, Expr.eval_bit]
  exact Word.zero_and _

theorem blocked_muxBody :
    (muxBody config).blocked widths e =
      match chosen widths (muxDefaults config widths e)
          ⟨config.interface.signals.readAddr, .whole⟩ (muxArms config)
          (some (⟨readDecodeError, .whole⟩, .bit true)) with
      | some (target, value) => (muxDefaults config widths e).assign widths
          (target, value.evalFor widths (muxDefaults config widths e) target)
      | none => muxDefaults config widths e :=
  rfl

/-- An arm is taken exactly for its address. -/
theorem holds_arm (hmem : register ∈ (Layout.ofConfig config).registers)
    (haddressed : (addressed config.interface.signals.readAddr register).holds widths e = true ↔
      register.address = address) :
    (Expr.equal (.ref ⟨config.interface.signals.readAddr, .whole⟩)
        (.signal (addressName register))).holds widths (muxDefaults config widths e) = true ↔
      register.address = address := by
  have haddr : (muxDefaults config widths e).value widths config.interface.signals.readAddr =
      e.value widths config.interface.signals.readAddr :=
    value_muxDefaults_other (readNames_apart config).1
  have hfamily : family (addressName register) ≠ .fixed := by
    rw [family_addressName hmem]
    decide
  have hconstant : (muxDefaults config widths e).value widths (addressName register) =
      e.value widths (addressName register) :=
    value_muxDefaults_other (not_mem_readNames hfamily)
  rw [holds_addressed] at haddressed
  rw [Expr.holds_equal, Expr.signal, Expr.eval, Expr.eval, Env.read_whole, Env.read_whole, haddr,
    hconstant, beq_iff_eq, haddressed]

/-- What is read of a register is what the model reads of what it holds. -/
theorem value_readValue (hfits : (Model.ofConfig config).Fits state)
    (hshows : Shows widths e (Model.ofConfig config) state)
    (hholds : (Model.ofConfig config).Holds state register cell) :
    (readValue config register).evalFor widths (muxDefaults config widths e)
        ⟨config.interface.signals.readData, .whole⟩ = cell.value &&& register.readMask := by
  have hmem := hholds.mem
  have hvalue := (hfits.cells register cell hholds).value
  have hfamily : family (storageName register.ident) ≠ .fixed := by
    rw [family_storageName hmem]
    decide
  have hstorage : (muxDefaults config widths e).value widths (storageName register.ident) =
      cell.value := by
    rw [value_muxDefaults_other (not_mem_readNames hfamily)]
    exact (hshows register cell hholds).storage
  unfold readValue
  split
  · next hnone =>
    rw [hnone, Expr.evalFor, Expr.hex, Expr.eval, Word.zero_and]
    exact BitVec.and_zero.symm
  · split
    · next hall =>
      rw [hall, Expr.evalFor, Expr.signal, Expr.eval, Env.read_whole, hstorage,
        RegisterLayout.fullMask, hvalue.and_lowMask]
    · rw [Expr.evalFor, Expr.eval, Expr.signal, Expr.eval, Env.read_whole, hstorage, Expr.hex,
        Expr.eval, ← BitVec.and_assoc, (hvalue.and _).and_lowMask]

/-- The arm that is chosen, if there is a register at the address. -/
theorem chosen_unknown
    (haddressed : ∀ register ∈ (Layout.ofConfig config).registers,
      ((addressed config.interface.signals.readAddr register).holds widths e = true ↔
        register.address = address))
    (hnone : ∀ register ∈ (Layout.ofConfig config).registers, register.address ≠ address) :
    chosen widths (muxDefaults config widths e) ⟨config.interface.signals.readAddr, .whole⟩
        (muxArms config) (some (⟨readDecodeError, .whole⟩, .bit true)) =
      some (⟨readDecodeError, .whole⟩, .bit true) := by
  have hfind : (muxArms config).find? (fun arm =>
      (Expr.equal (.ref ⟨config.interface.signals.readAddr, .whole⟩)
        (.signal arm.1)).holds widths (muxDefaults config widths e)) = none := by
    rw [List.find?_eq_none]
    intro arm harm
    obtain ⟨register, hmem, rfl⟩ := List.mem_map.mp harm
    rw [holds_arm hmem (haddressed register hmem)]
    exact hnone register hmem
  rw [chosen, hfind]

theorem chosen_known (hwf : config.WellFormed)
    (haddressed : ∀ register ∈ (Layout.ofConfig config).registers,
      ((addressed config.interface.signals.readAddr register).holds widths e = true ↔
        register.address = address))
    (hmem : register ∈ (Layout.ofConfig config).registers) (haddress : register.address = address) :
    chosen widths (muxDefaults config widths e) ⟨config.interface.signals.readAddr, .whole⟩
        (muxArms config) (some (⟨readDecodeError, .whole⟩, .bit true)) =
      some (⟨config.interface.signals.readData, .whole⟩, readValue config register) := by
  have hsome : ((muxArms config).find? (fun arm =>
      (Expr.equal (.ref ⟨config.interface.signals.readAddr, .whole⟩)
        (.signal arm.1)).holds widths (muxDefaults config widths e))).isSome = true := by
    rw [List.find?_isSome]
    exact ⟨_, List.mem_map_of_mem hmem, (holds_arm hmem (haddressed register hmem)).mpr haddress⟩
  obtain ⟨arm, hfind⟩ := Option.isSome_iff_exists.mp hsome
  obtain ⟨other, hother, rfl⟩ := List.mem_map.mp (List.mem_of_find?_eq_some hfind)
  have htaken := List.find?_some hfind
  have hotherAddress := (holds_arm hother (haddressed other hother)).mp htaken
  have hsame : register = other :=
    List.inj_on_of_nodup_map hwf.regular.addressesDistinct hmem hother
      (haddress.trans hotherAddress.symm)
  rw [chosen, hfind, hsame]

/-! ### The answer to a read -/

theorem value_of_mux (hsettled : Settled config widths e)
    (hname : name ∈ (muxBody config).targets) :
    e.value widths name = ((muxBody config).blocked widths e).value widths name := by
  have hmux := hsettled _ (List.mem_append_right _ (List.mem_singleton_self _))
  rw [readMux_eq] at hmux
  exact (hmux name hname).symm

section Reads

variable (hsingle : SinglePorted config widths) (hsettled : Settled config widths e)
  (haddressed : ∀ register ∈ (Layout.ofConfig config).registers,
    ((addressed config.interface.signals.readAddr register).holds widths e = true ↔
      register.address = address))

include hsingle hsettled haddressed

theorem readMux_unknown
    (hnone : ∀ register ∈ (Layout.ofConfig config).registers, register.address ≠ address) :
    e.value widths config.interface.signals.readData = 0 ∧
      e.value widths readDecodeError = flag true := by
  have hwidth := hsingle.signals.errors readDecodeError List.mem_cons_self
  have hblocked : (muxBody config).blocked widths e = (muxDefaults config widths e).assign widths
      (⟨readDecodeError, .whole⟩, (Expr.bit true).evalFor widths (muxDefaults config widths e)
        ⟨readDecodeError, .whole⟩) := by
    rw [blocked_muxBody, chosen_unknown haddressed hnone]
  constructor
  · rw [value_of_mux hsettled List.mem_cons_self, hblocked,
      Env.value_assign_other (readNames_apart config).2.1, value_muxDefaults_data]
  · rw [value_of_mux hsettled (List.mem_cons_of_mem _ List.mem_cons_self), hblocked,
      Env.value_assign_self, Expr.evalFor, Expr.eval_bit, hwidth, (fitsIn_flag true).and_lowMask]

theorem readMux_known (hfits : (Model.ofConfig config).Fits state)
    (hshows : Shows widths e (Model.ofConfig config) state)
    (hholds : (Model.ofConfig config).Holds state register cell)
    (haddress : register.address = address) :
    e.value widths config.interface.signals.readData = cell.value &&& register.readMask ∧
      e.value widths readDecodeError = flag false := by
  have hmem := hholds.mem
  have hvalue := (hfits.cells register cell hholds).value
  have hbus : register.width.toNat ≤ config.dataWidth.toNat :=
    hsingle.wellFormed.regular_model.onBus register hmem
  have hblocked : (muxBody config).blocked widths e = (muxDefaults config widths e).assign widths
      (⟨config.interface.signals.readData, .whole⟩, cell.value &&& register.readMask) := by
    rw [blocked_muxBody, chosen_known hsingle.wellFormed haddressed hmem haddress,
      ← value_readValue hfits hshows hholds]
  constructor
  · rw [value_of_mux hsettled List.mem_cons_self, hblocked, Env.value_assign_self,
      hsingle.signals.readData, ((hvalue.and _).mono hbus).and_lowMask]
  · rw [value_of_mux hsettled (List.mem_cons_of_mem _ List.mem_cons_self), hblocked,
      Env.value_assign_other (readNames_apart config).2.1.symm, value_muxDefaults_error]
    rfl

end Reads

theorem holds_readErrorExpr :
    (readErrorExpr config).holds widths e = true ↔
      config.options.errorResponse = .slverr ∧ (e.value widths readDecodeError != 0) = true := by
  unfold readErrorExpr
  cases config.options.errorResponse with
  | okay =>
    rw [Expr.holds_bit]
    constructor
    · exact fun hfalse => absurd hfalse Bool.false_ne_true
    · rintro ⟨hslverr, -⟩
      cases hslverr
  | slverr => rw [Expr.holds_signal, eq_self_iff_true, true_and]

theorem width_readErrorExpr (hsignals : Signals config widths) :
    (readErrorExpr config).width widths = 1 := by
  unfold readErrorExpr
  split
  · rfl
  · exact hsignals.errors readDecodeError List.mem_cons_self

/-- A read returns the data of the model, and its error is up exactly if the model answers with
    one. -/
theorem answers_read (hsingle : SinglePorted config widths) (hsettled : Settled config widths e)
    (hfits : (Model.ofConfig config).Fits state)
    (hshows : Shows widths e (Model.ofConfig config) state)
    (hpresents : Presents config widths e (.read address)) :
    Answers config widths e state (.read address) := by
  have hwf := hsingle.wellFormed
  have haddr := hpresents.2.2.1
  have haddressed : ∀ register ∈ (Layout.ofConfig config).registers,
      ((addressed config.interface.signals.readAddr register).holds widths e = true ↔
        register.address = address) :=
    fun register hmem => holds_addressed_iff hwf hsingle.signals hsettled hmem haddr
  have herror : e.value widths Bus.readError = flag ((readErrorExpr config).holds widths e) :=
    value_errorWire hsingle.signals hsettled (by simp [errorNames])
      (width_readErrorExpr hsingle.signals) (by simp [errorWires])
  rw [Answers, herror]
  by_cases hknown : ∃ register ∈ (Layout.ofConfig config).registers, register.address = address
  · obtain ⟨register, hmem, haddress⟩ := hknown
    obtain ⟨cell, hholds⟩ := hfits.exists_holds hmem
    obtain ⟨hdata, hdecode⟩ :=
      readMux_known hsingle hsettled haddressed hfits hshows hholds haddress
    obtain ⟨i, hregister, hcell⟩ := hholds
    rw [← haddress, Model.read_known hwf.regular hregister hcell]
    refine ⟨hdata, congrArg flag ?_⟩
    rw [Bool.eq_iff_iff, holds_readErrorExpr, hdecode, flag_bne_zero]
    simp
  · have hnone : ∀ register ∈ (Layout.ofConfig config).registers, register.address ≠ address :=
      fun register hmem haddress => hknown ⟨register, hmem, haddress⟩
    obtain ⟨hdata, hdecode⟩ := readMux_unknown hsingle hsettled haddressed hnone
    rw [Model.read_unknown hnone]
    refine ⟨hdata, congrArg flag ?_⟩
    rw [Bool.eq_iff_iff, holds_readErrorExpr, hdecode, flag_bne_zero, beq_iff_eq,
      Model.errorAnswer_eq_slaveError_iff, eq_self_iff_true, and_true]
    rfl

end RegisterFile.Hardware
