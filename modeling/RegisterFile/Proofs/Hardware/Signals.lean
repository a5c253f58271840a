import RegisterFile.Proofs.Hardware.Names
import RegisterFile.Proofs.Verilog.Step

/-!
The widths of the signals that registers and the bus are made of, and what keeps them apart. Both
follow from a module that declares every name once.
-/

namespace RegisterFile.Hardware

open Verilog

/-- The widths of the signals of an interface. -/
structure BusSignals (config : Config) (widths : Widths) : Prop where
  writeAddr : widths config.interface.signals.writeAddr = config.addrWidth.toNat
  writeData : widths config.interface.signals.writeData = config.dataWidth.toNat
  writeStrobe : ∀ strobe, config.interface.signals.writeStrobe = some strobe →
    widths strobe = config.byteLanes
  writeEnable : config.interface.signals.writeEnable.width widths = 1
  readAddr : widths config.interface.signals.readAddr = config.addrWidth.toNat
  readData : widths config.interface.signals.readData = config.dataWidth.toNat
  readEnable : config.interface.signals.readEnable.width widths = 1

/-- The widths of the signals that the registers of a file and its bus are made of. -/
structure Signals (config : Config) (widths : Widths) : Prop extends BusSignals config widths where
  storage : ∀ register ∈ (Layout.ofConfig config).registers,
    widths (storageName register.ident) = register.width.toNat
  flag : ∀ register ∈ (Layout.ofConfig config).registers, ∀ segment ∈ register.segments,
    ∀ flag, segment.writtenFlag = some flag → widths flag = 1
  pulse : ∀ register ∈ (Layout.ofConfig config).registers, ∀ segment ∈ register.segments,
    ∀ pulse, segment.pulsePort = some pulse → widths pulse = segment.bits.width
  address : ∀ register ∈ (Layout.ofConfig config).registers,
    widths (addressName register) = config.addrWidth.toNat
  hwData : ∀ register ∈ (Layout.ofConfig config).registers, ∀ hw ∈ register.hwFields,
    hw.input = true → widths s!"{hw.stem}_i" = hw.bits.width
  hwEnable : ∀ register ∈ (Layout.ofConfig config).registers, ∀ hw ∈ register.hwFields,
    hw.input = true → widths s!"{hw.stem}_we" = 1
  errors : ∀ name ∈ errorNames, widths name = 1

variable {config : Config} {provenance : Provenance}

/-- Strobes are there exactly if byte enables are honoured. -/
theorem isSome_writeStrobe :
    config.interface.signals.writeStrobe.isSome = config.byteEnable := by
  have hstrobe (name : String) :
      (if config.byteEnable = true then some name else none).isSome = config.byteEnable := by
    cases config.byteEnable <;> rfl
  cases hprotocol : config.protocol <;> simp only [Config.interface, hprotocol]
  · exact hstrobe _
  · exact hstrobe _
  · exact hstrobe _
  · exact hstrobe _
  · exact hstrobe _

/-! ### Looking declarations up -/

/-- A name that is declared only once has the width of its declaration. -/
theorem widths_of_count {m : Module} {name : String} {width : Nat}
    (hcount : m.declared.count name ≤ 1) (hmem : (name, width) ∈ m.declarations) :
    m.widths name = width := by
  have hlookup : ∀ {declarations : List (String × Nat)},
      (declarations.map Prod.fst).count name ≤ 1 → (name, width) ∈ declarations →
        declarations.lookup name = some width := by
    intro declarations hcount hmem
    induction declarations with
    | nil => cases hmem
    | cons declaration rest ih =>
      rw [List.map_cons, List.count_cons] at hcount
      rcases List.mem_cons.mp hmem with rfl | hmem
      · exact List.lookup_cons_self
      · have hlater : 0 < (rest.map Prod.fst).count name :=
          List.count_pos_iff.mpr (List.mem_map.mpr ⟨_, hmem, rfl⟩)
        have hne : name ≠ declaration.1 := by
          rintro rfl
          rw [beq_self_eq_true, if_pos rfl] at hcount
          omega
        rw [List.lookup_cons, beq_eq_false_iff_ne.mpr hne]
        exact ih (by omega) hmem
  rw [Module.widths, hlookup hcount hmem, Option.getD_some]

theorem widths_of_mem {m : Module} (hnodup : m.declared.Nodup) {name : String} {width : Nat}
    (hmem : (name, width) ∈ m.declarations) : m.widths name = width :=
  widths_of_count (List.nodup_iff_count_le_one.mp hnodup name) hmem

/-- A name that no register or further port can have is declared at most once. -/
theorem count_declared_le_one {name : String} (hfixed : family name = .fixed) :
    (ofConfig config provenance).declared.count name ≤ 1 := by
  have hother {kind : Family} {names : List String} (hnames : ∀ name ∈ names, family name = kind)
      (hne : kind ≠ .fixed) : names.count name = 0 :=
    List.count_eq_zero.mpr fun hmem => hne ((hnames name hmem).symm.trans hfixed)
  have hnodup := (nodup_possibleNames config.protocol).sublist (fixedNames_sublist config)
  rw [(declared_perm config provenance).count_eq]
  simp only [List.count_append, hother (family_hardwarePorts config) (by decide),
    hother (family_furtherNames config) (by decide),
    hother (family_addressNames config) (by decide),
    hother (family_storageNames config) (by decide),
    hother (family_writtenFlags config) (by decide), Nat.add_zero]
  exact List.nodup_iff_count_le_one.mp hnodup name

theorem mem_titled {title : String} {body : List Item} {item : Item} (hmem : item ∈ body) :
    item ∈ titled title body := by
  cases body with
  | nil => cases hmem
  | cons first rest =>
    exact List.mem_cons_of_mem _ (List.mem_append_left _ hmem)

/-- What a port of the module declares. -/
theorem port_mem_declarations {port : Port} (hport : port ∈ ports config (Layout.ofConfig config)) :
    port.declares ∈ (ofConfig config provenance).declarations :=
  List.mem_append_left _ (List.mem_map_of_mem hport)

/-- What an item of the module declares. -/
theorem item_mem_declarations {item : Item} {declaration : String × Nat}
    (hitem : item ∈ items config (Layout.ofConfig config))
    (hdeclares : item.declares? = some declaration) :
    declaration ∈ (ofConfig config provenance).declarations :=
  List.mem_append_right _ (List.mem_filterMap.mpr ⟨item, hitem, hdeclares⟩)

theorem registerPort_mem {register : RegisterLayout}
    (hmem : register ∈ (Layout.ofConfig config).registers) {port : Port}
    (hport : port ∈ registerPorts register) : port ∈ ports config (Layout.ofConfig config) :=
  List.mem_append_right _ (List.mem_flatMap.mpr ⟨register, hmem, hport⟩)

theorem storage_mem_items {register : RegisterLayout}
    (hmem : register ∈ (Layout.ofConfig config).registers) {item : Item}
    (hitem : item ∈ storage register) : item ∈ items config (Layout.ofConfig config) := by
  simp only [items, List.mem_append]
  exact Or.inl (Or.inl (Or.inl (Or.inl (Or.inl (Or.inr
    (mem_titled (List.mem_flatMap.mpr ⟨register, hmem, hitem⟩)))))))

theorem flag_mem_declarations {register : RegisterLayout}
    (hmem : register ∈ (Layout.ofConfig config).registers) {segment : Segment}
    (hsegment : segment ∈ register.segments) {flag : String}
    (hflag : segment.writtenFlag = some flag) :
    (flag, 1) ∈ (ofConfig config provenance).declarations := by
  have hitem : Item.reg 1 none flag ∈ storage register :=
    List.mem_cons_of_mem _ (List.mem_filterMap.mpr
      ⟨segment, hsegment, by rw [hflag, Option.map_some]⟩)
  exact item_mem_declarations (storage_mem_items hmem hitem) rfl

theorem addressConstant_mem_items {register : RegisterLayout}
    (hmem : register ∈ (Layout.ofConfig config).registers) :
    addressConstant config register ∈ items config (Layout.ofConfig config) := by
  simp only [items, List.mem_append]
  exact Or.inl (Or.inl (Or.inl (Or.inl (Or.inl (Or.inl (Or.inl
    (mem_titled (List.mem_map_of_mem hmem))))))))

theorem errorWires_mem_items {item : Item}
    (hitem : item ∈ errorWires config (Layout.ofConfig config)) :
    item ∈ items config (Layout.ofConfig config) := by
  simp only [items, List.mem_append]
  exact Or.inl (Or.inl (Or.inl (Or.inl (Or.inr (mem_titled hitem)))))

/-! ### The bus -/

/-- What the ports and the state of a bus interface declare. -/
def busDeclarations (config : Config) : List (String × Nat) :=
  config.interface.ports.map Port.declares ++
    config.interface.declarations.filterMap Item.declares?

theorem busDeclarations_subset :
    busDeclarations config ⊆ (ofConfig config provenance).declarations := by
  intro declaration hmem
  rcases List.mem_append.mp hmem with hdeclares | hitem
  · obtain ⟨port, hport, rfl⟩ := List.mem_map.mp hdeclares
    apply port_mem_declarations
    simp only [ports, List.mem_append]
    exact Or.inl (Or.inl (Or.inl (Or.inr hport)))
  · obtain ⟨item, hitem, hdeclares⟩ := List.mem_filterMap.mp hitem
    refine item_mem_declarations ?_ hdeclares
    simp only [items, List.mem_append]
    exact Or.inl (Or.inl (Or.inl (Or.inl (Or.inl (Or.inl (Or.inr (mem_titled hitem)))))))

/-- Names of the bus that no register can have are as wide as the bus declares them. -/
theorem widths_of_lookup {names : List String} {width : Nat}
    (hfixed : ∀ name ∈ names, family name = .fixed)
    (hlookup : ∀ name ∈ names, (busDeclarations config).lookup name = some width) :
    ∀ name ∈ names, (ofConfig config provenance).widths name = width := by
  intro name hname
  obtain ⟨before, after, hsplit, -⟩ := List.lookup_eq_some_iff.mp (hlookup name hname)
  have hmem : (name, width) ∈ busDeclarations config := by
    rw [hsplit]
    exact List.mem_append_right _ List.mem_cons_self
  exact widths_of_count (count_declared_le_one (hfixed name hname)) (busDeclarations_subset hmem)

/-- Only clock and reset are declared before the ports of the bus, so these are as wide as the bus
    declares them, whatever names the registers take up. -/
theorem widths_of_port {names : List String} {width : Nat}
    (hclocked : ∀ name ∈ names, name ∉ ["clk", "rst", "rst_n"])
    (hlookup : ∀ name ∈ names,
      (config.interface.ports.map Port.declares).lookup name = some width) :
    ∀ name ∈ names, (ofConfig config provenance).widths name = width := by
  intro name hname
  obtain ⟨hclk, hrst, hrstn⟩ : name ≠ "clk" ∧ name ≠ "rst" ∧ name ≠ "rst_n" := by
    simpa only [List.mem_cons, List.not_mem_nil, or_false, not_or] using hclocked name hname
  have hreset : name ≠ (Reset.ofSync config.syncReset).port := by
    cases config.syncReset
    · exact hrstn
    · exact hrst
  simp only [Module.widths, Module.declarations, ofConfig, ports, List.map_append, List.map_cons,
    List.append_assoc, List.cons_append, List.nil_append, List.lookup_cons,
    Port.declares, Port.input, beq_eq_false_iff_ne.mpr hclk, beq_eq_false_iff_ne.mpr hreset]
  rw [List.lookup_append, hlookup name hname]
  rfl

/-- The error wires are declared beside the bus. -/
theorem widths_error {name : String} (hname : name ∈ [Bus.writeError, Bus.readError]) :
    (ofConfig config provenance).widths name = 1 := by
  have hfixed : ∀ name ∈ [Bus.writeError, Bus.readError], family name = .fixed := by decide
  have hitem : ∃ item ∈ errorWires config (Layout.ofConfig config),
      item.declares? = some (name, 1) := by
    simp only [List.mem_cons, List.not_mem_nil, or_false] at hname
    rcases hname with rfl | rfl <;> simp [errorWires, Item.declares?]
  obtain ⟨item, hitem, hdeclares⟩ := hitem
  exact widths_of_count (count_declared_le_one (hfixed name hname))
    (item_mem_declarations (errorWires_mem_items hitem) hdeclares)

section Protocols

variable {widths : Widths}
  (hwidths : ∀ name width, (name, width) ∈ busDeclarations config → widths name = width)

include hwidths

theorem busSignals_apb (hprotocol : config.protocol = .apb) : BusSignals config widths := by
  have hbus : ∀ name width, (name, width) ∈
      [("paddr", config.addrWidth.toNat), ("psel", 1), ("penable", 1), ("pwrite", 1),
        ("pwdata", config.dataWidth.toNat), ("prdata", config.dataWidth.toNat), ("pready", 1)] →
      widths name = width := by
    intro name width hmem
    apply hwidths
    simp only [busDeclarations, Config.interface, hprotocol, Bus.Apb.interface, Bus.Apb.ports,
      List.map_append, List.mem_append]
    simp only [List.map_cons, List.map_nil, Port.declares, Port.input, Port.output,
      Port.outputReg, Option.getD_some, Option.getD_none, List.mem_cons, List.not_mem_nil,
      or_false] at hmem ⊢
    tauto
  have hstrobe : config.byteEnable = true → widths "pstrb" = config.byteLanes := by
    intro hbyte
    apply hwidths
    simp [busDeclarations, Config.interface, hprotocol, Bus.Apb.interface, Bus.Apb.ports, hbyte,
      Port.input, Port.declares]
  have hready : ∀ term ∈ Bus.Apb.readyTerms config, term.width widths = 1 := by
    intro term hterm
    simp only [Bus.Apb.readyTerms] at hterm
    split at hterm
    · rw [List.mem_singleton.mp hterm]
      exact hbus "pready" 1 (by simp)
    · cases hterm
  have henable (direction : Expr) (hdirection : direction.width widths = 1) :
      (Expr.ands (.signal "psel") ([.signal "penable", direction] ++
        Bus.Apb.readyTerms config)).width widths = 1 := by
    have hfirst : (Expr.signal "psel").width widths = 1 := hbus "psel" 1 (by simp)
    apply Expr.width_ands hfirst
    rw [List.forall_mem_append]
    exact ⟨by simpa using ⟨hbus "penable" 1 (by simp), hdirection⟩, hready⟩
  refine ⟨?_, ?_, ?_, ?_, ?_, ?_, ?_⟩ <;>
    simp only [Config.interface, hprotocol, Bus.Apb.interface, Bus.Apb.signals]
  · exact hbus _ _ (by simp)
  · exact hbus _ _ (by simp)
  · intro strobe hsome
    obtain ⟨hbyte, hname⟩ := Option.ite_none_right_eq_some.mp hsome
    cases hname
    exact hstrobe hbyte
  · exact henable _ (hbus "pwrite" 1 (by simp))
  · exact hbus _ _ (by simp)
  · exact hbus _ _ (by simp)
  · exact henable _ (hbus "pwrite" 1 (by simp))

theorem busSignals_axi4Lite (hprotocol : config.protocol = .axi4Lite) :
    BusSignals config widths := by
  have hbus : ∀ name width, (name, width) ∈
      [("s_axi_araddr", config.addrWidth.toNat), ("axi_awaddr_q", config.addrWidth.toNat),
        ("axi_wdata_q", config.dataWidth.toNat), ("axi_wstrb_q", config.byteLanes),
        ("axi_rd_data", config.dataWidth.toNat), ("axi_wr_fire", 1), ("axi_rd_fire", 1)] →
      widths name = width := by
    intro name width hmem
    apply hwidths
    simp only [busDeclarations, Config.interface, hprotocol, Bus.AxiLite.interface,
      Bus.AxiLite.ports, Bus.AxiLite.declarations, List.mem_append]
    simp only [List.map_cons, List.map_nil, List.filterMap_cons, List.filterMap_nil,
      Port.declares, Item.declares?, Port.input, Port.output, Port.outputReg, Option.getD_some,
      Option.getD_none, List.mem_cons, List.not_mem_nil, or_false] at hmem ⊢
    tauto
  refine ⟨?_, ?_, ?_, ?_, ?_, ?_, ?_⟩ <;>
    simp only [Config.interface, hprotocol, Bus.AxiLite.interface, Bus.AxiLite.signals]
  · exact hbus _ _ (by simp)
  · exact hbus _ _ (by simp)
  · intro strobe hsome
    obtain ⟨-, hname⟩ := Option.ite_none_right_eq_some.mp hsome
    cases hname
    exact hbus _ _ (by simp)
  · exact hbus "axi_wr_fire" 1 (by simp)
  · exact hbus _ _ (by simp)
  · exact hbus _ _ (by simp)
  · exact hbus "axi_rd_fire" 1 (by simp)

theorem busSignals_wishbone (hprotocol : config.protocol = .wishbone) :
    BusSignals config widths := by
  have hbus : ∀ name width, (name, width) ∈
      [("wb_adr_i", config.addrWidth.toNat), ("wb_dat_i", config.dataWidth.toNat),
        ("wb_sel_i", config.byteLanes), ("wb_we_i", 1), ("wb_access", 1),
        ("wb_rd_data", config.dataWidth.toNat)] →
      widths name = width := by
    intro name width hmem
    apply hwidths
    simp only [busDeclarations, Config.interface, hprotocol, Bus.Wishbone.interface,
      Bus.Wishbone.ports, Bus.Wishbone.declarations, List.mem_append]
    simp only [List.map_cons, List.map_nil, List.filterMap_cons, List.filterMap_nil,
      Port.declares, Item.declares?, Port.input, Port.outputReg, Option.getD_some,
      Option.getD_none, List.mem_cons, List.not_mem_nil, or_false] at hmem ⊢
    tauto
  have henable (direction : Expr) (hdirection : direction.width widths = 1) :
      (Expr.ands (.signal "wb_access") [direction]).width widths = 1 := by
    have hfirst : (Expr.signal "wb_access").width widths = 1 := hbus "wb_access" 1 (by simp)
    apply Expr.width_ands hfirst
    simpa using hdirection
  refine ⟨?_, ?_, ?_, ?_, ?_, ?_, ?_⟩ <;>
    simp only [Config.interface, hprotocol, Bus.Wishbone.interface, Bus.Wishbone.signals]
  · exact hbus _ _ (by simp)
  · exact hbus _ _ (by simp)
  · intro strobe hsome
    obtain ⟨-, hname⟩ := Option.ite_none_right_eq_some.mp hsome
    cases hname
    exact hbus _ _ (by simp)
  · exact henable _ (hbus "wb_we_i" 1 (by simp))
  · exact hbus _ _ (by simp)
  · exact hbus _ _ (by simp)
  · exact henable _ (hbus "wb_we_i" 1 (by simp))

theorem busSignals_ocp (hprotocol : config.protocol = .ocp) : BusSignals config widths := by
  have hbus : ∀ name width, (name, width) ∈
      [("MAddr", config.addrWidth.toNat), ("MData", config.dataWidth.toNat),
        ("MByteEn", config.byteLanes), ("ocp_rd_data", config.dataWidth.toNat)] →
      widths name = width := by
    intro name width hmem
    apply hwidths
    simp only [busDeclarations, Config.interface, hprotocol, Bus.Ocp.interface, Bus.Ocp.ports,
      Bus.Ocp.declarations, List.mem_append]
    simp only [List.map_cons, List.map_nil, List.filterMap_cons, List.filterMap_nil,
      Port.declares, Item.declares?, Port.input, Port.output, Port.outputReg, Option.getD_some,
      Option.getD_none, List.mem_cons, List.not_mem_nil, or_false] at hmem ⊢
    tauto
  refine ⟨?_, ?_, ?_, ?_, ?_, ?_, ?_⟩ <;>
    simp only [Config.interface, hprotocol, Bus.Ocp.interface, Bus.Ocp.signals]
  · exact hbus _ _ (by simp)
  · exact hbus _ _ (by simp)
  · intro strobe hsome
    obtain ⟨-, hname⟩ := Option.ite_none_right_eq_some.mp hsome
    cases hname
    exact hbus _ _ (by simp)
  · rfl
  · exact hbus _ _ (by simp)
  · exact hbus _ _ (by simp)
  · rfl

theorem busSignals_custom (hprotocol : config.protocol = .custom) :
    BusSignals config widths := by
  have hbus : ∀ name width, (name, width) ∈
      [("addr", config.addrWidth.toNat), ("wdata", config.dataWidth.toNat), ("wr_en", 1),
        ("rd_en", 1), ("byte_en", config.byteLanes), ("req", 1),
        ("rdata", config.dataWidth.toNat)] →
      widths name = width := by
    intro name width hmem
    apply hwidths
    simp only [busDeclarations, Config.interface, hprotocol, Bus.Custom.interface,
      Bus.Custom.ports, List.mem_append]
    simp only [List.map_cons, List.map_nil, Port.declares, Port.input, Port.outputReg,
      Option.getD_some, Option.getD_none, List.mem_cons, List.not_mem_nil, or_false] at hmem ⊢
    tauto
  have hack : widths "ack" = 1 := by
    apply hwidths
    cases hregistered : config.options.registeredRead <;>
      simp [busDeclarations, Config.interface, hprotocol, Bus.Custom.interface, Bus.Custom.ports,
        Bus.Custom.responsePort, hregistered, Port.declares, Port.output, Port.outputReg,
        Port.input]
  have hidle : ∀ term ∈ Bus.Custom.idleTerms config, term.width widths = 1 := by
    intro term hterm
    simp only [Bus.Custom.idleTerms] at hterm
    split at hterm
    · rw [List.mem_singleton.mp hterm]
      exact hack
    · cases hterm
  have hdata : config.options.registeredRead = true →
      widths "custom_rd_data" = config.dataWidth.toNat := by
    intro hregistered
    apply hwidths
    simp [busDeclarations, Config.interface, hprotocol, Bus.Custom.interface,
      Bus.Custom.declarations, hregistered, Item.declares?]
  refine ⟨?_, ?_, ?_, ?_, ?_, ?_, ?_⟩ <;>
    simp only [Config.interface, hprotocol, Bus.Custom.interface, Bus.Custom.signals]
  · exact hbus _ _ (by simp)
  · exact hbus _ _ (by simp)
  · intro strobe hsome
    obtain ⟨-, hname⟩ := Option.ite_none_right_eq_some.mp hsome
    cases hname
    exact hbus _ _ (by simp)
  · have hfirst : (Expr.signal "req").width widths = 1 := hbus "req" 1 (by simp)
    apply Expr.width_ands hfirst
    exact List.forall_mem_cons.mpr ⟨hbus "wr_en" 1 (by simp), hidle⟩
  · exact hbus _ _ (by simp)
  · split
    · next hregistered => exact hdata hregistered
    · exact hbus _ _ (by simp)
  · have hfirst : (Expr.signal "req").width widths = 1 := hbus "req" 1 (by simp)
    apply Expr.width_ands hfirst
    exact List.forall_mem_cons.mpr ⟨hbus "rd_en" 1 (by simp), hidle⟩

theorem busSignals_of_declarations : BusSignals config widths := by
  cases hprotocol : config.protocol with
  | apb => exact busSignals_apb hwidths hprotocol
  | axi4Lite => exact busSignals_axi4Lite hwidths hprotocol
  | wishbone => exact busSignals_wishbone hwidths hprotocol
  | ocp => exact busSignals_ocp hwidths hprotocol
  | custom => exact busSignals_custom hwidths hprotocol

end Protocols

/-- A module that declares every name once gives signals the widths of what they stand for. -/
theorem signals_of_nodup (hnodup : (ofConfig config provenance).declared.Nodup) :
    Signals config (ofConfig config provenance).widths where
  toBusSignals := busSignals_of_declarations fun name width hmem =>
    widths_of_mem hnodup (busDeclarations_subset hmem)
  storage := by
    intro register hmem
    exact widths_of_mem hnodup
      (item_mem_declarations (storage_mem_items hmem List.mem_cons_self) rfl)
  flag := by
    intro register hmem segment hsegment flag hflag
    exact widths_of_mem hnodup (flag_mem_declarations hmem hsegment hflag)
  pulse := by
    intro register hmem segment hsegment pulse hpulse
    exact widths_of_mem hnodup
      (port_mem_declarations (registerPort_mem hmem (pulse_mem_registerPorts hsegment hpulse)))
  address := by
    intro register hmem
    exact widths_of_mem hnodup
      (item_mem_declarations (addressConstant_mem_items hmem) rfl)
  hwData := by
    intro register hmem hw hhw hinput
    exact widths_of_mem hnodup
      (port_mem_declarations (registerPort_mem hmem (inputs_mem_registerPorts hhw hinput).1))
  hwEnable := by
    intro register hmem hw hhw hinput
    exact widths_of_mem hnodup
      (port_mem_declarations (registerPort_mem hmem (inputs_mem_registerPorts hhw hinput).2))
  errors := by
    intro name hname
    have hitem : ∃ item ∈ errorWires config (Layout.ofConfig config),
        item.declares? = some (name, 1) := by
      simp only [errorNames, List.mem_cons, List.not_mem_nil, or_false] at hname
      rcases hname with rfl | rfl | rfl | rfl | rfl <;>
        simp [errorWires, Item.declares?]
    obtain ⟨item, hitem, hdeclares⟩ := hitem
    exact widths_of_mem hnodup (item_mem_declarations (errorWires_mem_items hitem) hdeclares)

end RegisterFile.Hardware
