import Mathlib
import RegisterFile.Proofs.Hardware.NameForms
import RegisterFile.Proofs.Verilog.Declarations

/-!
The names that a generated module declares. Validation keeps names of one family apart, but not
written flags, and it does not compare hardware ports to those of the Wishbone bus.
-/

namespace RegisterFile

open Verilog

/-- The names of the written flags, register by register. -/
def Config.writtenFlags (config : Config) : List String :=
  (Layout.ofConfig config).registers.flatMap fun register =>
    register.segments.filterMap Segment.writtenFlag

namespace Hardware

/-! ### Further ports -/

/-- The signals of a further write port. -/
def writeSignals (config : Config) : List String :=
  ["en", "addr", "wdata"] ++ if config.byteEnable then ["strb"] else []

/-- The signals of a further read port. -/
def readSignals : List String :=
  ["en", "addr", "rdata"]

theorem names_writePortPorts (config : Config) (i : Nat) :
    (writePortPorts config i).map Port.name = (writeSignals config).map (numbered "wp" i) := by
  cases hbyte : config.byteEnable <;>
    simp only [writePortPorts, writeSignals, hbyte, if_true, Bool.false_eq_true, if_false,
      List.append_nil, List.map_append] <;> rfl

theorem names_readPortPorts (config : Config) (i : Nat) :
    (readPortPorts config i).map Port.name = readSignals.map (numbered "rp" i) :=
  rfl

theorem writeSignals_plain (config : Config) :
    ∀ signal ∈ writeSignals config, '_' ∉ signal.toList ∧
      suffixFamily signal.toList.reverse = none := by
  cases hbyte : config.byteEnable <;> simp only [writeSignals, hbyte] <;> decide

theorem nodup_writeSignals (config : Config) : (writeSignals config).Nodup := by
  cases hbyte : config.byteEnable <;> simp only [writeSignals, hbyte] <;> decide

theorem readSignals_plain :
    ∀ signal ∈ readSignals, '_' ∉ signal.toList ∧
      suffixFamily signal.toList.reverse = none := by
  decide

/-- The names of the ports behind the first, in both directions. -/
def furtherNames (config : Config) : List String :=
  ((extraPorts config.writePorts).flatMap fun i =>
      (writeSignals config).map (numbered "wp" i)) ++
    (extraPorts config.readPorts).flatMap fun i => readSignals.map (numbered "rp" i)

theorem nodup_extraPorts (count : UInt32) : (extraPorts count).Nodup :=
  List.nodup_range' _

theorem nodup_furtherNames (config : Config) : (furtherNames config).Nodup := by
  rw [furtherNames, List.nodup_append]
  refine ⟨?_, ?_, ?_⟩
  · exact nodup_numbered (nodup_extraPorts _) (nodup_writeSignals config)
      fun signal hsignal => (writeSignals_plain config signal hsignal).1
  · exact nodup_numbered (nodup_extraPorts _) (by decide)
      fun signal hsignal => (readSignals_plain signal hsignal).1
  · intro x hx y hy heq
    obtain ⟨i, -, hx⟩ := List.mem_flatMap.mp hx
    obtain ⟨signal, -, rfl⟩ := List.mem_map.mp hx
    obtain ⟨j, -, hy⟩ := List.mem_flatMap.mp hy
    obtain ⟨other, -, rfl⟩ := List.mem_map.mp hy
    have hhead := congrArg (fun name => name.toList.head?) heq
    simp [numbered] at hhead

theorem family_numbered {kind : String} {i : Nat} {signal : String}
    (hkind : kind = "wp" ∨ kind = "rp") (hplain : '_' ∉ signal.toList)
    (hnone : suffixFamily signal.toList.reverse = none) :
    family (numbered kind i signal) = .furtherPort := by
  have hlast : lastPart (numbered kind i signal) = signal.toList.reverse :=
    lastPart_append hplain _
  rw [family, hlast, hnone]
  rcases hkind with rfl | rfl <;> simp [numbered]

theorem family_furtherNames (config : Config) :
    ∀ name ∈ furtherNames config, family name = .furtherPort := by
  intro name hname
  rcases List.mem_append.mp hname with hname | hname
  · obtain ⟨i, -, hname⟩ := List.mem_flatMap.mp hname
    obtain ⟨signal, hsignal, rfl⟩ := List.mem_map.mp hname
    obtain ⟨hplain, hnone⟩ := writeSignals_plain config signal hsignal
    exact family_numbered (Or.inl rfl) hplain hnone
  · obtain ⟨i, -, hname⟩ := List.mem_flatMap.mp hname
    obtain ⟨signal, hsignal, rfl⟩ := List.mem_map.mp hname
    obtain ⟨hplain, hnone⟩ := readSignals_plain signal hsignal
    exact family_numbered (Or.inr rfl) hplain hnone

/-! ### Names of registers -/

theorem family_segment {config : Config} {register : Register} {segment : Segment}
    (hsegment : segment ∈ (Layout.ofRegister config register).segments) :
    (∀ flag, segment.writtenFlag = some flag → family flag = .flag) ∧
      ∀ pulse, segment.pulsePort = some pulse → family pulse = .hardwarePort := by
  obtain ⟨field, bits, type, access, locks, gates, stem, rfl, hstem⟩ :=
    Layout.exists_build hsegment
  have hform {kind : Family} (suffix : String) (hsuffix : '_' ∉ suffix.toList)
      (hkind : suffixFamily suffix.toList.reverse = some kind) :
      family (stem ++ ("_" ++ suffix)) = kind := by
    rcases hstem with rfl | ⟨name, rfl⟩
    · exact family_ident suffix hsuffix hkind
    · exact family_ident_ident suffix hsuffix hkind
  refine ⟨fun flag hflag => ?_, fun pulse hpulse => ?_⟩
  · simp only [Segment.build] at hflag
    split at hflag
    · cases hflag
      exact hform "written" (by decide) rfl
    · cases hflag
  · simp only [Segment.build] at hpulse
    split at hpulse
    · cases hpulse
      exact hform "pulse" (by decide) rfl
    · cases hpulse

theorem family_fieldPorts {hw : HwField} {name : String} (hstem : hw.stem = ident name) :
    ∀ port ∈ fieldPorts hw, family port.name = .hardwarePort := by
  intro port hport
  rcases List.mem_append.mp hport with hport | hport
  · split at hport
    · obtain rfl := List.mem_singleton.mp hport
      simp only [Port.output, hstem]
      exact family_ident "o" (by decide) rfl
    · cases hport
  · split at hport
    · rcases List.mem_cons.mp hport with rfl | hport
      · simp only [Port.input, hstem]
        exact family_ident "i" (by decide) rfl
      · obtain rfl := List.mem_singleton.mp hport
        simp only [Port.input, hstem]
        exact family_ident "we" (by decide) rfl
    · cases hport

theorem inputs_mem_registerPorts {register : RegisterLayout} {hw : HwField}
    (hhw : hw ∈ register.hwFields) (hinput : hw.input = true) :
    Port.input s!"{hw.stem}_i" (some hw.bits.width) ∈ registerPorts register ∧
      Port.input s!"{hw.stem}_we" ∈ registerPorts register := by
  have hports {port : Port} (hport : port ∈ fieldPorts hw) : port ∈ registerPorts register :=
    List.mem_append_left _ (List.mem_flatMap.mpr ⟨hw, hhw, hport⟩)
  exact ⟨hports (by simp [fieldPorts, hinput]), hports (by simp [fieldPorts, hinput])⟩

theorem pulse_mem_registerPorts {register : RegisterLayout} {segment : Segment}
    (hsegment : segment ∈ register.segments) {pulse : String}
    (hpulse : segment.pulsePort = some pulse) :
    Port.outputReg pulse (some segment.bits.width) ∈ registerPorts register :=
  List.mem_append_right _ (List.mem_filterMap.mpr
    ⟨segment, hsegment, by rw [pulsePort?, hpulse, Option.map_some]⟩)

theorem family_hardwarePorts (config : Config) :
    ∀ name ∈ config.hardwarePorts, family name = .hardwarePort := by
  intro name hname
  obtain ⟨port, hport, rfl⟩ := List.mem_map.mp hname
  obtain ⟨layout, hlayout, hport⟩ := List.mem_flatMap.mp hport
  obtain ⟨register, -, rfl⟩ := List.mem_map.mp hlayout
  rcases List.mem_append.mp hport with hport | hport
  · obtain ⟨hw, hhw, hport⟩ := List.mem_flatMap.mp hport
    obtain ⟨name, hstem⟩ := Layout.exists_stem hhw
    exact family_fieldPorts hstem port hport
  · obtain ⟨segment, hsegment, hport⟩ := List.mem_filterMap.mp hport
    obtain ⟨pulse, hpulse, rfl⟩ := Option.map_eq_some_iff.mp hport
    exact (family_segment hsegment).2 pulse hpulse

theorem family_writtenFlags (config : Config) :
    ∀ name ∈ config.writtenFlags, family name = .flag := by
  intro name hname
  obtain ⟨layout, hlayout, hname⟩ := List.mem_flatMap.mp hname
  obtain ⟨register, -, rfl⟩ := List.mem_map.mp hlayout
  obtain ⟨segment, hsegment, hflag⟩ := List.mem_filterMap.mp hname
  exact (family_segment hsegment).1 name hflag

/-- The names of the storage of all registers. -/
def storageNames (config : Config) : List String :=
  (Layout.ofConfig config).registers.map fun register => storageName register.ident

theorem family_storageNames (config : Config) :
    ∀ name ∈ storageNames config, family name = .storage := by
  intro name hname
  obtain ⟨layout, hlayout, rfl⟩ := List.mem_map.mp hname
  obtain ⟨register, -, rfl⟩ := List.mem_map.mp hlayout
  exact family_ident "reg" (by decide) rfl

theorem nodup_storageNames {config : Config} (hwf : config.WellFormed) :
    (storageNames config).Nodup := by
  have hidents := hwf.regular.identsDistinct
  rw [storageNames, ← Function.comp_def, ← List.map_map]
  refine hidents.map ?_
  intro first second heq
  have hlists := congrArg String.toList heq
  simp only [storageName, String.toList_append, List.append_cancel_right_eq] at hlists
  exact String.toList_inj.mp hlists

/-- The names of the constants of all addresses. -/
def addressNames (config : Config) : List String :=
  (Layout.ofConfig config).registers.map addressName

theorem family_addressNames (config : Config) :
    ∀ name ∈ addressNames config, family name = .address := by
  intro name hname
  obtain ⟨layout, -, rfl⟩ := List.mem_map.mp hname
  rw [family, if_pos]
  simp [addressName]

/-- Constants of two addresses differ because identifiers ignore the case of letters. -/
theorem nodup_addressNames {config : Config} (hwf : config.WellFormed) :
    (addressNames config).Nodup := by
  apply List.Nodup.of_map fun name => (name.toList.drop 5).map Char.toLower
  have hidents := hwf.regular.identsDistinct.map fun _ _ heq => String.toList_inj.mp heq
  have heq : (addressNames config).map (fun name => (name.toList.drop 5).map Char.toLower) =
      ((Layout.ofConfig config).registers.map RegisterLayout.ident).map String.toList := by
    rw [addressNames, List.map_map, List.map_map, Layout.ofConfig, List.map_map, List.map_map]
    refine List.map_congr_left fun register _ => ?_
    have hupper : register.name.toUpper.toList = register.name.toList.map Char.toUpper :=
      String.toList_map
    simp only [Function.comp_apply, addressName, Layout.ofRegister, String.toList_append,
      toList_ident, hupper]
    simp [Char.toLower_toUpper_eq_toLower, Function.comp_def]
  rw [heq]
  exact hidents

/-! ### Fixed names -/

/-- The names that items declare. -/
def namesOf (items : List Item) : List String :=
  (items.filterMap Item.declares?).map Prod.fst

@[simp] theorem namesOf_nil : namesOf [] = [] :=
  rfl

@[simp] theorem namesOf_append (first second : List Item) :
    namesOf (first ++ second) = namesOf first ++ namesOf second := by
  simp only [namesOf, List.filterMap_append, List.map_append]

/-- The names of the error wires. -/
def errorNames : List String :=
  [readDecodeError, writeDecodeError, writeLockError, Bus.writeError, Bus.readError]

/-- The names of the bus ports and of what the handshake keeps. -/
def busNames (config : Config) : List String :=
  config.interface.ports.map Port.name ++ namesOf config.interface.declarations

/-- The names that depend on no register: clock, reset, the bus and the error wires. -/
def fixedNames (config : Config) : List String :=
  ["clk", (Reset.ofSync config.syncReset).port] ++ busNames config ++ errorNames

/-- The names of a protocol under all of its options. -/
def protocolNames : Bus.Protocol → List String
  | .apb =>
    ["paddr", "psel", "penable", "pwrite", "pwdata", "pstrb", "prdata", "pready", "pslverr",
      "apb_wait_cnt"]
  | .axi4Lite =>
    ["s_axi_awaddr", "s_axi_awprot", "s_axi_awvalid", "s_axi_awready", "s_axi_wdata",
      "s_axi_wstrb", "s_axi_wvalid", "s_axi_wready", "s_axi_bresp", "s_axi_bvalid",
      "s_axi_bready", "s_axi_araddr", "s_axi_arprot", "s_axi_arvalid", "s_axi_arready",
      "s_axi_rdata", "s_axi_rresp", "s_axi_rvalid", "s_axi_rready", "axi_aw_seen",
      "axi_w_seen", "axi_awaddr_q", "axi_wdata_q", "axi_wstrb_q", "axi_rd_data",
      "axi_wr_fire", "axi_rd_fire"]
  | .wishbone =>
    ["wb_adr_i", "wb_dat_i", "wb_dat_o", "wb_we_i", "wb_sel_i", "wb_stb_i", "wb_cyc_i",
      "wb_ack_o", "wb_err_o", "wb_rd_data", "wb_access"]
  | .ocp =>
    ["MCmd", "MAddr", "MData", "MByteEn", "SCmdAccept", "SResp", "SData", "OCP_CMD_WR",
      "OCP_CMD_RD", "OCP_RESP_NULL", "OCP_RESP_DVA", "OCP_RESP_ERR", "ocp_rd_data"]
  | .custom =>
    ["addr", "wdata", "wr_en", "rd_en", "byte_en", "req", "rdata", "ack", "err",
      "custom_rd_data"]

theorem busNames_sublist (config : Config) :
    (busNames config).Sublist (protocolNames config.protocol) := by
  cases hprotocol : config.protocol with
  | apb =>
    simp only [busNames, Config.interface, hprotocol, Bus.Apb.interface, Bus.Apb.ports,
      Bus.Apb.declarations]
    by_cases hwait : 0 < Bus.Apb.waitStates config
    · rw [if_pos hwait]
      cases config.byteEnable <;> exact List.isSublist_iff_sublist.mp rfl
    · rw [if_neg hwait]
      cases config.byteEnable <;> exact List.isSublist_iff_sublist.mp rfl
  | axi4Lite =>
    simp only [busNames, Config.interface, hprotocol]
    exact List.isSublist_iff_sublist.mp rfl
  | wishbone =>
    simp only [busNames, Config.interface, hprotocol]
    exact List.isSublist_iff_sublist.mp rfl
  | ocp =>
    simp only [busNames, Config.interface, hprotocol]
    exact List.isSublist_iff_sublist.mp rfl
  | custom =>
    simp only [busNames, Config.interface, hprotocol, Bus.Custom.interface, Bus.Custom.ports,
      Bus.Custom.responsePort, Bus.Custom.declarations]
    cases config.options.registeredRead <;> exact List.isSublist_iff_sublist.mp rfl

/-- All fixed names that a module of a protocol can have. -/
def possibleNames (protocol : Bus.Protocol) : List String :=
  ["clk", "rst", "rst_n"] ++ protocolNames protocol ++ errorNames

theorem fixedNames_sublist (config : Config) :
    (fixedNames config).Sublist (possibleNames config.protocol) := by
  have hreset : (["clk", (Reset.ofSync config.syncReset).port] : List String).Sublist
      ["clk", "rst", "rst_n"] := by
    cases config.syncReset <;> decide
  exact (hreset.append (busNames_sublist config)).append (List.Sublist.refl _)

theorem nodup_possibleNames (protocol : Bus.Protocol) : (possibleNames protocol).Nodup := by
  cases protocol <;> decide

theorem family_possibleNames (protocol : Bus.Protocol) :
    ∀ name ∈ possibleNames protocol, family name = .fixed ∨
      protocol = .wishbone ∧ family name = .hardwarePort := by
  cases protocol <;> decide

/-- Of the fixed names only Wishbone ports have the form of a hardware port. -/
theorem family_fixedNames (config : Config) :
    ∀ name ∈ fixedNames config, family name = .fixed ∨
      config.protocol = .wishbone ∧ family name = .hardwarePort ∧
        name ∈ config.interface.ports.map Port.name := by
  intro name hname
  have hpossible := (fixedNames_sublist config).subset hname
  rcases family_possibleNames config.protocol name hpossible with hfixed | ⟨hwishbone, hfamily⟩
  · exact Or.inl hfixed
  · refine Or.inr ⟨hwishbone, hfamily, ?_⟩
    have hform : ∀ name ∈ possibleNames .wishbone, family name = .hardwarePort →
        name ∈ ["wb_adr_i", "wb_dat_i", "wb_dat_o", "wb_we_i", "wb_sel_i", "wb_stb_i",
          "wb_cyc_i", "wb_ack_o", "wb_err_o"] := by
      decide
    rw [hwishbone] at hpossible
    rw [Config.interface, hwishbone]
    exact hform name hpossible hfamily

/-! ### All names -/

@[simp] theorem namesOf_titled (title : String) (items : List Item) :
    namesOf (titled title items) = namesOf items := by
  cases items with
  | nil => rfl
  | cons item rest =>
    have htitled : namesOf (titled title (item :: rest)) =
        namesOf ((item :: rest) ++ [.blank]) := rfl
    rw [htitled, namesOf_append]
    exact List.append_nil _

theorem namesOf_eq_nil {items : List Item} (hnone : ∀ item ∈ items, item.declares? = none) :
    namesOf items = [] := by
  rw [namesOf, List.filterMap_eq_nil_iff.mpr hnone, List.map_nil]

theorem namesOf_flatMap_eq_nil {α : Type} {sources : List α} {items : α → List Item}
    (hnone : ∀ source ∈ sources, namesOf (items source) = []) :
    namesOf (sources.flatMap items) = [] := by
  induction sources with
  | nil => rfl
  | cons source rest ih =>
    obtain ⟨hhere, hrest⟩ := List.forall_mem_cons.mp hnone
    rw [List.flatMap_cons, namesOf_append, hhere, ih hrest, List.append_nil]

theorem namesOf_handshake (config : Config) : namesOf config.interface.handshake = [] := by
  cases hprotocol : config.protocol with
  | apb =>
    simp only [Config.interface, hprotocol, Bus.Apb.interface, Bus.Apb.handshake]
    split <;> rfl
  | axi4Lite =>
    simp only [Config.interface, hprotocol]
    rfl
  | wishbone =>
    simp only [Config.interface, hprotocol]
    rfl
  | ocp =>
    simp only [Config.interface, hprotocol]
    rfl
  | custom =>
    simp only [Config.interface, hprotocol, Bus.Custom.interface, Bus.Custom.handshake]
    split <;> rfl

theorem namesOf_readMuxSection (config : Config) (layout : Layout) (port : ReadPort) :
    namesOf (readMuxSection config layout port) = [] := by
  rw [readMuxSection, namesOf_titled]
  rfl

theorem namesOf_fieldOutputs (layout : Layout) : namesOf (fieldOutputs layout) = [] := by
  refine namesOf_flatMap_eq_nil fun register _ => namesOf_eq_nil fun item hitem => ?_
  obtain ⟨hw, -, houtput⟩ := List.mem_filterMap.mp hitem
  simp only [fieldOutput?] at houtput
  split at houtput
  · cases houtput
    rfl
  · cases houtput

theorem namesOf_updates (config : Config) (layout : Layout) :
    namesOf (updates config layout) = [] := by
  rw [updates]
  split <;> rfl

theorem namesOf_storage (register : RegisterLayout) :
    namesOf (storage register) =
      storageName register.ident :: register.segments.filterMap Segment.writtenFlag := by
  have hflags (segments : List Segment) :
      namesOf (segments.filterMap fun segment => segment.writtenFlag.map (Item.reg 1 none)) =
        segments.filterMap Segment.writtenFlag := by
    induction segments with
    | nil => rfl
    | cons segment rest ih =>
      cases hflag : segment.writtenFlag with
      | none => simpa [hflag] using ih
      | some flag => simpa [hflag, namesOf, Item.declares?] using ih
  rw [storage, ← List.singleton_append, namesOf_append, hflags]
  rfl

/-- The storage section declares storage and flags, register by register. -/
theorem namesOf_storage_perm (config : Config) :
    (namesOf ((Layout.ofConfig config).registers.flatMap storage)).Perm
      (storageNames config ++ config.writtenFlags) := by
  have hsplit (registers : List RegisterLayout) :
      namesOf (registers.flatMap storage) = registers.flatMap fun register =>
        [storageName register.ident] ++ register.segments.filterMap Segment.writtenFlag := by
    induction registers with
    | nil => rfl
    | cons register rest ih =>
      rw [List.flatMap_cons, namesOf_append, namesOf_storage, ih]
      rfl
  rw [hsplit, storageNames, Config.writtenFlags, List.map_eq_flatMap]
  exact (List.flatMap_append_perm _ _ _).symm

theorem names_ports (config : Config) :
    (ports config (Layout.ofConfig config)).map Port.name =
      ["clk", (Reset.ofSync config.syncReset).port] ++ config.interface.ports.map Port.name ++
        furtherNames config ++ config.hardwarePorts := by
  have hwrite : ((extraPorts config.writePorts).flatMap (writePortPorts config)).map Port.name =
      (extraPorts config.writePorts).flatMap fun i =>
        (writeSignals config).map (numbered "wp" i) := by
    rw [List.map_flatMap]
    simp only [names_writePortPorts]
  have hread : ((extraPorts config.readPorts).flatMap (readPortPorts config)).map Port.name =
      (extraPorts config.readPorts).flatMap fun i => readSignals.map (numbered "rp" i) := by
    rw [List.map_flatMap]
    simp only [names_readPortPorts]
  rw [ports, List.map_append, List.map_append, List.map_append, List.map_append, hwrite, hread,
    furtherNames, Config.hardwarePorts]
  simp only [List.append_assoc]
  rfl

theorem namesOf_items (config : Config) :
    (namesOf (items config (Layout.ofConfig config))).Perm
      (addressNames config ++ namesOf config.interface.declarations ++
        (storageNames config ++ config.writtenFlags) ++ errorNames) := by
  have haddresses : namesOf ((Layout.ofConfig config).registers.map (addressConstant config)) =
      addressNames config := by
    rw [namesOf, addressNames, List.filterMap_map, List.map_filterMap]
    simp [addressConstant, Item.declares?, List.filterMap_eq_map']
  have hmuxes (readPorts : List ReadPort) : namesOf (readPorts.flatMap
      (readMuxSection config (Layout.ofConfig config))) = [] :=
    namesOf_flatMap_eq_nil fun port _ => namesOf_readMuxSection config _ port
  have herrors : namesOf (errorWires config (Layout.ofConfig config)) = errorNames := rfl
  simp only [items, namesOf_append, namesOf_titled, haddresses, herrors, namesOf_updates, hmuxes,
    namesOf_handshake, namesOf_fieldOutputs, List.append_nil]
  exact (List.Perm.append_left _ (namesOf_storage_perm config)).append_right _

/-- A module declares the fixed names and those of each family. -/
theorem declared_perm (config : Config) (provenance : Provenance) :
    (ofConfig config provenance).declared.Perm
      (fixedNames config ++ config.hardwarePorts ++ furtherNames config ++ addressNames config ++
        storageNames config ++ config.writtenFlags) := by
  have hdeclared : (ofConfig config provenance).declared =
      (ports config (Layout.ofConfig config)).map Port.name ++
        namesOf (items config (Layout.ofConfig config)) := by
    simp only [Module.declared, Module.declarations, List.map_append, List.map_map]
    rfl
  rw [hdeclared, names_ports]
  refine (List.Perm.append_left _ (namesOf_items config)).trans ?_
  -- The parts come in another order in the module, so names are counted.
  rw [List.perm_iff_count]
  intro name
  simp only [fixedNames, busNames, List.count_append]
  omega

/-- The fixed names and a family of names other than hardware ports have none in common. -/
theorem fixedNames_apart {config : Config} {kind : Family} (hne : kind ≠ .fixed)
    (hother : kind ≠ .hardwarePort) {names : List String}
    (hnames : ∀ name ∈ names, family name = kind) :
    ∀ x ∈ fixedNames config, ∀ y ∈ names, x ≠ y := by
  rintro x hx _ hy rfl
  rcases family_fixedNames config x hx with hkind | ⟨-, hkind, -⟩
  · exact hne ((hnames x hy).symm.trans hkind)
  · exact hother ((hnames x hy).symm.trans hkind)

/-- A fixed name that looks like a hardware port is that of a Wishbone port. -/
theorem fixedNames_apart_hardwarePorts_iff {config : Config} :
    (∀ x ∈ fixedNames config, ∀ y ∈ config.hardwarePorts, x ≠ y) ↔
      (config.protocol = .wishbone →
        ∀ port ∈ config.interface.ports, port.name ∉ config.hardwarePorts) := by
  constructor
  · intro happart _ port hport hclash
    refine happart port.name ?_ port.name hclash rfl
    have hmem : port.name ∈ config.interface.ports.map Port.name := List.mem_map_of_mem hport
    simp only [fixedNames, busNames, List.mem_append]
    exact Or.inl (Or.inr (Or.inl hmem))
  · rintro hwishbone x hx _ hy rfl
    have hkind := family_hardwarePorts config x hy
    rcases family_fixedNames config x hx with hfixed | ⟨hprotocol, -, hbus⟩
    · rw [hkind] at hfixed
      cases hfixed
    · obtain ⟨port, hport, rfl⟩ := List.mem_map.mp hbus
      exact hwishbone hprotocol port hport hy

/-- The names of a module but for the flags of its segments. -/
def unflaggedNames (config : Config) : List String :=
  fixedNames config ++ config.hardwarePorts ++ furtherNames config ++ addressNames config ++
    storageNames config

theorem family_unflaggedNames (config : Config) :
    ∀ name ∈ unflaggedNames config, family name ≠ .flag := by
  have hne {kind : Family} {names : List String} (hnames : ∀ name ∈ names, family name = kind)
      (hkind : kind ≠ .flag) : ∀ name ∈ names, family name ≠ .flag :=
    fun name hname hflag => hkind ((hnames name hname).symm.trans hflag)
  have hfixed : ∀ name ∈ fixedNames config, family name ≠ .flag := by
    intro name hname hflag
    rcases family_fixedNames config name hname with hkind | ⟨-, hkind, -⟩ <;>
      cases hkind.symm.trans hflag
  simp only [unflaggedNames, List.forall_mem_append]
  exact ⟨⟨⟨⟨hfixed, hne (family_hardwarePorts config) (by decide)⟩,
    hne (family_furtherNames config) (by decide)⟩, hne (family_addressNames config) (by decide)⟩,
    hne (family_storageNames config) (by decide)⟩

/-- Apart from flags, names are distinct unless a hardware port takes the name of a Wishbone
    port. -/
theorem nodup_unflaggedNames_iff {config : Config} (hwf : config.WellFormed) :
    (unflaggedNames config).Nodup ↔
      (config.protocol = .wishbone →
        ∀ port ∈ config.interface.ports, port.name ∉ config.hardwarePorts) := by
  have hfixed := (nodup_possibleNames config.protocol).sublist (fixedNames_sublist config)
  have hhardware := family_hardwarePorts config
  have hfurther := family_furtherNames config
  have haddress := family_addressNames config
  have hstorage := family_storageNames config
  rw [unflaggedNames, ← fixedNames_apart_hardwarePorts_iff]
  simp only [List.nodup_append, List.mem_append, or_imp, forall_and]
  constructor
  · rintro ⟨⟨⟨⟨-, -, hclash⟩, -⟩, -⟩, -⟩
    exact hclash
  · intro hclash
    refine ⟨⟨⟨⟨hfixed, hwf.portsDistinct, hclash⟩, nodup_furtherNames config, ?_, ?_⟩,
      nodup_addressNames hwf, ?_, ?_⟩, nodup_storageNames hwf, ?_, ?_⟩
    · exact fixedNames_apart (by decide) (by decide) hfurther
    · exact disjoint_of_family hhardware hfurther (by decide)
    · exact ⟨fixedNames_apart (by decide) (by decide) haddress,
        disjoint_of_family hhardware haddress (by decide)⟩
    · exact disjoint_of_family hfurther haddress (by decide)
    · exact ⟨⟨fixedNames_apart (by decide) (by decide) hstorage,
        disjoint_of_family hhardware hstorage (by decide)⟩,
        disjoint_of_family hfurther hstorage (by decide)⟩
    · exact disjoint_of_family haddress hstorage (by decide)

/-- The names of a module are distinct exactly if its flags are and no hardware port takes the name
    of a Wishbone port. -/
theorem declared_nodup_iff_of_wellFormed {config : Config} (hwf : config.WellFormed)
    (provenance : Provenance) :
    (ofConfig config provenance).declared.Nodup ↔
      config.writtenFlags.Nodup ∧
        (config.protocol = .wishbone →
          ∀ port ∈ config.interface.ports, port.name ∉ config.hardwarePorts) := by
  have happart : ∀ x ∈ unflaggedNames config, ∀ y ∈ config.writtenFlags, x ≠ y := by
    rintro x hx _ hy rfl
    exact family_unflaggedNames config x hx (family_writtenFlags config x hy)
  rw [(declared_perm config provenance).nodup_iff, ← nodup_unflaggedNames_iff hwf]
  exact List.nodup_append.trans
    ⟨fun ⟨hunflagged, hflags, _⟩ => ⟨hflags, hunflagged⟩,
      fun ⟨hflags, hunflagged⟩ => ⟨hunflagged, hflags, happart⟩⟩

/-- A register file whose write-once field `B` of `A` and write-once register `A_B` get the same
    flag. -/
def clashing : Config where
  moduleName := "regs"
  registers := [
    { name := "A", address := some 0
      fields := [{ name := "B", bits := BitRange.bit 0, type := some .writeOnce }] },
    { name := "A_B", address := some 4, type := .writeOnce }]

theorem ident_eq_of_toList {name lower : String}
    (heq : name.toList.map Char.toLower = lower.toList) : ident name = lower :=
  String.toList_inj.mp ((toList_ident name).trans heq)

theorem isValid_validate_clashing : (validate clashing).isValid = true := by
  have hfirst : ident "A" = "a" := ident_eq_of_toList (by decide)
  have hsecond : ident "A_B" = "a_b" := ident_eq_of_toList (by decide)
  have hnames : (Validate.names [] clashing.registers).isValid = true := by
    simp only [clashing, Validate.names, Validate.fieldNames, hfirst, hsecond]
    decide
  exact Validate.isValid_validate_iff_passes.mpr
    ⟨by decide, hnames, by decide, by decide, by decide, by decide, by decide, by decide,
      by decide⟩

/-- A valid register file of which a flag is declared twice. -/
theorem not_nodup_declared_clashing :
    (validate clashing).isValid = true ∧
      ¬ (ofConfig clashing ⟨"regforge", "unspecified", ""⟩).declared.Nodup := by
  have hflags : clashing.writtenFlags = ["a_b_written", "a_b_written"] := by
    have hfirst : ident "A" = "a" := ident_eq_of_toList (by decide)
    have hfield : ident "B" = "b" := ident_eq_of_toList (by decide)
    have hsecond : ident "A_B" = "a_b" := ident_eq_of_toList (by decide)
    have hstems : clashing.writtenFlags =
        [ident "A" ++ "_" ++ ident "B" ++ "_written", ident "A_B" ++ "_written"] := rfl
    rw [hstems, hfirst, hfield, hsecond]
    decide
  refine ⟨isValid_validate_clashing, fun hnodup => ?_⟩
  have hall := (declared_perm clashing _).nodup_iff.mp hnodup
  have hpart := hall.sublist (List.sublist_append_right _ _)
  rw [hflags] at hpart
  exact absurd hpart (by decide)

end Hardware

/-- A valid register file declares every name of its module once exactly if its flags are distinct
    and no hardware port has the name of a Wishbone port. -/
theorem declared_nodup_iff (config : Config) (provenance : Provenance)
    (hvalid : (validate config).isValid = true) :
    (Hardware.ofConfig config provenance).declared.Nodup ↔
      config.writtenFlags.Nodup ∧
        (config.protocol = .wishbone →
          ∀ port ∈ config.interface.ports, port.name ∉ config.hardwarePorts) :=
  Hardware.declared_nodup_iff_of_wellFormed (Validate.wellFormed_of_isValid hvalid) provenance

theorem declared_nodup_iff_single :
    (validate Config.single).isValid = true ∧
      ((Hardware.ofConfig Config.single ⟨"regforge", "unspecified", ""⟩).declared.Nodup ↔
        Config.single.writtenFlags.Nodup ∧
          (Config.single.protocol = .wishbone → ∀ port ∈ Config.single.interface.ports,
            port.name ∉ Config.single.hardwarePorts)) :=
  ⟨by decide, declared_nodup_iff Config.single _ (by decide)⟩

end RegisterFile
