import RegisterFile.Config.Reader
import RegisterFile.Config.Writer
import RegisterFile.Proofs.Config.Texts
import RegisterFile.Proofs.Json.Record
import RegisterFile.Proofs.Validate.Accepts

/-!
Register files survive their canonical text. All that the text could lose are lock references
whose names have brackets or points in them, and a valid register file has no such lock: what a
lock refers to is there, and is called by an identifier.
-/

namespace RegisterFile

open Json

/-! ### Parts of records -/

theorem word128?_toNode (value : Word) :
    (natural value.toNat).toNode.word128? = some value := by
  have hnatural : (natural value.toNat).toNode.natural? Word.limit = some value.toNat :=
    natural?_toNode_natural value.isLt
  rw [Node.word128?, hnatural, Option.map_some, BitVec.ofNat_toNat, BitVec.setWidth_eq]

theorem spelled?_toNode {α : Type} {ofText? : String → Option α} {text : α → String} {value : α}
    (hread : ofText? (text value) = some value) :
    spelled? ofText? (string (text value)).toNode = some value :=
  hread

theorem nullable_orNullText {α : Type} {ofText? : String → Option α} {text : α → String}
    (hread : ∀ value, ofText? (text value) = some value) (value : Option α) :
    nullable (spelled? ofText?) (some (orNullText text value).toNode) = some value := by
  have hnull : orNullText text value =
      (value.map fun value => string (text value)).getD .null := by
    cases value <;> rfl
  rw [hnull]
  exact nullable_toNode (fun _ => rfl) fun value _ => hread value

theorem ofNode?_toNode_bits (bits : BitRange) :
    BitRange.ofNode? (string bits.text).toNode = some bits := by
  show (BitRange.ofText bits.text).toOption = some bits
  rw [BitRange.ofText_text]
  rfl

theorem listOf_locks {locks : List Lock} (hlocks : ∀ lock ∈ locks, lock.IsPlain) :
    listOf (spelled? Lock.ofText?) (locksToJson locks).toNode = some locks :=
  listOf_toNode fun lock hlock => Lock.ofText?_text (hlocks lock hlock)

theorem MagicDependency.ofNode?_toJson (magic : MagicDependency) :
    ofNode? magic.toJson.toNode = some magic := by
  rw [ofNode?, toJson, fields?_object]
  · simp [word128?_toNode]
  · rfl
  · decide

theorem nullable_magic (magic : Option MagicDependency) :
    nullable MagicDependency.ofNode? (some (optionalMagic magic).toNode) = some magic := by
  have hnull : optionalMagic magic = (magic.map MagicDependency.toJson).getD .null := by
    cases magic <;> rfl
  rw [hnull]
  exact nullable_toNode (fun _ => rfl) fun magic _ => magic.ofNode?_toJson

/-- An optional number is null or written like one that is there. -/
theorem nullable_natural {α : Type} {read : Node → Option α} {toNat : α → Nat}
    (hread : ∀ value, read (natural (toNat value)).toNode = some value) (value : Option α) :
    nullable read (some ((value.map fun value => natural (toNat value)).getD .null).toNode) =
      some value :=
  nullable_toNode (fun _ => rfl) fun value _ => hread value

/-! ### Records -/

theorem Field.ofNode?_toJson {field : Field} (hlocks : ∀ lock ∈ field.lockedBy, lock.IsPlain) :
    ofNode? field.toJson.toNode = some field := by
  have htype := nullable_orNullText RegisterType.ofText?_name field.type
  have hreset := nullable_natural word128?_toNode field.resetValue
  have hsoftware := nullable_orNullText AccessHint.ofText?_name field.swAccess
  have hhardware := nullable_orNullText AccessHint.ofText?_name field.hwAccess
  rw [ofNode?, toJson, fields?_object]
  · simp [ofNode?_toNode_bits, htype, hreset, hsoftware, hhardware, listOf_locks hlocks,
      nullable_magic]
  · rfl
  · decide

theorem Register.ofNode?_toJson {register : Register}
    (hlocks : ∀ lock ∈ register.allLocks, lock.IsPlain) :
    ofNode? register.toJson.toNode = some register := by
  have haddress := nullable_natural word64?_toNode_natural register.address
  have htype := spelled?_toNode (RegisterType.ofText?_name register.type)
  have hwidth := nullable_natural word32?_toNode_natural register.width
  have hfields : listOf Field.ofNode? (array (register.fields.map Field.toJson)).toNode =
      some register.fields := by
    refine listOf_toNode fun field hfield => Field.ofNode?_toJson fun lock hlock => ?_
    exact hlocks lock
      (List.mem_append_right _ (List.mem_flatMap.mpr ⟨field, hfield, hlock⟩))
  have hsoftware := nullable_orNullText AccessHint.ofText?_name register.swAccess
  have hhardware := nullable_orNullText AccessHint.ofText?_name register.hwAccess
  have hown := listOf_locks fun lock hlock => hlocks lock (List.mem_append_left _ hlock)
  rw [ofNode?, toJson, fields?_object]
  · simp [haddress, htype, word128?_toNode, hwidth, hfields, hsoftware, hhardware, hown,
      nullable_magic]
  · rfl
  · decide

theorem Bus.onlyField?_object {α : Type} {name : String} {default value : α}
    {read : Node → Option α} {json : Json} (hread : read json.toNode = some value) :
    onlyField? name default read (object [(name, json)]).toNode = some value := by
  rw [onlyField?, fields?_object]
  · simp [hread]
  · rfl
  · exact List.nodup_singleton _

theorem Bus.Options.ofNode?_toJson (options : Options) :
    ofNode? .json options.toJson.toNode = some options := by
  have hresponse : choice? ErrorResponse.ofName? .json (string options.errorResponse.name).toNode =
      some options.errorResponse := options.errorResponse.ofName?_name
  have hgranularity : choice? Granularity.ofName? .json (string options.granularity.name).toNode =
      some options.granularity := options.granularity.ofName?_name
  rw [ofNode?, toJson, fields?_object]
  · simp [hresponse, onlyField?_object (word32?_toNode_natural options.waitStates),
      onlyField?_object (bool?_toNode_bool options.registeredRead),
      onlyField?_object hgranularity]
  · rfl
  · decide

/-- The tree of a register file is read as the register file, if its locks are plain. -/
theorem Config.ofNode?_toJson {config : Config}
    (hlocks : ∀ register ∈ config.registers, ∀ lock ∈ register.allLocks, lock.IsPlain) :
    ofNode? config.toJson.toNode = some config := by
  have hprotocol := spelled?_toNode (Bus.Protocol.ofText?_name config.protocol)
  have hregisters : listOf Register.ofNode?
      (array (config.registers.map Register.toJson)).toNode = some config.registers :=
    listOf_toNode fun register hmem => Register.ofNode?_toJson (hlocks register hmem)
  rw [ofNode?, toJson, fields?_object]
  · simp [hprotocol, hregisters, config.options.ofNode?_toJson]
  · rfl
  · decide

/-! ### Numbers -/

theorem moderate_natural {n : Nat} (hn : n < Word.limit) : (natural n).Moderate :=
  .natural (isDouble_of_lt_limit hn)

theorem moderate_word (value : Word) : (natural value.toNat).Moderate :=
  moderate_natural value.isLt

theorem moderate_word32 (n : UInt32) : (natural n.toNat).Moderate :=
  moderate_natural (Nat.lt_trans n.toNat_lt_size (by decide))

theorem moderate_word64 (n : UInt64) : (natural n.toNat).Moderate :=
  moderate_natural (Nat.lt_trans n.toNat_lt_size (by decide))

theorem moderate_optional {α : Type} {write : α → Json} (hwrite : ∀ value, (write value).Moderate)
    (value : Option α) : ((value.map write).getD .null).Moderate := by
  cases value with
  | none => exact .null
  | some value => exact hwrite value

theorem moderate_optionalString (text : Option String) : (optionalString text).Moderate := by
  cases text with
  | none => exact .null
  | some text => exact .string text

theorem moderate_array {α : Type} {write : α → Json} (hwrite : ∀ item, (write item).Moderate)
    (items : List α) : (array (items.map write)).Moderate := by
  refine .array fun item hitem => ?_
  obtain ⟨item, -, rfl⟩ := List.mem_map.mp hitem
  exact hwrite item

theorem moderate_locks (locks : List Lock) : (locksToJson locks).Moderate := by
  show (array (locks.map fun lock => string lock.text)).Moderate
  exact moderate_array (fun _ => .string _) locks

theorem moderate_magic (magic : Option MagicDependency) : (optionalMagic magic).Moderate := by
  cases magic with
  | none => exact .null
  | some magic =>
    refine .object ?_
    simp only [List.forall_mem_cons]
    exact ⟨.string magic.source, moderate_word magic.value, by simp⟩

theorem Field.moderate_toJson (field : Field) : field.toJson.Moderate := by
  refine .object ?_
  simp only [List.forall_mem_cons]
  exact ⟨.string _, .string _, moderate_optionalString _, moderate_optional moderate_word _,
    .string _, .string _, moderate_optionalString _, moderate_optionalString _,
    moderate_locks _, moderate_magic _, by simp⟩

theorem Register.moderate_toJson (register : Register) : register.toJson.Moderate := by
  refine .object ?_
  simp only [List.forall_mem_cons]
  exact ⟨.string _, moderate_optional moderate_word64 _, .string _, moderate_word _,
    moderate_optional moderate_word32 _, .string _, moderate_array Field.moderate_toJson _,
    moderate_optionalString _, moderate_optionalString _, moderate_locks _, moderate_magic _,
    by simp⟩

theorem Bus.Options.moderate_toJson (options : Options) : options.toJson.Moderate := by
  have hsingle : ∀ name {json : Json}, json.Moderate → (object [(name, json)]).Moderate :=
    fun name json hjson => .object (by simpa using hjson)
  refine .object ?_
  simp only [List.forall_mem_cons]
  exact ⟨.string _, .bool _, hsingle _ (moderate_word32 _), hsingle _ (.bool _),
    hsingle _ (.string _), by simp⟩

theorem Config.moderate_toJson (config : Config) : config.toJson.Moderate := by
  refine .object ?_
  simp only [List.forall_mem_cons]
  exact ⟨.string _, moderate_word32 _, moderate_word32 _, .string _, .bool _, .bool _,
    moderate_word32 _, moderate_word32 _, moderate_word64 _,
    moderate_array Register.moderate_toJson _, config.options.moderate_toJson, by simp⟩

/-! ### Register files -/

/-- A lock that picks lock bits refers to a register and a field that are there. -/
theorem Lock.isPlain_of_resolves {config : Config} (hwf : config.WellFormed) {lock : Lock}
    (hlock : lock.Resolves config) : lock.IsPlain := by
  obtain ⟨locker, hfind, hpicks⟩ := hlock
  have hmem : locker ∈ config.registers := List.mem_of_find?_eq_some hfind
  have hname : locker.name = lock.register := by
    simpa using List.find?_some hfind
  constructor
  · exact hname ▸ hwf.registerName locker hmem
  · intro name hselector
    rw [hselector] at hpicks
    obtain ⟨field, hfield, -⟩ := hpicks
    have hfieldName : field.name = name := by simpa using List.find?_some hfield
    exact hfieldName ▸ hwf.fieldName locker hmem field (List.mem_of_find?_eq_some hfield)

theorem Config.ofJson?_of_wellFormed {config : Config} (hwf : config.WellFormed) :
    Config.ofJson? config.canonical = some config := by
  have hlocks : ∀ register ∈ config.registers, ∀ lock ∈ register.allLocks, lock.IsPlain :=
    fun register hmem lock hlock =>
      Lock.isPlain_of_resolves hwf (hwf.locks register hmem lock hlock)
  rw [ofJson?, canonical, read?_compact config.moderate_toJson]
  exact Config.ofNode?_toJson hlocks

/-- The canonical text of a valid register file is read as the register file, and no other valid
    one has the same text. -/
theorem canonical_lossless {config : Config} (hvalid : (validate config).isValid = true) :
    Config.ofJson? config.canonical = some config ∧
      ∀ other, (validate other).isValid = true → other.canonical = config.canonical →
        other = config := by
  have hread := Config.ofJson?_of_wellFormed ((isValid_validate_iff config).mp hvalid)
  refine ⟨hread, fun other hother heq => ?_⟩
  have hread' := Config.ofJson?_of_wellFormed ((isValid_validate_iff other).mp hother)
  rw [heq, hread] at hread'
  exact (Option.some.inj hread').symm

/-- A register file in whose canonical text a lock omits its index and a description needs
    escapes. -/
def Config.escaped : Config where
  moduleName := "regs"
  dataWidth := 128
  protocol := .custom
  registers := [
    { name := "LOCK", address := some 0, type := .lockField },
    { name := "KEY", address := some 16, resetValue := BitVec.ofNat 128 (2 ^ 128 - 1)
      description := "a \"key\"\x07 for µC"
      fields := [{ name := "TAG", bits := ⟨9, 2, by decide, by decide⟩, resetValue := some 5 }]
      lockedBy := [⟨"LOCK", .bit 0⟩, ⟨"LOCK", .bit 3⟩]
      magic := some ⟨"LOCK", 1⟩ }]

theorem canonical_lossless_escaped :
    (validate Config.escaped).isValid = true ∧
      Config.ofJson? Config.escaped.canonical = some Config.escaped ∧
        ∀ other, (validate other).isValid = true →
          other.canonical = Config.escaped.canonical → other = Config.escaped :=
  have hvalid : (validate Config.escaped).isValid = true := by decide +kernel
  ⟨hvalid, canonical_lossless hvalid⟩

end RegisterFile
