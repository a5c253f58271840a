import RegisterFile.Document.Writer
import RegisterFile.Proofs.Config.RoundTrip
import RegisterFile.Proofs.Document.Parameters

/-!
Documents survive being written. Each form of a literal, a bit range or a list of locks is written
so that it is read as the same form, aliases become the first name of their field, and what was
left out is null or has its default. Entries of the field list are read from values that were set
aside, which keeps strings and numbers apart. Only parameters out of order would not come back, and
reading puts them in order.
-/

namespace RegisterFile

open Json Document

namespace Document

/-! ### Parts of records -/

/-- The values of a record are read one behind the other. -/
theorem bind_eq_some {α β : Type} {value : Option α} {rest : α → Option β} {a : α} {b : β}
    (hvalue : value = some a) (hrest : rest a = some b) : (value >>= rest) = some b := by
  rw [hvalue, Option.bind_eq_bind, Option.bind_some, hrest]

theorem orNull_eq {α : Type} (write : α → Json) (value : Option α) :
    orNull write value = (value.map write).getD .null := by
  cases value <;> rfl

theorem nullable_orNull {α : Type} {read : Node → Option α} {write : α → Json}
    (hpresent : ∀ x, (write x).toNode.presence = .present)
    (hread : ∀ x, read (write x).toNode = some x) (value : Option α) :
    nullable read (some (orNull write value).toNode) = some value := by
  rw [orNull_eq]
  exact nullable_toNode hpresent fun x _ => hread x

theorem nullable_text (text : Option String) :
    nullable Node.text? (some (orNull .string text).toNode) = some text :=
  nullable_orNull (fun _ => rfl) text?_toNode_string text

theorem Literal.ofNode?_toJson (literal : Literal) :
    Literal.ofNode? literal.toJson.toNode = some literal := by
  cases literal with
  | number n =>
    have hn : n.toNat < UInt64.size := n.toNat_lt_size
    show (if n.toNat < UInt64.size then some (number (UInt64.ofNat n.toNat)) else none) = _
    rw [if_pos hn, UInt64.ofNat_toNat]
  | text content => rfl

theorem nullable_literal (literal : Option Literal) :
    nullable Literal.ofNode? (some (orNull Literal.toJson literal).toNode) = some literal :=
  nullable_orNull (fun literal => by cases literal <;> rfl) Literal.ofNode?_toJson literal

theorem BitsEntry.ofNode?_toJson (bits : BitsEntry) :
    BitsEntry.ofNode? bits.toJson.toNode = some bits := by
  cases bits with
  | bit n =>
    have hn : n.toNat < UInt64.size := n.toNat_lt_size
    show (if n.toNat < UInt64.size then some (bit (UInt64.ofNat n.toNat)) else none) = _
    rw [if_pos hn, UInt64.ofNat_toNat]
  | pair high low =>
    show ((Literal.ofNode? high.toJson.toNode).bind fun high =>
      (Literal.ofNode? low.toJson.toNode).bind fun low => some (pair high low)) = _
    rw [high.ofNode?_toJson, low.ofNode?_toJson]
    rfl
  | text content => rfl

theorem nullable_locks (locks : Option LocksEntry) :
    nullable LocksEntry.ofNode? (some (orNull LocksEntry.toJson locks).toNode) = some locks := by
  refine nullable_orNull (fun locks => by cases locks <;> rfl) (fun locks => ?_) locks
  cases locks with
  | one reference => rfl
  | many references =>
    have hitems : (toNodes (references.map Json.string)).mapM Node.plainText? =
        some references := mapM_toNodes fun _ _ => rfl
    show ((toNodes (references.map Json.string)).mapM Node.plainText?).map LocksEntry.many = _
    rw [hitems]
    rfl

theorem nullable_magic (magic : Option MagicEntry) :
    nullable MagicEntry.ofNode? (some (orNull MagicEntry.toJson magic).toNode) = some magic := by
  refine nullable_orNull (fun _ => rfl) (fun entry => ?_) magic
  rw [MagicEntry.ofNode?, MagicEntry.toJson, fields?_object_of_keys rfl (by decide)]
  simp [entry.value.ofNode?_toJson]

/-! ### Fields -/

theorem FieldEntry.keys_members (entry : FieldEntry) :
    entry.members.map Prod.fst = FieldEntry.shape.keys :=
  rfl

theorem FieldEntry.ofFields?_members (entry : FieldEntry) :
    FieldEntry.ofFields? (entry.members.map fun member => some member.2.toNode) = some entry := by
  exact bind_eq_some (text?_toNode_string _) <| bind_eq_some entry.bits.ofNode?_toJson <|
    bind_eq_some (nullable_text _) <| bind_eq_some (nullable_literal _) <|
    bind_eq_some (text?_toNode_string _) <| bind_eq_some (text?_toNode_string _) <|
    bind_eq_some (nullable_text _) <| bind_eq_some (nullable_text _) <|
    bind_eq_some (nullable_locks _) <| bind_eq_some (nullable_magic _) rfl

theorem FieldEntry.ofNode?_members (entry : FieldEntry) :
    FieldEntry.ofNode? (object entry.members).toNode = some entry := by
  rw [ofNode?, fields?_object_of_keys entry.keys_members (by decide)]
  exact entry.ofFields?_members

/-! ### Values that are set aside -/

/-- A value of moderate numbers with collections nested at most `room` deep. -/
inductive Nests : Nat → Json → Prop where
  | null {room : Nat} : Nests room null
  | natural {room n : Nat} (hn : n < Word.limit) : Nests room (natural n)
  | string {room : Nat} (s : String) : Nests room (string s)
  | array {room : Nat} {items : List Json} (hitems : ∀ item ∈ items, Nests room item) :
    Nests (room + 1) (array items)
  | object {room : Nat} {members : List (String × Json)}
    (hmembers : ∀ member ∈ members, Nests room member.2) : Nests (room + 1) (object members)

theorem Nests.moderate {room : Nat} {json : Json} (hjson : Nests room json) : json.Moderate := by
  induction hjson with
  | null => exact .null
  | natural hn => exact moderate_natural hn
  | string s => exact .string s
  | array _ ih => exact .array ih
  | object _ ih => exact .object ih

theorem setItemsAside?_toNodes {room : Nat} {items : List Json}
    (hitems : ∀ item ∈ items, item.toNode.setAside? room = some item.toNode) :
    Node.setItemsAside? room (toNodes items) = some (toNodes items) := by
  induction items with
  | nil => rfl
  | cons item rest ih =>
    obtain ⟨hitem, hrest⟩ := List.forall_mem_cons.mp hitems
    rw [toNodes, Node.setItemsAside?, hitem, ih hrest]
    rfl

theorem setEntriesAside?_toEntries {room : Nat} {members : List (String × Json)}
    (hmembers : ∀ member ∈ members, member.2.toNode.setAside? room = some member.2.toNode) :
    Node.setEntriesAside? room (toEntries members) = some (toEntries members) := by
  induction members with
  | nil => rfl
  | cons member rest ih =>
    obtain ⟨hmember, hrest⟩ := List.forall_mem_cons.mp hmembers
    rw [toEntries, Node.setEntriesAside?, hmember, ih hrest]
    cases room <;> rfl

/-- Setting a written value aside loses nothing. -/
theorem Nests.setAside? {room : Nat} {json : Json} (hjson : Nests room json) :
    json.toNode.setAside? room = some json.toNode := by
  induction hjson with
  | null => rfl
  | natural hn => rfl
  | string s => rfl
  | array _ ih =>
    rw [toNode, Node.setAside?, setItemsAside?_toNodes ih]
    rfl
  | object _ ih =>
    rw [toNode, Node.setAside?, setEntriesAside?_toEntries ih]
    rfl

theorem nests_orNull {α : Type} {write : α → Json} {room : Nat}
    (hwrite : ∀ x, Nests room (write x)) (value : Option α) : Nests room (orNull write value) := by
  cases value with
  | none => exact .null
  | some x => exact hwrite x

theorem nests_word64 (room : Nat) (n : UInt64) : Nests room (natural n.toNat) :=
  .natural (Nat.lt_trans n.toNat_lt_size (by decide))

theorem nests_literal (room : Nat) (literal : Literal) : Nests room literal.toJson := by
  cases literal with
  | number n => exact nests_word64 room n
  | text content => exact .string content

theorem nests_bits (room : Nat) (bits : BitsEntry) : Nests (room + 1) bits.toJson := by
  cases bits with
  | bit n => exact nests_word64 _ n
  | pair high low =>
    refine .array ?_
    simp only [List.forall_mem_cons]
    exact ⟨nests_literal _ high, nests_literal _ low, by simp⟩
  | text content => exact .string content

theorem nests_locks (room : Nat) (locks : LocksEntry) : Nests (room + 1) locks.toJson := by
  cases locks with
  | one reference => exact .string reference
  | many references =>
    refine .array fun item hitem => ?_
    obtain ⟨reference, -, rfl⟩ := List.mem_map.mp hitem
    exact .string reference

theorem nests_magic (room : Nat) (entry : MagicEntry) : Nests (room + 1) entry.toJson := by
  refine .object ?_
  simp only [List.forall_mem_cons]
  exact ⟨.string _, nests_literal _ _, by simp⟩

theorem FieldEntry.nests_members (entry : FieldEntry) (room : Nat) :
    ∀ member ∈ entry.members, Nests (room + 1) member.2 := by
  simp only [members, List.forall_mem_cons]
  exact ⟨.string _, nests_bits _ _, nests_orNull (fun _ => .string _) _,
    nests_orNull (nests_literal _) _, .string _, .string _, nests_orNull (fun _ => .string _) _,
    nests_orNull (fun _ => .string _) _, nests_orNull (nests_locks _) _,
    nests_orNull (nests_magic _) _, by simp⟩

/-- The values of a field, under their keys, as they are read and as they are set aside. -/
def FieldEntry.entries (entry : FieldEntry) : List (String × Node) :=
  entry.members.map fun member => (member.1, member.2.toNode)

theorem FieldEntry.keys_entries (entry : FieldEntry) :
    entry.entries.map Prod.fst = FieldEntry.shape.keys :=
  rfl

theorem FieldEntry.setAside?_entries (entry : FieldEntry) (room : Nat) :
    (entry.entries.mapM fun (name, value) =>
      (value.setAside? (room + 1)).map fun value => (name, value)) = some entry.entries := by
  refine mapM_eq_self fun given hgiven => ?_
  obtain ⟨member, hmember, rfl⟩ := List.mem_map.mp hgiven
  have haside : member.2.toNode.setAside? (room + 1) = some member.2.toNode :=
    (entry.nests_members room member hmember).setAside?
  exact congrArg (Option.map fun value => (member.1, value)) haside

theorem FieldEntry.fieldsByName?_entries (entry : FieldEntry) :
    Node.fieldsByName? FieldEntry.shape entry.entries =
      some (entry.members.map fun member => some member.2.toNode) := by
  rw [fieldsByName?_of_keys entry.keys_entries (by decide), entries, List.map_map]
  rfl

/-- An entry of the field list is read from what was set aside as it was written. -/
theorem FlatFieldEntry.ofNode?_toJson (entry : FlatFieldEntry) :
    FlatFieldEntry.ofNode? .json entry.toJson.toNode = some entry := by
  let register : String × Node := ("register", (string entry.register).toNode)
  have hnamed : entry.toJson.toNode.namedEntries? FieldEntry.shape =
      some (register :: entry.field.entries) := namedEntries?_object ..
  have hregister : Node.given? registerKeys (register :: entry.field.entries) =
      some (some register.2) := by
    refine given?_of_filter List.mem_cons_self ?_
    rw [List.map_cons, entry.field.keys_entries]
    show ("register" :: FieldEntry.shape.keys).filter registerKeys.contains = ["register"]
    decide
  have hothers : (register :: entry.field.entries).filter
      (fun given => !registerKeys.contains given.1) = entry.field.entries := by
    have hapart : ∀ key ∈ FieldEntry.shape.keys, (!registerKeys.contains key) = true := by decide
    rw [List.filter_cons_of_neg (by simp [register, registerKeys]), List.filter_eq_self]
    intro given hgiven
    exact hapart given.1 (entry.field.keys_entries ▸ List.mem_map_of_mem hgiven)
  have haside : (entry.field.entries.mapM fun (name, value) =>
      (value.setAside? Format.json.entryRoom).map fun value => (name, value)) =
        some entry.field.entries := entry.field.setAside?_entries 123
  rw [ofNode?, hnamed]
  simp only [Option.bind_eq_bind, Option.bind_some, hregister, hothers, haside, required_some,
    entry.field.fieldsByName?_entries, entry.field.ofFields?_members, register,
    text?_toNode_string]
  rfl

/-! ### Registers, locks and parameters -/

theorem RegisterEntry.ofNode?_toJson (entry : RegisterEntry) :
    RegisterEntry.ofNode? entry.toJson.toNode = some entry := by
  have hfields : listOf FieldEntry.ofNode?
      (array (entry.fields.map fun field => object field.members)).toNode = some entry.fields :=
    listOf_toNode fun field _ => field.ofNode?_members
  rw [ofNode?, toJson, fields?_object_of_keys rfl (by decide)]
  refine bind_eq_some rfl ?_
  dsimp only [List.map]
  exact bind_eq_some (text?_toNode_string _) <| bind_eq_some (nullable_literal _) <|
    bind_eq_some (nullable_text _) <| bind_eq_some (nullable_literal _) <|
    bind_eq_some (nullable_literal _) <| bind_eq_some (text?_toNode_string _) <|
    bind_eq_some (nullable_text _) <| bind_eq_some (nullable_text _) <|
    bind_eq_some (nullable_locks _) <| bind_eq_some (nullable_magic _) <|
    bind_eq_some hfields rfl

theorem LockRelationEntry.ofNode?_toJson (entry : LockRelationEntry) :
    LockRelationEntry.ofNode? entry.toJson.toNode = some entry := by
  rw [ofNode?, toJson, fields?_object_of_keys rfl (by decide)]
  simp

theorem insertParameter_of_forall_lt {known : List (String × Literal)}
    {entry : String × Literal} (hknown : ∀ other ∈ known, other.1 < entry.1) :
    insertParameter known entry = known ++ [entry] := by
  induction known with
  | nil => rfl
  | cons other rest ih =>
    obtain ⟨hother, hrest⟩ := List.forall_mem_cons.mp hknown
    rw [insertParameter, if_neg hother.not_gt, if_neg hother.ne', ih hrest, List.cons_append]

theorem foldl_insertParameter {entries : List (String × Literal)}
    (hentries : entries.Pairwise (·.1 < ·.1)) : entries.foldl insertParameter [] = entries := by
  have hfold : ∀ (entries known : List (String × Literal)),
      (known ++ entries).Pairwise (·.1 < ·.1) →
        entries.foldl insertParameter known = known ++ entries := by
    intro entries
    induction entries with
    | nil => simp
    | cons entry rest ih =>
      intro known hsorted
      have hbefore := (List.pairwise_append.mp hsorted).2.2
      rw [List.foldl_cons, insertParameter_of_forall_lt fun other hother =>
        hbefore other hother entry List.mem_cons_self]
      rw [ih (known ++ [entry]) (by simpa using hsorted)]
      simp
  exact hfold entries [] hentries

/-- Parameters in order are read as they were written. -/
theorem parametersOfNode?_toNode {parameters : List (String × Literal)}
    (hparameters : parameters.Pairwise (·.1 < ·.1)) :
    parametersOfNode? (object (parameters.map fun (name, value) => (name, value.toJson))).toNode =
      some parameters := by
  have hentries :
      (toEntries (parameters.map fun (name, value) => (name, Literal.toJson value))).mapM
        (fun entry => do return (← Node.text? entry.1, ← Literal.ofNode? entry.2)) =
          some parameters := by
    rw [toEntries_eq_map, List.map_map, List.mapM_map]
    refine mapM_eq_self fun entry _ => ?_
    show (do return (entry.1, ← Literal.ofNode? entry.2.toJson.toNode)) = some entry
    rw [entry.2.ofNode?_toJson]
    rfl
  show Option.bind ((toEntries _).mapM _) _ = _
  rw [hentries]
  exact congrArg some (foldl_insertParameter hparameters)

/-! ### Documents -/

variable {document : Document}

/-- The tree of a document is read as the document, if its parameters are in order. -/
theorem ofNode?_toJson (hordered : document.Ordered) :
    ofNode? .json document.toJson.toNode = some document := by
  have hparameters := parametersOfNode?_toNode (List.pairwise_map.mp hordered)
  have hregisters : listOf RegisterEntry.ofNode?
      (array (document.registers.map RegisterEntry.toJson)).toNode = some document.registers :=
    listOf_toNode fun entry _ => entry.ofNode?_toJson
  have hfields : listOf (FlatFieldEntry.ofNode? .json)
      (array (document.fields.map FlatFieldEntry.toJson)).toNode = some document.fields :=
    listOf_toNode fun entry _ => entry.ofNode?_toJson
  have hlocks : listOf LockRelationEntry.ofNode?
      (array (document.lockRelations.map LockRelationEntry.toJson)).toNode =
        some document.lockRelations :=
    listOf_toNode fun entry _ => entry.ofNode?_toJson
  rw [ofNode?, toJson, fields?_object_of_keys rfl (by decide)]
  refine bind_eq_some rfl ?_
  dsimp only [List.map]
  exact bind_eq_some (text?_toNode_string _) <| bind_eq_some (word32?_toNode_natural _) <|
    bind_eq_some (word32?_toNode_natural _) <| bind_eq_some (nullable_text _) <|
    bind_eq_some (bool?_toNode_bool _) <| bind_eq_some (bool?_toNode_bool _) <|
    bind_eq_some (word32?_toNode_natural _) <| bind_eq_some (word32?_toNode_natural _) <|
    bind_eq_some (bool?_toNode_bool _) <| bind_eq_some (nullable_literal _) <|
    bind_eq_some (nullable_text _) <| bind_eq_some hparameters <| bind_eq_some hregisters <|
    bind_eq_some hfields <| bind_eq_some hlocks <|
    bind_eq_some document.options.ofNode?_toJson rfl

theorem moderate_orNull {α : Type} {write : α → Json} (hwrite : ∀ x, (write x).Moderate)
    (value : Option α) : (orNull write value).Moderate := by
  rw [orNull_eq]
  exact moderate_optional hwrite value

theorem moderate_literal (literal : Literal) : literal.toJson.Moderate :=
  (nests_literal 0 literal).moderate

theorem FieldEntry.moderate_members (entry : FieldEntry) :
    ∀ member ∈ entry.members, member.2.Moderate :=
  fun member hmember => (entry.nests_members 0 member hmember).moderate

theorem FlatFieldEntry.moderate_toJson (entry : FlatFieldEntry) : entry.toJson.Moderate :=
  .object (List.forall_mem_cons.mpr ⟨.string _, entry.field.moderate_members⟩)

theorem RegisterEntry.moderate_toJson (entry : RegisterEntry) : entry.toJson.Moderate := by
  refine .object ?_
  simp only [List.forall_mem_cons]
  exact ⟨.string _, moderate_orNull moderate_literal _, moderate_orNull (fun _ => .string _) _,
    moderate_orNull moderate_literal _, moderate_orNull moderate_literal _, .string _,
    moderate_orNull (fun _ => .string _) _, moderate_orNull (fun _ => .string _) _,
    moderate_orNull (fun locks => (nests_locks 0 locks).moderate) _,
    moderate_orNull (fun magic => (nests_magic 0 magic).moderate) _,
    moderate_array (fun field => .object field.moderate_members) _, by simp⟩

theorem LockRelationEntry.moderate_toJson (entry : LockRelationEntry) :
    entry.toJson.Moderate := by
  refine .object ?_
  simp only [List.forall_mem_cons]
  exact ⟨.string _, .string _, by simp⟩

theorem moderate_parameters (parameters : List (String × Literal)) :
    (object (parameters.map fun (name, value) => (name, value.toJson))).Moderate := by
  refine .object fun member hmember => ?_
  obtain ⟨entry, -, rfl⟩ := List.mem_map.mp hmember
  exact moderate_literal entry.2

theorem moderate_toJson (document : Document) : document.toJson.Moderate := by
  refine .object ?_
  simp only [List.forall_mem_cons]
  exact ⟨.string _, moderate_word32 _, moderate_word32 _, moderate_orNull (fun _ => .string _) _,
    .bool _, .bool _, moderate_word32 _, moderate_word32 _, .bool _,
    moderate_orNull moderate_literal _, moderate_orNull (fun _ => .string _) _,
    moderate_parameters _, moderate_array RegisterEntry.moderate_toJson _,
    moderate_array FlatFieldEntry.moderate_toJson _,
    moderate_array LockRelationEntry.moderate_toJson _, document.options.moderate_toJson,
    by simp⟩

theorem ofJson?_compact (hordered : document.Ordered) :
    ofJson? document.toJson.compact = some document := by
  rw [ofJson?, read?_compact document.moderate_toJson]
  exact ofNode?_toJson hordered

/-- What is read as a document is written so that the same document is read again, and it stands
    for the same register file or fails for the same reason. -/
theorem ofJson?_of_ofJson? {text : String} (hread : ofJson? text = some document) :
    ofJson? document.toJson.compact = some document ∧
      (ofJson? document.toJson.compact).map resolve = (ofJson? text).map resolve := by
  obtain ⟨node, -, hnode⟩ := Option.bind_eq_some_iff.mp hread
  have hagain := ofJson?_compact (ordered_of_ofNode? hnode)
  exact ⟨hagain, by rw [hagain, hread]⟩

/-- A text with other names of keys, numbers beside texts, parameters out of order and an entry of
    the field list. -/
def aliasedText : String :=
  "\x7b\"module\": \"regs\", \"parameters\": \x7b\"W\": 8, \"A\": \"0x4\"\x7d,
    \"registers\": [
      \x7b\"name\": \"R\", \"addr\": \"0x0\", \"reset\": 5, \"width\": \"W\", \"locked_by\": \"L\",
        \"fields\": [\x7b\"name\": \"F\", \"bits\": [\"W-1\", 4],
          \"locked_by\": [\"L\", \"R[2]\"]\x7d]\x7d,
      \x7b\"name\": \"L\", \"type\": \"lock\", \"offset\": 4, \"reset\": null\x7d],
    \"fields\": [\x7b\"reg\": \"R\", \"name\": \"G\", \"bit\": 3,
      \"magic_dependency\": \x7b\"register\": \"L\", \"expected\": 1\x7d\x7d]\x7d"

/-- The document of `aliasedText`. -/
def aliased : Document where
  moduleName := "regs"
  parameters := [("A", .text "0x4"), ("W", .number 8)]
  registers := [
    { name := "R", address := some (.text "0x0"), resetValue := some (.number 5)
      width := some (.text "W"), lockedBy := some (.one "L")
      fields := [
        { name := "F", bits := .pair (.text "W-1") (.number 4)
          lockedBy := some (.many ["L", "R[2]"]) }] },
    { name := "L", address := some (.number 4), type := some "lock" }]
  fields := [
    { register := "R"
      field := { name := "G", bits := .bit 3, magic := some ⟨"L", .number 1⟩ } }]

theorem ofJson?_of_ofJson?_aliased :
    ofJson? aliasedText = some aliased ∧
      ofJson? aliased.toJson.compact = some aliased ∧
        (ofJson? aliased.toJson.compact).map resolve = (ofJson? aliasedText).map resolve := by
  have hread : ofJson? aliasedText = some aliased := by
    -- The kernel takes long to decode a literal of this length by itself.
    rw [ofJson?, read?, aliasedText, String.toList_ofList]
    decide +kernel
  exact ⟨hread, ofJson?_of_ofJson? hread⟩

end Document

end RegisterFile
