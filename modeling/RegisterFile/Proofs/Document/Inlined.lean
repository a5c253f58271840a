import Mathlib
import RegisterFile.Proofs.Document.Parameters

/-!
The two layouts of a document. Fields and locks may stand in lists of their own, where they say
what they belong to, or inside the registers and fields themselves. `inlined` moves every entry of
the lists behind what its register or field has already. Resolving works through the lists one
entry at a time, and each step of it is the move of that entry.
-/

namespace RegisterFile

namespace Document

/-! ### Moving entries -/

/-- Lock references with further ones behind them. -/
def withLocks (locks : Option LocksEntry) : List String → Option LocksEntry
  | [] => locks
  | lockers => some (.many ((locks.map LocksEntry.references).getD [] ++ lockers))

/-- What an entry of the lock list locks. -/
inductive LockTarget where
  | register (name : String)
  | field (register field : String)
  deriving DecidableEq, Repr

/-- What an entry locks, given the names of the registers: the register of the whole name, else a
    field of the register before the first dot. -/
def LockRelationEntry.target? (entry : LockRelationEntry) (names : List String) :
    Option LockTarget :=
  if entry.locked ∈ names then some (.register entry.locked)
  else
    (Text.splitOnce '.' entry.locked.toList).map fun (register, field) =>
      .field (String.ofList register) (String.ofList field)

/-- The references that a lock list adds to a target, in order. -/
def lockersOf (names : List String) (relations : List LockRelationEntry) (target : LockTarget) :
    List String :=
  (relations.filter fun entry => entry.target? names = some target).map LockRelationEntry.locker

/-- Adds references to fields by name, and where a name repeats to its first field. -/
def lockFields (lockers : String → List String) : List FieldEntry → List FieldEntry
  | [] => []
  | field :: rest =>
    { field with lockedBy := withLocks field.lockedBy (lockers field.name) } ::
      lockFields (Function.update lockers field.name []) rest

/-- A register with the fields of a field list that belong to it. -/
def RegisterEntry.withFields (entry : RegisterEntry) (flat : List FlatFieldEntry) :
    RegisterEntry :=
  { entry with
    fields := entry.fields ++
      (flat.filter fun other => other.register == entry.name).map FlatFieldEntry.field }

/-- A register with further references to its locks and to those of its fields. -/
def RegisterEntry.withLockers (entry : RegisterEntry) (lockers : LockTarget → List String) :
    RegisterEntry :=
  { entry with
    lockedBy := withLocks entry.lockedBy (lockers (.register entry.name))
    fields := lockFields (fun field => lockers (.field entry.name field)) entry.fields }

/-- The names of the registers. -/
def registerNames (document : Document) : List String :=
  document.registers.map RegisterEntry.name

/-- The document with every entry of the field list and of the lock list where it belongs. -/
def inlined (document : Document) : Document :=
  { document with
    registers := document.registers.map fun entry =>
      (entry.withFields document.fields).withLockers
        (lockersOf document.registerNames document.lockRelations)
    fields := []
    lockRelations := [] }

theorem withLocks_append (locks : Option LocksEntry) (first second : List String) :
    withLocks locks (first ++ second) = withLocks (withLocks locks first) second := by
  cases first with
  | nil => rfl
  | cons locker lockers =>
    cases second with
    | nil => simp [withLocks]
    | cons other others => simp [withLocks, LocksEntry.references]

theorem lockFields_nil (fields : List FieldEntry) : lockFields (fun _ => []) fields = fields := by
  induction fields with
  | nil => rfl
  | cons field rest ih =>
    rw [lockFields, Function.update_eq_self field.name (fun _ => []), ih]
    rfl

theorem lockFields_append (first second : String → List String) (fields : List FieldEntry) :
    lockFields (fun name => first name ++ second name) fields =
      lockFields second (lockFields first fields) := by
  induction fields generalizing first second with
  | nil => rfl
  | cons field rest ih =>
    have hupdate : Function.update (fun name => first name ++ second name) field.name [] =
        fun name => Function.update first field.name [] name ++
          Function.update second field.name [] name := by
      funext name
      by_cases hname : name = field.name
      · simp [hname]
      · simp [Function.update_of_ne hname]
    simp only [lockFields, withLocks_append, hupdate, ih]

theorem RegisterEntry.withFields_append (entry : RegisterEntry)
    (first second : List FlatFieldEntry) :
    entry.withFields (first ++ second) = (entry.withFields first).withFields second := by
  simp only [withFields, List.filter_append, List.map_append, List.append_assoc]

theorem RegisterEntry.withLockers_append (entry : RegisterEntry)
    (first second : LockTarget → List String) :
    entry.withLockers (fun target => first target ++ second target) =
      (entry.withLockers first).withLockers second := by
  simp only [withLockers, withLocks_append, lockFields_append]

theorem lockersOf_append (names : List String) (first second : List LockRelationEntry) :
    lockersOf names (first ++ second) =
      fun target => lockersOf names first target ++ lockersOf names second target := by
  funext target
  simp [lockersOf]

theorem lockersOf_singleton (names : List String) (relation : LockRelationEntry) :
    lockersOf names [relation] = fun target =>
      if relation.target? names = some target then [relation.locker] else [] := by
  funext target
  by_cases htarget : relation.target? names = some target <;> simp [lockersOf, htarget]

/-! ### Steps that can fail -/

section

variable {α β ε δ : Type}

theorem mapError_eq_ok_iff {value : Except ε α} {wrap : ε → δ} {a : α} :
    value.mapError wrap = .ok a ↔ value = .ok a := by
  cases value <;> simp [Except.mapError]

theorem mapM_eq_ok_iff {read : α → Except ε β} {items : List α} {others : List β} :
    items.mapM read = .ok others ↔
      List.Forall₂ (fun item other => read item = .ok other) items others := by
  induction items generalizing others with
  | nil => simp [pure, Except.pure, eq_comm]
  | cons item rest ih =>
    simp only [List.mapM_cons, bind_eq_ok_iff, ih, List.forall₂_cons_left_iff]
    constructor
    · rintro ⟨first, hfirst, later, hlater, hothers⟩
      cases hothers
      exact ⟨first, later, hfirst, hlater, rfl⟩
    · rintro ⟨first, later, hfirst, hlater, rfl⟩
      exact ⟨first, hfirst, later, hlater, rfl⟩

end

/-! ### Entries and what they stand for -/

variable {parameters : Parameters} {defaultType : RegisterType}

/-- The entries of fields are resolved to the fields. -/
abbrev FieldsResolve (parameters : Parameters) : List FieldEntry → List Field → Prop :=
  List.Forall₂ fun entry field => entry.resolve parameters = .ok field

/-- The entries of registers are resolved to the registers. -/
abbrev RegistersResolve (parameters : Parameters) (defaultType : RegisterType) :
    List RegisterEntry → List Register → Prop :=
  List.Forall₂ fun entry register => entry.resolve parameters defaultType = .ok register

theorem readLocks_withLocks {locks : Option LocksEntry} {read : List Lock} {locker : String}
    {lock : Lock} (hlocks : readLocks locks = .ok read) (hlock : readLock locker = .ok lock) :
    readLocks (withLocks locks [locker]) = .ok (read ++ [lock]) := by
  have hreferences : ((locks.map LocksEntry.references).getD []).mapM readLock = .ok read := by
    cases locks with
    | none => exact hlocks
    | some entry => exact hlocks
  show List.mapM readLock (_ ++ [locker]) = _
  rw [List.mapM_append, hreferences, List.mapM_cons, hlock]
  rfl

theorem FieldEntry.name_of_resolve {entry : FieldEntry} {field : Field}
    (hresolve : entry.resolve parameters = .ok field) : field.name = entry.name := by
  rw [resolve, mapError_eq_ok_iff] at hresolve
  simp only [build, bind_eq_ok_iff] at hresolve
  obtain ⟨_, -, _, -, _, -, _, -, _, -, _, -, _, -, hfield⟩ := hresolve
  cases hfield
  rfl

/-- A lock more in an entry is a lock more on its field. -/
theorem FieldEntry.resolve_withLocks {entry : FieldEntry} {field : Field} {locker : String}
    {lock : Lock} (hresolve : entry.resolve parameters = .ok field)
    (hlock : readLock locker = .ok lock) :
    { entry with lockedBy := withLocks entry.lockedBy [locker] : FieldEntry }.resolve parameters =
      .ok (lockField lock field) := by
  rw [resolve, mapError_eq_ok_iff] at hresolve ⊢
  simp only [build, bind_eq_ok_iff] at hresolve ⊢
  obtain ⟨bits, hbits, type, htype, resetValue, hresetValue, swAccess, hswAccess, hwAccess,
    hhwAccess, lockedBy, hlockedBy, magic, hmagic, hfield⟩ := hresolve
  cases hfield
  exact ⟨bits, hbits, type, htype, resetValue, hresetValue, swAccess, hswAccess, hwAccess,
    hhwAccess, _, readLocks_withLocks hlockedBy hlock, magic, hmagic, rfl⟩

/-- The locks and the fields of a register are read apart from the rest of its entry. -/
theorem RegisterEntry.resolve_eq_ok_iff {entry : RegisterEntry} {register : Register} :
    entry.resolve parameters defaultType = .ok register ↔
      readLocks entry.lockedBy = .ok register.lockedBy ∧
        FieldsResolve parameters entry.fields register.fields ∧
          { entry with lockedBy := none, fields := [] : RegisterEntry }.resolve parameters
            defaultType = .ok { register with lockedBy := [], fields := [] } := by
  simp only [resolve, mapError_eq_ok_iff, build, bind_eq_ok_iff, FieldsResolve, ← mapM_eq_ok_iff]
  constructor
  · rintro ⟨address, haddress, type, htype, resetValue, hresetValue, width, hwidth, swAccess,
      hswAccess, hwAccess, hhwAccess, lockedBy, hlockedBy, magic, hmagic, fields, hfields,
      hregister⟩
    cases hregister
    exact ⟨hlockedBy, hfields, address, haddress, type, htype, resetValue, hresetValue, width,
      hwidth, swAccess, hswAccess, hwAccess, hhwAccess, [], rfl, magic, hmagic, [], rfl, rfl⟩
  · rintro ⟨hlockedBy, hfields, address, haddress, type, htype, resetValue, hresetValue, width,
      hwidth, swAccess, hswAccess, hwAccess, hhwAccess, _, -, magic, hmagic, _, -, hregister⟩
    cases register
    cases hregister
    exact ⟨_, haddress, type, htype, resetValue, hresetValue, _, hwidth, _, hswAccess, _,
      hhwAccess, _, hlockedBy, _, hmagic, _, hfields, rfl⟩

theorem RegisterEntry.name_of_resolve {entry : RegisterEntry} {register : Register}
    (hresolve : entry.resolve parameters defaultType = .ok register) :
    register.name = entry.name := by
  rw [resolve, mapError_eq_ok_iff] at hresolve
  simp only [build, bind_eq_ok_iff] at hresolve
  obtain ⟨_, -, _, -, _, -, _, -, _, -, _, -, _, -, _, -, _, -, hregister⟩ := hresolve
  cases hregister
  rfl

/-- One field more at the end of an entry is one field more at the end of its register. -/
theorem RegisterEntry.resolve_withFields {entry : RegisterEntry} {register : Register}
    {flat : FlatFieldEntry} {field : Field}
    (hresolve : entry.resolve parameters defaultType = .ok register)
    (hfield : flat.field.resolve parameters = .ok field) :
    (entry.withFields [flat]).resolve parameters defaultType =
      .ok (if register.name = flat.register then
        { register with fields := register.fields ++ [field] } else register) := by
  have hsame := name_of_resolve hresolve
  by_cases hname : register.name = flat.register
  · obtain ⟨hlocks, hfields, hbare⟩ := resolve_eq_ok_iff.mp hresolve
    have hmoved : (entry.withFields [flat]).fields = entry.fields ++ [flat.field] := by
      simp [withFields, ← hsame, hname]
    rw [if_pos hname, resolve_eq_ok_iff]
    refine ⟨hlocks, ?_, hbare⟩
    rw [hmoved]
    exact List.rel_append hfields (.cons hfield .nil)
  · have hother : flat.register ≠ entry.name := fun heq => hname (hsame.trans heq.symm)
    have hkept : entry.withFields [flat] = entry := by
      simp [withFields, hother]
    rw [if_neg hname, hkept, hresolve]

/-- An entry with further references, when these and those of its fields can be read. -/
theorem RegisterEntry.resolve_withLockers {entry : RegisterEntry} {register : Register}
    {lockers : LockTarget → List String} {locks : List Lock} {fields : List Field}
    (hresolve : entry.resolve parameters defaultType = .ok register)
    (hlocks : readLocks (withLocks entry.lockedBy (lockers (.register entry.name))) = .ok locks)
    (hfields : FieldsResolve parameters
      (lockFields (fun field => lockers (.field entry.name field)) entry.fields) fields) :
    (entry.withLockers lockers).resolve parameters defaultType =
      .ok { register with lockedBy := locks, fields } :=
  resolve_eq_ok_iff.mpr ⟨hlocks, hfields, (resolve_eq_ok_iff.mp hresolve).2.2⟩

/-! ### Changes to one register -/

theorem modifyFirst?_eq_none_iff {registers : List Register} {name : String}
    {change : Register → Register} :
    modifyFirst? (fun register => register.name == name) change registers = none ↔
      name ∉ registers.map Register.name := by
  induction registers with
  | nil => simp [modifyFirst?]
  | cons register rest ih =>
    by_cases hname : register.name = name
    · simp [modifyFirst?, hname]
    · simp [modifyFirst?, hname, ih, Ne.symm hname]

/-- A change to the first item that a test accepts, or none. -/
def changeFirst {α : Type} (test : α → Bool) (change : α → α) (items : List α) : List α :=
  (modifyFirst? test change items).getD items

theorem changeFirst_cons {α : Type} (test : α → Bool) (change : α → α) (item : α)
    (rest : List α) :
    changeFirst test change (item :: rest) =
      if test item then change item :: rest else item :: changeFirst test change rest := by
  cases htest : test item with
  | true => simp [changeFirst, modifyFirst?, htest]
  | false =>
    simp only [changeFirst, modifyFirst?, htest]
    cases modifyFirst? test change rest <;> rfl

theorem eq_changeFirst {α : Type} {test : α → Bool} {change : α → α} {items changed : List α}
    (hmodify : modifyFirst? test change items = some changed) :
    changed = changeFirst test change items := by
  rw [changeFirst, hmodify, Option.getD_some]

/-- Where names are distinct, a change to the first register of a name changes just the registers
    of that name. -/
theorem changeFirst_eq_map {registers : List Register} (name : String)
    (change : Register → Register) (hdistinct : (registers.map Register.name).Nodup) :
    changeFirst (fun register => register.name == name) change registers =
      registers.map fun register => if register.name = name then change register else register := by
  induction registers with
  | nil => rfl
  | cons register rest ih =>
    rw [List.map_cons, List.nodup_cons] at hdistinct
    by_cases hname : register.name = name
    · have hrest : rest.map (fun other => if other.name = name then change other else other) =
          rest := by
        refine (List.map_congr_left fun other hother => if_neg ?_).trans (List.map_id _)
        rintro rfl
        exact hdistinct.1 (hname ▸ List.mem_map_of_mem hother)
      rw [changeFirst_cons, if_pos (beq_iff_eq.mpr hname), List.map_cons, if_pos hname, hrest]
    · rw [changeFirst_cons, if_neg (by simpa using hname), ih hdistinct.2, List.map_cons,
        if_neg hname]

/-- A change to the first field of the one register of a name. -/
theorem changeFirst_fields {registers : List Register} {register : Register} {name : String}
    {test : Field → Bool} {change : Field → Field} {fields : List Field}
    (hdistinct : (registers.map Register.name).Nodup)
    (hfind : registers.find? (fun register => register.name == name) = some register)
    (hfields : modifyFirst? test change register.fields = some fields) :
    changeFirst (fun register => register.name == name) (fun register => { register with fields })
        registers =
      registers.map fun register =>
        if register.name = name then
          { register with fields := changeFirst test change register.fields }
        else register := by
  have hfound : register.name = name := by simpa using List.find?_some hfind
  rw [changeFirst_eq_map _ _ hdistinct]
  refine List.map_congr_left fun other hother => ?_
  split
  next hname =>
    have hsame : other = register :=
      List.inj_on_of_nodup_map hdistinct hother (List.mem_of_find?_eq_some hfind)
        (hname.trans hfound.symm)
    rw [hsame, eq_changeFirst hfields]
  next => rfl

theorem RegistersResolve.map_name {entries : List RegisterEntry} {registers : List Register}
    (hresolve : RegistersResolve parameters defaultType entries registers) :
    registers.map Register.name = entries.map RegisterEntry.name := by
  induction hresolve with
  | nil => rfl
  | cons hfirst _ ih => rw [List.map_cons, List.map_cons, ih, RegisterEntry.name_of_resolve hfirst]

/-- Entries and registers that are changed alike still go together. -/
theorem RegistersResolve.map {entries : List RegisterEntry} {registers : List Register}
    {move : RegisterEntry → RegisterEntry} {change : Register → Register}
    (hresolve : RegistersResolve parameters defaultType entries registers)
    (hmove : ∀ entry register, entry.resolve parameters defaultType = .ok register →
      (move entry).resolve parameters defaultType = .ok (change register)) :
    RegistersResolve parameters defaultType (entries.map move) (registers.map change) := by
  rw [RegistersResolve, List.forall₂_map_left_iff, List.forall₂_map_right_iff]
  exact hresolve.imp hmove

/-! ### One entry -/

section

variable {entries : List RegisterEntry} {registers attached : List Register}
  {names : List String}

/-- Attaching a field is moving its entry. -/
theorem resolve_attachField {flat : FlatFieldEntry}
    (hdistinct : (entries.map RegisterEntry.name).Nodup)
    (hresolve : RegistersResolve parameters defaultType entries registers)
    (hattach : attachField parameters registers flat = .ok attached) :
    RegistersResolve parameters defaultType (entries.map (·.withFields [flat])) attached := by
  obtain ⟨field, hfield, hattach⟩ := bind_eq_ok_iff.mp hattach
  rw [mapError_eq_ok_iff] at hfield
  dsimp only at hattach
  split at hattach
  next changed hmodify =>
    cases hattach
    rw [eq_changeFirst hmodify, changeFirst_eq_map _ _ (hresolve.map_name ▸ hdistinct)]
    exact hresolve.map fun entry register hentry => entry.resolve_withFields hentry hfield
  next => cases hattach

/-- The lock of one entry moves to the first field of its name, if there is one. -/
theorem resolve_lockFields {fieldEntries : List FieldEntry} {fields : List Field}
    {name locker : String} {lock : Lock} (hlock : readLock locker = .ok lock)
    (hresolve : FieldsResolve parameters fieldEntries fields) :
    FieldsResolve parameters
      (lockFields (fun other => if name = other then [locker] else []) fieldEntries)
      (changeFirst (fun field => field.name == name) (lockField lock) fields) := by
  induction hresolve with
  | nil => exact .nil
  | @cons entry field laterEntries later hfirst hlater ih =>
    have hsame := FieldEntry.name_of_resolve hfirst
    by_cases hname : field.name = name
    · -- The first field of the name takes the reference and leaves none for those behind it.
      have hrest : Function.update (fun other => if name = other then [locker] else [])
          entry.name [] = fun _ => [] := by
        funext other
        by_cases hother : other = entry.name
        · simp [hother]
        · have hne : name ≠ other := fun heq => hother (heq ▸ hname ▸ hsame)
          simp [hother, hne]
      rw [changeFirst_cons, if_pos (beq_iff_eq.mpr hname), lockFields, hrest, lockFields_nil,
        if_pos (hname ▸ hsame)]
      exact .cons (FieldEntry.resolve_withLocks hfirst hlock) hlater
    · have hne : name ≠ entry.name := fun heq => hname (hsame.trans heq.symm)
      have hrest : Function.update (fun other => if name = other then [locker] else [])
          entry.name [] = fun other => if name = other then [locker] else [] :=
        Function.update_eq_self_iff.mpr (if_neg hne).symm
      rw [changeFirst_cons, if_neg (by simpa using hname), lockFields, hrest, if_neg hne]
      exact .cons hfirst ih

section

variable {entry : RegisterEntry} {register : Register} {relation : LockRelationEntry}
  {name fieldName : String} {lock : Lock}

/-- An entry of the lock list that locks a register adds to the locks of that register. -/
theorem resolve_lockRegister (htarget : relation.target? names = some (.register name))
    (hlock : readLock relation.locker = .ok lock)
    (hresolve : entry.resolve parameters defaultType = .ok register) :
    (entry.withLockers (lockersOf names [relation])).resolve parameters defaultType =
      .ok (if register.name = name then lockRegister lock register else register) := by
  obtain ⟨hlocks, hfields, -⟩ := RegisterEntry.resolve_eq_ok_iff.mp hresolve
  have hkept : FieldsResolve parameters
      (lockFields (fun field => lockersOf names [relation] (.field entry.name field))
        entry.fields) register.fields := by
    simpa [lockersOf_singleton, htarget, lockFields_nil] using hfields
  rw [RegisterEntry.name_of_resolve hresolve]
  by_cases hname : entry.name = name
  · rw [if_pos hname]
    refine RegisterEntry.resolve_withLockers hresolve ?_ hkept
    simpa [lockersOf_singleton, htarget, hname] using readLocks_withLocks hlocks hlock
  · rw [if_neg hname]
    refine RegisterEntry.resolve_withLockers hresolve ?_ hkept
    simpa [lockersOf_singleton, htarget, Ne.symm hname, withLocks] using hlocks

/-- An entry of the lock list that locks a field adds to the locks of that field. -/
theorem resolve_lockField (htarget : relation.target? names = some (.field name fieldName))
    (hlock : readLock relation.locker = .ok lock)
    (hresolve : entry.resolve parameters defaultType = .ok register) :
    (entry.withLockers (lockersOf names [relation])).resolve parameters defaultType =
      .ok (if register.name = name then
        { register with
          fields := changeFirst (fun field => field.name == fieldName) (lockField lock)
            register.fields }
        else register) := by
  obtain ⟨hlocks, hfields, -⟩ := RegisterEntry.resolve_eq_ok_iff.mp hresolve
  have hkept : readLocks (withLocks entry.lockedBy
      (lockersOf names [relation] (.register entry.name))) = .ok register.lockedBy := by
    simpa [lockersOf_singleton, htarget, withLocks] using hlocks
  have hsame := RegisterEntry.name_of_resolve hresolve
  by_cases hname : register.name = name
  · rw [if_pos hname]
    refine RegisterEntry.resolve_withLockers hresolve hkept ?_
    simpa [lockersOf_singleton, htarget, ← hsame, hname] using resolve_lockFields hlock hfields
  · have hother : name ≠ entry.name := fun heq => hname (hsame.trans heq.symm)
    rw [if_neg hname]
    refine RegisterEntry.resolve_withLockers hresolve hkept ?_
    simpa [lockersOf_singleton, htarget, hother, lockFields_nil] using hfields

end

/-- Attaching a lock is moving its entry. -/
theorem resolve_attachLock {relation : LockRelationEntry}
    (hnames : entries.map RegisterEntry.name = names) (hdistinct : names.Nodup)
    (hresolve : RegistersResolve parameters defaultType entries registers)
    (hattach : attachLock registers relation = .ok attached) :
    RegistersResolve parameters defaultType
      (entries.map (·.withLockers (lockersOf names [relation]))) attached := by
  rw [← hnames, ← hresolve.map_name] at hdistinct ⊢
  obtain ⟨lock, hlock, hattach⟩ := bind_eq_ok_iff.mp hattach
  dsimp only at hattach
  split at hattach
  next changed hmodify =>
    cases hattach
    have hknown : relation.locked ∈ registers.map Register.name := by
      by_contra hunknown
      rw [modifyFirst?_eq_none_iff.mpr hunknown] at hmodify
      cases hmodify
    rw [eq_changeFirst hmodify, changeFirst_eq_map _ _ hdistinct]
    exact hresolve.map fun entry register => resolve_lockRegister (if_pos hknown) hlock
  next hnone =>
    -- A text that names no register as a whole is cut at its first dot.
    have hunknown := modifyFirst?_eq_none_iff.mp hnone
    split at hattach
    next => cases hattach
    next registerChars fieldChars hsplit =>
      have htarget : relation.target? (registers.map Register.name) =
          some (.field (String.ofList registerChars) (String.ofList fieldChars)) := by
        rw [LockRelationEntry.target?, if_neg hunknown, hsplit]
        rfl
      split at hattach
      next => cases hattach
      next register hfind =>
        split at hattach
        next => cases hattach
        next fields hfields =>
          cases hattach
          rw [← changeFirst, changeFirst_fields hdistinct hfind hfields]
          exact hresolve.map fun entry register => resolve_lockField htarget hlock

/-! ### Whole lists -/

/-- Attaching the entries of a field list is moving them. -/
theorem resolve_attachFields {flat : List FlatFieldEntry}
    (hdistinct : (entries.map RegisterEntry.name).Nodup)
    (hresolve : RegistersResolve parameters defaultType entries registers)
    (hattach : flat.foldlM (attachField parameters) registers = .ok attached) :
    RegistersResolve parameters defaultType (entries.map (·.withFields flat)) attached := by
  induction flat generalizing entries registers with
  | nil =>
    cases hattach
    have hkept : entries.map (·.withFields []) = entries :=
      (List.map_congr_left fun entry _ => by simp [RegisterEntry.withFields]).trans (List.map_id _)
    rwa [hkept]
  | cons first rest ih =>
    rw [List.foldlM_cons] at hattach
    obtain ⟨between, hfirst, hrest⟩ := bind_eq_ok_iff.mp hattach
    have hmoved : entries.map (·.withFields (first :: rest)) =
        (entries.map (·.withFields [first])).map (·.withFields rest) := by
      rw [List.map_map]
      exact List.map_congr_left fun entry _ => entry.withFields_append [first] rest
    rw [hmoved]
    refine ih ?_ (resolve_attachField hdistinct hresolve hfirst) hrest
    rwa [List.map_map]

/-- Attaching the entries of a lock list is moving them. -/
theorem resolve_attachLocks {relations : List LockRelationEntry}
    (hnames : entries.map RegisterEntry.name = names) (hdistinct : names.Nodup)
    (hresolve : RegistersResolve parameters defaultType entries registers)
    (hattach : relations.foldlM attachLock registers = .ok attached) :
    RegistersResolve parameters defaultType
      (entries.map (·.withLockers (lockersOf names relations))) attached := by
  induction relations generalizing entries registers with
  | nil =>
    cases hattach
    have hkept : entries.map (·.withLockers (lockersOf names [])) = entries :=
      (List.map_congr_left fun entry _ => by
        simp [RegisterEntry.withLockers, lockersOf, withLocks, lockFields_nil]).trans
          (List.map_id _)
    rwa [hkept]
  | cons first rest ih =>
    rw [List.foldlM_cons] at hattach
    obtain ⟨between, hfirst, hrest⟩ := bind_eq_ok_iff.mp hattach
    have hmoved : entries.map (·.withLockers (lockersOf names (first :: rest))) =
        (entries.map (·.withLockers (lockersOf names [first]))).map
          (·.withLockers (lockersOf names rest)) := by
      rw [List.map_map, ← List.singleton_append, lockersOf_append]
      exact List.map_congr_left fun entry _ => entry.withLockers_append _ _
    rw [hmoved]
    refine ih ?_ (resolve_attachLock hnames hdistinct hresolve hfirst) hrest
    rwa [List.map_map]

end

/-- A document with distinct register names describes the same register file after its fields and
    locks have moved to what they belong to. -/
theorem resolve_inlined {document : Document} {resolved : Resolved}
    (hdistinct : document.registerNames.Nodup) (hresolve : document.resolve = .ok resolved) :
    document.inlined.resolve = .ok resolved := by
  simp only [resolve, bind_eq_ok_iff] at hresolve ⊢
  obtain ⟨parameters, hparameters, defaultType, htype, protocol, hprotocol, base, hbase,
    declared, hdeclared, withFields, hfields, registers, hlocks, hresolved⟩ := hresolve
  have hmoved := resolve_attachFields hdistinct (mapM_eq_ok_iff.mp hdeclared) hfields
  have hnames : (document.registers.map (·.withFields document.fields)).map RegisterEntry.name =
      document.registerNames := by
    rw [List.map_map]
    rfl
  have hinlined := resolve_attachLocks hnames hdistinct hmoved hlocks
  rw [List.map_map] at hinlined
  exact ⟨parameters, hparameters, defaultType, htype, protocol, hprotocol, base, hbase,
    registers, mapM_eq_ok_iff.mpr hinlined, registers, rfl, registers, rfl, hresolved⟩

/-- A document that puts fields and locks into lists of their own. -/
def listed : Document where
  moduleName := "regs"
  registers := [
    { name := "LOCK", type := some "lock" },
    { name := "DATA", lockedBy := some (.one "LOCK")
      fields := [{ name := "OLD", bits := .pair (.number 30) (.number 24) }] }]
  fields := [
    { register := "DATA", field := { name := "NEW", bits := .pair (.number 22) (.number 16) } },
    { register := "LOCK", field := { name := "KEY", bits := .bit 10 } }]
  lockRelations := [
    { locker := "LOCK[3]", locked := "DATA" },
    { locker := "LOCK.KEY", locked := "DATA.NEW" },
    { locker := "LOCK", locked := "DATA.OLD" }]

/-- The registers that `listed` describes. -/
def listedRegisters : List Register := [
  { name := "LOCK", type := .lockField
    fields := [{ name := "KEY", bits := ⟨10, 10, by decide, by decide⟩ }] },
  { name := "DATA", lockedBy := [⟨"LOCK", .bit 0⟩, ⟨"LOCK", .bit 3⟩]
    fields := [
      { name := "OLD", bits := ⟨30, 24, by decide, by decide⟩, lockedBy := [⟨"LOCK", .bit 0⟩] },
      { name := "NEW", bits := ⟨22, 16, by decide, by decide⟩
        lockedBy := [⟨"LOCK", .field "KEY"⟩] }] }]

example : listed.inlined.registers.map RegisterEntry.lockedBy =
    [none, some (.many ["LOCK", "LOCK[3]"])] := by decide

theorem resolve_inlined_listed :
    listed.registerNames.Nodup ∧
      listed.resolve = .ok ⟨{ moduleName := "regs", registers := listedRegisters }, false⟩ ∧
        listed.inlined.resolve =
          .ok ⟨{ moduleName := "regs", registers := listedRegisters }, false⟩ :=
  have hdistinct : listed.registerNames.Nodup := by decide
  have hresolve : listed.resolve =
      .ok ⟨{ moduleName := "regs", registers := listedRegisters }, false⟩ := by decide +kernel
  ⟨hdistinct, hresolve, resolve_inlined hdistinct hresolve⟩

end Document

end RegisterFile

