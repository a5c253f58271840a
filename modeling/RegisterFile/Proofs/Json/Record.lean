import Mathlib.Data.List.Nodup
import RegisterFile.Node.Record
import RegisterFile.Proofs.Json.RoundTrip

/-!
Values and records read out of the trees of JSON values. A record that was written with its keys in
the order of its shape gives each field its own value.
-/

namespace RegisterFile

theorem mapM_eq_some {α β : Type} {items : List α} {f : α → Option β} {g : α → β}
    (hitems : ∀ item ∈ items, f item = some (g item)) : items.mapM f = some (items.map g) := by
  induction items with
  | nil => rfl
  | cons item rest ih =>
    rw [List.mapM_cons, hitems item List.mem_cons_self,
      ih fun other hother => hitems other (List.mem_cons_of_mem _ hother)]
    rfl

theorem mapM_eq_self {α : Type} {items : List α} {f : α → Option α}
    (hitems : ∀ item ∈ items, f item = some item) : items.mapM f = some items :=
  (@mapM_eq_some α α items f id hitems).trans (congrArg some items.map_id)

namespace Json

theorem toNodes_eq_map (items : List Json) : toNodes items = items.map toNode := by
  induction items with
  | nil => rfl
  | cons item rest ih => rw [toNodes, ih, List.map_cons]

theorem toEntries_eq_map (members : List (String × Json)) :
    toEntries members = members.map fun member => (.ofString member.1, member.2.toNode) := by
  induction members with
  | nil => rfl
  | cons member rest ih => rw [toEntries, ih, List.map_cons]

/-! ### Scalars -/

@[simp] theorem text?_toNode_string (s : String) : (string s).toNode.text? = some s :=
  rfl

@[simp] theorem bool?_toNode_bool (value : Bool) : (bool value).toNode.bool? = some value :=
  rfl

theorem natural?_toNode_natural {bound n : Nat} (hn : n < bound) :
    (natural n).toNode.natural? bound = some n :=
  if_pos hn

@[simp] theorem word32?_toNode_natural (n : UInt32) :
    (natural n.toNat).toNode.word32? = some n := by
  rw [Node.word32?, natural?_toNode_natural n.toNat_lt_size, Option.map_some, UInt32.ofNat_toNat]

@[simp] theorem word64?_toNode_natural (n : UInt64) :
    (natural n.toNat).toNode.word64? = some n := by
  rw [Node.word64?, natural?_toNode_natural n.toNat_lt_size, Option.map_some, UInt64.ofNat_toNat]

/-! ### Fields -/

@[simp] theorem required_some {α : Type} (read : Node → Option α) (node : Node) :
    required read (some node) = read node :=
  rfl

@[simp] theorem defaulting_some {α : Type} (default : α) (read : Node → Option α) (node : Node) :
    defaulting default read (some node) = read node :=
  rfl

/-- An optional value is null or written like one that is there. -/
theorem nullable_toNode {α : Type} {read : Node → Option α} {write : α → Json} {value : Option α}
    (hpresent : ∀ x, (write x).toNode.presence = .present)
    (hread : ∀ x ∈ value, read (write x).toNode = some x) :
    nullable read (some ((value.map write).getD .null).toNode) = some value := by
  cases value with
  | none => rfl
  | some x =>
    simp only [Option.map_some, Option.getD_some, nullable, hpresent x, hread x rfl]

theorem mapM_toNodes {α : Type} {read : Node → Option α} {write : α → Json} {items : List α}
    (hread : ∀ item ∈ items, read (write item).toNode = some item) :
    (toNodes (items.map write)).mapM read = some items := by
  rw [toNodes_eq_map, List.map_map, List.mapM_map]
  exact mapM_eq_self hread

theorem listOf_toNode {α : Type} {read : Node → Option α} {write : α → Json} {items : List α}
    (hread : ∀ item ∈ items, read (write item).toNode = some item) :
    listOf read (array (items.map write)).toNode = some items :=
  mapM_toNodes hread

end Json

/-! ### Records -/

namespace Shape

/-- The names under which fields are written: the first one of each. -/
def keys (shape : Shape) : List String :=
  shape.filterMap List.head?

/-- Of the names of each field one alone is among those under which fields are written. -/
def Apart (shape : Shape) : Prop :=
  (shape.map fun names => shape.keys.filter names.contains) = shape.keys.map fun key => [key]

instance (shape : Shape) : Decidable (Apart shape) :=
  inferInstanceAs (Decidable (_ = _))

end Shape

namespace Json

/-- Names of which one key alone is there give the value beside it. -/
theorem given?_of_filter {names : List String} {entries : List (String × Node)}
    {entry : String × Node} (hentry : entry ∈ entries)
    (hkeys : (entries.map Prod.fst).filter names.contains = [entry.1]) :
    Node.given? names entries = some (some entry.2) := by
  have hfound : entry ∈ entries.filter fun other => names.contains other.1 := by
    have hkey : entry.1 ∈ (entries.map Prod.fst).filter names.contains := by
      rw [hkeys]
      exact List.mem_singleton_self _
    exact List.mem_filter.mpr ⟨hentry, (List.mem_filter.mp hkey).2⟩
  have hmap : (entries.filter fun other => names.contains other.1).map Prod.fst = [entry.1] := by
    rw [← hkeys, List.filter_map]
    rfl
  obtain ⟨only, hone, -⟩ := List.map_eq_singleton_iff.mp hmap
  rw [hone, List.mem_singleton] at hfound
  rw [Node.given?, hone, hfound]

/-- Values under the keys of a shape are in their places. -/
theorem fieldsByName?_of_keys {entries : List (String × Node)} {shape : Shape}
    (hkeys : entries.map Prod.fst = shape.keys) (hapart : shape.Apart) :
    Node.fieldsByName? shape entries = some (entries.map fun entry => some entry.2) := by
  have hmapM : ∀ (shape : Shape) (fields : List (String × Node)), fields ⊆ entries →
      (shape.map fun names => (entries.map Prod.fst).filter names.contains) =
        (fields.map fun entry => [entry.1]) →
      shape.mapM (fun names => Node.given? names entries) =
        some (fields.map fun entry => some entry.2) := by
    intro shape
    induction shape with
    | nil =>
      intro fields _ hfields
      obtain rfl := List.map_eq_nil_iff.mp hfields.symm
      rfl
    | cons names rest ih =>
      intro fields hsubset hfields
      obtain ⟨entry, others, rfl, hentry, hothers⟩ := List.map_eq_cons_iff.mp hfields.symm
      obtain ⟨hmem, hsubset⟩ := List.cons_subset.mp hsubset
      rw [List.mapM_cons, given?_of_filter hmem hentry.symm, ih others hsubset hothers.symm]
      rfl
  refine hmapM shape entries (List.Subset.refl entries) ?_
  rw [hkeys, hapart, ← hkeys, List.map_map]
  rfl

theorem namedEntries?_object (shape : Shape) (members : List (String × Json)) :
    (object members).toNode.namedEntries? shape =
      some (members.map fun member => (member.1, member.2.toNode)) := by
  rw [toNode, toEntries_eq_map]
  show (members.map _).mapM _ = _
  rw [List.mapM_map]
  exact mapM_eq_some fun _ _ => rfl

/-- A record written under the keys of its shape has each value in its place. -/
theorem fields?_object_of_keys {members : List (String × Json)} {shape : Shape}
    (hkeys : members.map Prod.fst = shape.keys) (hapart : shape.Apart) :
    (object members).toNode.fields? shape =
      some (members.map fun member => some member.2.toNode) := by
  show (Node.namedEntries? _ _).bind _ = _
  rw [namedEntries?_object, Option.bind_some, fieldsByName?_of_keys _ hapart, List.map_map]
  · rfl
  · rw [← hkeys, List.map_map]
    rfl

/-- A record without aliases has each value in its place. -/
theorem fields?_object {members : List (String × Json)} {shape : Shape}
    (hshape : (members.map fun member => [member.1]) = shape) (hnodup : shape.Nodup) :
    (object members).toNode.fields? shape =
      some (members.map fun member => some member.2.toNode) := by
  subst hshape
  have hkeys : Shape.keys (members.map fun member => [member.1]) = members.map Prod.fst := by
    rw [Shape.keys, List.filterMap_map]
    exact congrFun List.filterMap_eq_map members
  have hdistinct : (members.map Prod.fst).Nodup := by
    apply List.Nodup.of_map fun key => [key]
    rwa [List.map_map]
  refine fields?_object_of_keys hkeys.symm ?_
  rw [Shape.Apart, hkeys, List.map_map, List.map_map]
  refine List.map_congr_left fun member hmember => ?_
  have hcount := List.count_eq_one_of_mem hdistinct (List.mem_map_of_mem (f := Prod.fst) hmember)
  have honly : ([member.1].contains : String → Bool) = (· == member.1) := by
    funext other
    rw [Bool.eq_iff_iff]
    simp
  rw [Function.comp_apply, honly, List.filter_beq, hcount]
  rfl

end Json

end RegisterFile
