import RegisterFile.Proofs.Json.Text

/-!
JSON values survive their text: what `compact` writes is read as the value's tree. Only numbers out
of the range of doubles would not be.
-/

namespace RegisterFile.Json

mutual

/-- The tree of a value. -/
def toNode : Json → Node
  | null => .scalar (.ofKind .null none)
  | bool value => .scalar (.ofKind (.bool value) none)
  | natural n => .scalar (.ofKind (.natural n) none)
  | string s => .ofString s
  | array items => .sequence (toNodes items)
  | object members => .mapping (toEntries members)

/-- The trees of the elements of an array. -/
def toNodes : List Json → List Node
  | [] => []
  | item :: rest => item.toNode :: toNodes rest

/-- The trees of the members of an object. -/
def toEntries : List (String × Json) → List (Node × Node)
  | [] => []
  | (key, value) :: rest => (.ofString key, value.toNode) :: toEntries rest

end

/-- A value whose numbers are readable as doubles. -/
inductive Moderate : Json → Prop where
  | null : Moderate null
  | bool (value : Bool) : Moderate (bool value)
  | natural {n : Nat} (hn : (Decimal.mk n 0).isDouble = true) : Moderate (natural n)
  | string (s : String) : Moderate (string s)
  | array {items : List Json} (hitems : ∀ item ∈ items, Moderate item) : Moderate (array items)
  | object {members : List (String × Json)} (hmembers : ∀ member ∈ members, Moderate member.2) :
    Moderate (object members)

/-! ### The start of a text -/

theorem skipSpace_cons {c : Char} (hc : isSpace c = false) (cs : List Char) :
    skipSpace (c :: cs) = c :: cs := by
  rw [skipSpace, List.dropWhile_cons_of_neg (by simpa using hc)]

theorem ne_of_isDigit {c other : Char} (hc : c.isDigit = true) (hother : other.isDigit = false) :
    c ≠ other := by
  rintro rfl
  rw [hc] at hother
  cases hother

theorem isSpace_of_isDigit {c : Char} (hc : c.isDigit = true) : isSpace c = false := by
  have hne : ∀ other : Char, other.isDigit = false → c ≠ other :=
    fun _ hother => ne_of_isDigit hc hother
  simp [isSpace, hne ' ' (by decide), hne '\t' (by decide), hne '\n' (by decide),
    hne '\r' (by decide)]

/-- A number starts with a digit. -/
theorem decimal_eq_cons (n : Nat) :
    ∃ c cs, Numeral.decimal n = c :: cs ∧ c.isDigit = true := by
  obtain ⟨c, cs, heq⟩ := List.exists_cons_of_ne_nil (Numeral.decimal_ne_nil n)
  refine ⟨c, cs, heq, Numeral.isDigit_of_mem_decimal (n := n) ?_⟩
  rw [heq]
  exact List.mem_cons_self

/-- No value starts with white space or with a bracket that closes an array. -/
theorem chars_eq_cons (json : Json) :
    ∃ c cs, json.chars = c :: cs ∧ isSpace c = false ∧ c ≠ ']' := by
  cases json with
  | null => exact ⟨_, _, rfl, by decide, by decide⟩
  | bool value => cases value <;> exact ⟨_, _, rfl, by decide, by decide⟩
  | natural n =>
    obtain ⟨c, cs, heq, hc⟩ := decimal_eq_cons n
    exact ⟨c, cs, heq, isSpace_of_isDigit hc, ne_of_isDigit hc (by decide)⟩
  | string s => exact ⟨_, _, rfl, by decide, by decide⟩
  | array items => exact ⟨_, _, rfl, by decide, by decide⟩
  | object members => exact ⟨_, _, rfl, by decide, by decide⟩

theorem length_chars_pos (json : Json) : 0 < json.chars.length := by
  obtain ⟨c, cs, heq, -⟩ := chars_eq_cons json
  rw [heq]
  exact Nat.succ_pos _

/-! ### Values -/

/-- A value is read back in front of anything that may follow it. -/
def Reads (json : Json) : Prop :=
  ∀ fuel rest, json.chars.length ≤ fuel → Ends rest →
    value? fuel (json.chars ++ rest) = some (json.toNode, rest)

/-- The first unit of fuel is there, as no text is empty. -/
theorem Reads.of_succ {json : Json}
    (hreads : ∀ fuel rest, json.chars.length ≤ fuel + 1 → Ends rest →
      value? (fuel + 1) (json.chars ++ rest) = some (json.toNode, rest)) : Reads json := by
  intro fuel rest hfuel hrest
  have hpos := length_chars_pos json
  obtain ⟨fuel, rfl⟩ := Nat.exists_eq_add_of_le' (Nat.le_trans hpos hfuel)
  exact hreads fuel rest hfuel hrest

theorem reads_null : Reads null := by
  apply Reads.of_succ
  intro fuel rest _ _
  rw [value?]
  rfl

theorem reads_bool (value : Bool) : Reads (bool value) := by
  apply Reads.of_succ
  intro fuel rest _ _
  rw [value?]
  cases value <;> rfl

theorem word?_of_isDigit {c : Char} (hc : c.isDigit = true) (cs : List Char) :
    word? (c :: cs) = none := by
  unfold word?
  split
  · next heq => exact absurd (List.cons.inj heq).1 (ne_of_isDigit hc (by decide))
  · next heq => exact absurd (List.cons.inj heq).1 (ne_of_isDigit hc (by decide))
  · next heq => exact absurd (List.cons.inj heq).1 (ne_of_isDigit hc (by decide))
  · rfl

theorem reads_natural {n : Nat} (hn : (Decimal.mk n 0).isDouble = true) : Reads (natural n) := by
  apply Reads.of_succ
  intro fuel rest _ hrest
  obtain ⟨c, cs, heq, hc⟩ := decimal_eq_cons n
  have hnumber := number?_decimal hn hrest
  rw [chars, value?, heq, List.cons_append, skipSpace_cons (isSpace_of_isDigit hc)]
  rw [heq, List.cons_append] at hnumber
  split
  · next heq => exact absurd (List.cons.inj heq).1 (ne_of_isDigit hc (by decide))
  · next heq => exact absurd (List.cons.inj heq).1 (ne_of_isDigit hc (by decide))
  · next heq => exact absurd (List.cons.inj heq).1 (ne_of_isDigit hc (by decide))
  · rw [word?_of_isDigit hc, hnumber]
    rfl

theorem reads_string (s : String) : Reads (string s) := by
  apply Reads.of_succ
  intro fuel rest _ _
  obtain ⟨hpieces, htext⟩ := pieces?_quoted s rest
  rw [value?, chars, quoted, List.cons_append, skipSpace_cons (by decide)]
  simp only [List.append_assoc, List.singleton_append, hpieces]
  show some (Node.scalar (ofPieces _), rest) = _
  rw [htext]
  rfl

/-! ### Collections -/

theorem ends_cons {c : Char} (hc : c = ',' ∨ c = ']' ∨ c = '\x7d') (rest : List Char) :
    Ends (c :: rest) := by
  intro other hother
  obtain rfl := Option.some.inj hother
  exact hc

theorem charsOfItems_cons_cons (item next : Json) (more : List Json) :
    charsOfItems (item :: next :: more) = item.chars ++ ',' :: charsOfItems (next :: more) :=
  rfl

/-- The last element is read with the bracket behind it. -/
theorem items?_last {fuel : Nat} {cs rest : List Char} {item : Node}
    (hitem : value? fuel cs = some (item, ']' :: rest)) :
    items? (fuel + 1) cs = some ([item], rest) := by
  rw [items?, hitem]
  simp [skipSpace_cons (by decide : isSpace ']' = false)]

/-- Any other element is read with the comma behind it, and before those that follow. -/
theorem items?_more {fuel : Nat} {cs more rest : List Char} {item : Node} {items : List Node}
    (hitem : value? fuel cs = some (item, ',' :: more))
    (hmore : items? fuel more = some (items, rest)) :
    items? (fuel + 1) cs = some (item :: items, rest) := by
  rw [items?, hitem]
  simp [skipSpace_cons (by decide : isSpace ',' = false), hmore]

/-- The elements of an array need no more fuel than they have characters. -/
theorem items?_charsOfItems {items : List Json} (hitems : ∀ item ∈ items, Reads item)
    (hne : items ≠ []) {fuel : Nat} (hfuel : (charsOfItems items).length ≤ fuel)
    (rest : List Char) : items? fuel (charsOfItems items ++ rest) = some (toNodes items, rest) := by
  induction items generalizing fuel with
  | nil => exact absurd rfl hne
  | cons item more ih =>
    have hitem := hitems item List.mem_cons_self
    cases more with
    | nil =>
      simp only [charsOfItems, List.length_append, List.length_singleton] at hfuel
      obtain ⟨fuel, rfl⟩ := Nat.exists_eq_add_of_le' (Nat.le_trans (by omega : 1 ≤ _) hfuel)
      rw [charsOfItems, List.append_assoc]
      exact items?_last (hitem fuel _ (by omega) (ends_cons (.inr (.inl rfl)) rest))
    | cons next more =>
      have hends := ends_cons (.inl rfl) (charsOfItems (next :: more) ++ rest)
      simp only [charsOfItems, List.length_append, List.length_cons] at hfuel
      obtain ⟨fuel, rfl⟩ := Nat.exists_eq_add_of_le' (Nat.le_trans (by omega : 1 ≤ _) hfuel)
      have hmore : items? fuel (charsOfItems (next :: more) ++ rest) =
          some (toNodes (next :: more), rest) :=
        ih (fun other hother => hitems other (List.mem_cons_of_mem _ hother))
          (List.cons_ne_nil _ _) (by omega)
      rw [charsOfItems_cons_cons, List.append_assoc]
      exact items?_more (hitem fuel _ (by omega) hends) hmore

theorem charsOfMembers_singleton (key : String) (value : Json) :
    charsOfMembers [(key, value)] = quoted key ++ ':' :: (value.chars ++ ['\x7d']) :=
  List.append_assoc ..

theorem charsOfMembers_cons_cons (key : String) (value : Json) (next : String × Json)
    (more : List (String × Json)) :
    charsOfMembers ((key, value) :: next :: more) =
      quoted key ++ ':' :: (value.chars ++ ',' :: charsOfMembers (next :: more)) := by
  rw [charsOfMembers]
  · simp
  · exact List.cons_ne_nil _ _

/-- The last member is read with the brace behind it. -/
theorem entries?_last {fuel : Nat} {key : String} {cs rest : List Char} {value : Node}
    (hvalue : value? fuel cs = some (value, '\x7d' :: rest)) :
    entries? (fuel + 1) (quoted key ++ ':' :: cs) = some ([(.ofString key, value)], rest) := by
  obtain ⟨hpieces, htext⟩ := pieces?_quoted key (':' :: cs)
  rw [entries?, quoted, List.cons_append, skipSpace_cons (by decide)]
  simp only [List.append_assoc, List.singleton_append, hpieces]
  simp [skipSpace_cons (by decide : isSpace ':' = false), hvalue,
    skipSpace_cons (by decide : isSpace '\x7d' = false), htext, Node.ofString]

/-- Any other member is read with the comma behind it, and before those that follow. -/
theorem entries?_more {fuel : Nat} {key : String} {cs more rest : List Char} {value : Node}
    {entries : List (Node × Node)} (hvalue : value? fuel cs = some (value, ',' :: more))
    (hmore : entries? fuel more = some (entries, rest)) :
    entries? (fuel + 1) (quoted key ++ ':' :: cs) =
      some ((.ofString key, value) :: entries, rest) := by
  obtain ⟨hpieces, htext⟩ := pieces?_quoted key (':' :: cs)
  rw [entries?, quoted, List.cons_append, skipSpace_cons (by decide)]
  simp only [List.append_assoc, List.singleton_append, hpieces]
  simp [skipSpace_cons (by decide : isSpace ':' = false), hvalue,
    skipSpace_cons (by decide : isSpace ',' = false), hmore, htext, Node.ofString]

/-- So do the members of an object. -/
theorem entries?_charsOfMembers {members : List (String × Json)}
    (hmembers : ∀ member ∈ members, Reads member.2) (hne : members ≠ []) {fuel : Nat}
    (hfuel : (charsOfMembers members).length ≤ fuel) (rest : List Char) :
    entries? fuel (charsOfMembers members ++ rest) = some (toEntries members, rest) := by
  induction members generalizing fuel with
  | nil => exact absurd rfl hne
  | cons member more ih =>
    obtain ⟨key, value⟩ := member
    have hvalue : Reads value := hmembers _ List.mem_cons_self
    cases more with
    | nil =>
      simp only [charsOfMembers_singleton, List.length_append, List.length_cons] at hfuel
      obtain ⟨fuel, rfl⟩ := Nat.exists_eq_add_of_le' (Nat.le_trans (by omega : 1 ≤ _) hfuel)
      rw [charsOfMembers_singleton, List.append_assoc, List.cons_append, List.append_assoc]
      exact entries?_last (hvalue fuel _ (by omega) (ends_cons (.inr (.inr rfl)) rest))
    | cons next more =>
      have hends := ends_cons (.inl rfl) (charsOfMembers (next :: more) ++ rest)
      simp only [charsOfMembers_cons_cons, List.length_append, List.length_cons] at hfuel
      obtain ⟨fuel, rfl⟩ := Nat.exists_eq_add_of_le' (Nat.le_trans (by omega : 1 ≤ _) hfuel)
      have hmore : entries? fuel (charsOfMembers (next :: more) ++ rest) =
          some (toEntries (next :: more), rest) :=
        ih (fun other hother => hmembers other (List.mem_cons_of_mem _ hother))
          (List.cons_ne_nil _ _) (by omega)
      rw [charsOfMembers_cons_cons, List.append_assoc, List.cons_append, List.append_assoc]
      exact entries?_more (hvalue fuel _ (by omega) hends) hmore

theorem charsOfItems_eq_cons (item : Json) (more : List Json) :
    ∃ c cs, charsOfItems (item :: more) = c :: cs ∧ isSpace c = false ∧ c ≠ ']' := by
  obtain ⟨c, cs, heq, hc⟩ := chars_eq_cons item
  cases more with
  | nil => exact ⟨c, cs ++ [']'], by rw [charsOfItems, heq, List.cons_append], hc⟩
  | cons next more =>
    exact ⟨c, cs ++ ',' :: charsOfItems (next :: more),
      by rw [charsOfItems_cons_cons, heq, List.cons_append], hc⟩

theorem reads_array {items : List Json} (hitems : ∀ item ∈ items, Reads item) :
    Reads (array items) := by
  apply Reads.of_succ
  intro fuel rest hfuel hrest
  rw [value?, chars, List.cons_append, skipSpace_cons (by decide)]
  cases items with
  | nil => rfl
  | cons item more =>
    have hread :=
      items?_charsOfItems hitems (List.cons_ne_nil _ _) (Nat.le_of_succ_le_succ hfuel) rest
    obtain ⟨c, cs, heq, hspace, hbracket⟩ := charsOfItems_eq_cons item more
    rw [heq, List.cons_append] at hread
    simp only [heq, List.cons_append, skipSpace_cons hspace]
    split
    · next heq => exact absurd (List.cons.inj heq).1 hbracket
    · rw [hread]
      rfl

theorem charsOfMembers_eq_cons (member : String × Json) (more : List (String × Json)) :
    ∃ cs, charsOfMembers (member :: more) = '"' :: cs := by
  obtain ⟨key, value⟩ := member
  cases more with
  | nil => exact ⟨_, charsOfMembers_singleton key value⟩
  | cons next more => exact ⟨_, charsOfMembers_cons_cons key value next more⟩

theorem reads_object {members : List (String × Json)}
    (hmembers : ∀ member ∈ members, Reads member.2) : Reads (object members) := by
  apply Reads.of_succ
  intro fuel rest hfuel hrest
  rw [value?, chars, List.cons_append, skipSpace_cons (by decide)]
  cases members with
  | nil => rfl
  | cons member more =>
    have hread :=
      entries?_charsOfMembers hmembers (List.cons_ne_nil _ _) (Nat.le_of_succ_le_succ hfuel) rest
    obtain ⟨cs, heq⟩ := charsOfMembers_eq_cons member more
    rw [heq, List.cons_append] at hread
    simp only [heq, List.cons_append, skipSpace_cons (by decide : isSpace '"' = false)]
    split
    · next heq => exact absurd (List.cons.inj heq).1 (by decide)
    · rw [hread]
      rfl

/-- Every value is read back whose numbers are readable. -/
theorem Moderate.reads {json : Json} (hjson : Moderate json) : Reads json := by
  induction hjson with
  | null => exact reads_null
  | bool value => exact reads_bool value
  | natural hn => exact reads_natural hn
  | string s => exact reads_string s
  | array _ ih => exact reads_array ih
  | object _ ih => exact reads_object ih

/-- JSON text without white space is read as the value that it was written for. -/
theorem read?_compact {json : Json} (hjson : Moderate json) :
    read? json.compact = some json.toNode := by
  have hends : Ends [] := fun _ hc => by cases hc
  have hvalue := hjson.reads (2 * json.chars.length + 2) [] (by omega) hends
  rw [List.append_nil] at hvalue
  rw [read?, compact, String.toList_ofList, hvalue]
  rfl

end RegisterFile.Json
