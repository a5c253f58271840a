import Mathlib
import RegisterFile.FileTree

/-!
What writing does to a file tree. A path leads to one place, as there are no links. A write puts its
text there; whether it succeeds or not, directories stay directories and all other files keep their
contents. After several writes a place holds what was last written to it.
-/

namespace RegisterFile.FileTree

variable {tree after : FileTree} {path text name : String} {here there place : List String}

/-! ### Places -/

/-- The place one name further down a path. -/
def descend (here : List String) (name : String) : List String :=
  if name = ".." then here.dropLast else here ++ [name]

/-- The place that a path leads to, whether or not anything stands on the way. -/
def placeOf (tree : FileTree) (path : String) : List String :=
  (names path).foldl descend (tree.start path)

/-- The last name of a path is that of its file. -/
theorem names_eq_append (hname : fileName? path = some name) :
    names path = parents path ++ [name] ∧ name ≠ ".." := by
  obtain ⟨hlast, hproper⟩ := Option.filter_eq_some_iff.mp hname
  obtain ⟨front, hfront⟩ := List.getLast?_eq_some_iff.mp hlast
  have hne : name ≠ "" ∧ name ≠ "." ∧ name ≠ ".." := by
    simpa [and_assoc] using hproper
  have hnames : names path = (front.filter fun name => name != "" && name != ".") ++ [name] := by
    simp [names, hfront, hne.1, hne.2.1]
  exact ⟨by rw [parents, hnames, List.dropLast_concat], hne.2.2⟩

theorem placeOf_eq (hname : fileName? path = some name) :
    tree.placeOf path = (parents path).foldl descend (tree.start path) ++ [name] := by
  obtain ⟨hnames, hne⟩ := names_eq_append hname
  rw [placeOf, hnames, List.foldl_append, List.foldl_cons, List.foldl_nil, descend, if_neg hne]

/-! ### Entries -/

theorem lookup?_put (hplace : place ≠ []) (entry : Entry) (other : List String) :
    (tree.put place entry).lookup? other =
      if other = place then some entry else tree.lookup? other := by
  by_cases hroot : other = []
  · rw [if_neg (hroot ▸ hplace.symm), hroot]
    rfl
  · have hnotEmpty : ¬ other.isEmpty = true := by simpa using hroot
    rw [lookup?, if_neg hnotEmpty, lookup?, if_neg hnotEmpty, put, List.find?_cons]
    by_cases hsame : other = place
    · subst hsame
      simp
    · have hskip : ∀ entry : List String × Entry,
          decide ((entry.1 != place) = true ∧ (entry.1 == other) = true) = (entry.1 == other) := by
        intro entry
        by_cases hother : entry.1 = other
        · simp [hother, hsame]
        · simp [hother]
      simp only [if_neg hsame, beq_eq_false_iff_ne.mpr (Ne.symm hsame), List.find?_filter, hskip]

/-- A file put somewhere is the one new content. -/
theorem file?_put_file (hplace : place ≠ []) (content : List UInt8) (other : List String) :
    (tree.put place (.file content)).file? other =
      if other = place then some content else tree.file? other := by
  rw [file?, lookup?_put hplace]
  by_cases hsame : other = place
  · rw [if_pos hsame, if_pos hsame]
  · rw [if_neg hsame, if_neg hsame, file?]

/-- A new directory changes no file. -/
theorem file?_put_directory (hplace : place ≠ []) (hnone : tree.lookup? place = none)
    (other : List String) : (tree.put place .directory).file? other = tree.file? other := by
  rw [file?, lookup?_put hplace]
  by_cases hsame : other = place
  · rw [if_pos hsame, file?, hsame, hnone]
  · rw [if_neg hsame, file?]

/-- What never changes: the directories that are there, where paths start and what is closed. -/
structure Extends (before after : FileTree) : Prop where
  working : after.working = before.working
  closed : after.closed = before.closed
  directories : ∀ place, before.lookup? place = some .directory →
    after.lookup? place = some .directory

namespace Extends

theorem refl (tree : FileTree) : Extends tree tree :=
  ⟨rfl, rfl, fun _ => id⟩

theorem trans {first second third : FileTree} (hfirst : Extends first second)
    (hsecond : Extends second third) : Extends first third :=
  ⟨hsecond.working.trans hfirst.working, hsecond.closed.trans hfirst.closed,
    fun place h => hsecond.directories place (hfirst.directories place h)⟩

theorem put (hplace : place ≠ []) {entry : Entry}
    (hentry : tree.lookup? place = some .directory → entry = .directory) :
    Extends tree (tree.put place entry) where
  working := rfl
  closed := rfl
  directories := by
    intro other hother
    rw [lookup?_put hplace]
    split
    · next hsame => rw [hentry (hsame ▸ hother)]
    · exact hother

theorem start (hextends : Extends tree after) (path : String) :
    after.start path = tree.start path := by
  rw [FileTree.start, FileTree.start, hextends.working]

theorem placeOf (hextends : Extends tree after) (path : String) :
    after.placeOf path = tree.placeOf path := by
  rw [FileTree.placeOf, FileTree.placeOf, hextends.start]

theorem enter? (hextends : Extends tree after) (henter : tree.enter? here name = some there) :
    after.enter? here name = some there := by
  simp only [FileTree.enter?] at henter ⊢
  rw [hextends.closed]
  split_ifs at henter with hup hclosed hdirectory
  · rwa [if_pos hup]
  · rwa [if_neg hup, if_neg hclosed, if_pos (hextends.directories _ hdirectory)]

theorem foldlM_enter? (hextends : Extends tree after) {names : List String}
    (henter : names.foldlM tree.enter? here = some there) :
    names.foldlM after.enter? here = some there := by
  induction names generalizing here with
  | nil => exact henter
  | cons name rest ih =>
    obtain ⟨next, hnext, hrest⟩ := Option.bind_eq_some_iff.mp henter
    exact Option.bind_eq_some_iff.mpr ⟨next, hextends.enter? hnext, ih hrest⟩

end Extends

/-! ### Ways -/

theorem enter?_eq_some (henter : tree.enter? here name = some there) :
    there = descend here name := by
  simp only [enter?] at henter
  rw [descend]
  split_ifs at henter ⊢ with hup hclosed hdirectory
  · exact (Option.some.inj henter).symm
  · exact (Option.some.inj henter).symm

theorem foldlM_enter?_eq_some {names : List String}
    (henter : names.foldlM tree.enter? here = some there) : there = names.foldl descend here := by
  induction names generalizing here with
  | nil => exact (Option.some.inj henter).symm
  | cons name rest ih =>
    obtain ⟨next, hnext, hrest⟩ := Option.bind_eq_some_iff.mp henter
    rw [List.foldl_cons, ← enter?_eq_some hnext]
    exact ih hrest

/-- A path leads through existing directories to a place that is not closed. -/
def Leads (tree : FileTree) (path : String) : Prop :=
  ∃ name here, fileName? path = some name ∧
    (parents path).foldlM tree.enter? (tree.start path) = some here ∧ here ++ [name] ∉ tree.closed

theorem Leads.mono (hleads : tree.Leads path) (hextends : Extends tree after) :
    after.Leads path := by
  obtain ⟨name, here, hname, hway, hopen⟩ := hleads
  refine ⟨name, here, hname, ?_, hextends.closed ▸ hopen⟩
  rw [hextends.start]
  exact hextends.foldlM_enter? hway

/-- Such a path is read at its place. -/
theorem Leads.read? (hleads : tree.Leads path) :
    tree.read? path = tree.file? (tree.placeOf path) := by
  obtain ⟨name, here, hname, hway, hopen⟩ := hleads
  rw [placeOf_eq hname, ← foldlM_enter?_eq_some hway]
  simp [FileTree.read?, hname, hway, hopen]

/-! ### Steps -/

/-- A tree in which only directories are new. -/
structure Grown (before after : FileTree) : Prop extends Extends before after where
  files : ∀ place, after.file? place = before.file? place

theorem Grown.refl (tree : FileTree) : Grown tree tree :=
  ⟨.refl tree, fun _ => rfl⟩

theorem Grown.trans {first second third : FileTree} (hfirst : Grown first second)
    (hsecond : Grown second third) : Grown first third :=
  ⟨hfirst.toExtends.trans hsecond.toExtends,
    fun place => (hsecond.files place).trans (hfirst.files place)⟩

theorem grown_makeDirectory (tree : FileTree) (here : List String) (name : String) :
    Grown tree (tree.makeDirectory here name).1 := by
  have hplace : here ++ [name] ≠ [] := by simp
  dsimp only [makeDirectory]
  split
  · next hmissing =>
    have hnone : tree.lookup? (here ++ [name]) = none := by
      simp only [Bool.and_eq_true, Option.isNone_iff_eq_none] at hmissing
      exact hmissing.2
    exact ⟨.put hplace fun _ => rfl, file?_put_directory hplace hnone⟩
  · exact .refl tree

/-- The directories on a way are made, and then the way leads through them. -/
theorem grown_makeDirectories (tree : FileTree) (here : List String) (names : List String) :
    Grown tree (tree.makeDirectories here names).1 ∧
      ∀ there, (tree.makeDirectories here names).2 = some there →
        names.foldlM (tree.makeDirectories here names).1.enter? here = some there := by
  induction names generalizing tree here with
  | nil => exact ⟨.refl tree, fun there h => h⟩
  | cons name rest ih =>
    have hgrown := grown_makeDirectory tree here name
    have henter : (tree.makeDirectory here name).2 =
        (tree.makeDirectory here name).1.enter? here name := rfl
    rw [makeDirectories]
    generalize tree.makeDirectory here name = made at hgrown henter
    obtain ⟨next, reached⟩ := made
    cases reached with
    | none => exact ⟨hgrown, fun there h => by cases h⟩
    | some there =>
      obtain ⟨hrest, hway⟩ := ih next there
      refine ⟨hgrown.trans hrest, fun last hlast => ?_⟩
      exact Option.bind_eq_some_iff.mpr
        ⟨there, hrest.toExtends.enter? henter.symm, hway last hlast⟩

/-- What a write can do: it makes directories, and then it stops or puts its text at the end of a
    way through directories. -/
theorem write_cases {done : Bool} (hwrite : tree.write path text = (after, done)) :
    ∃ made, Grown tree made ∧
      ((done = false ∧ after = made) ∨
        (done = true ∧ ∃ name here, fileName? path = some name ∧
          (parents path).foldlM made.enter? (tree.start path) = some here ∧
          here ++ [name] ∉ made.closed ∧ made.lookup? (here ++ [name]) ≠ some .directory ∧
          after = made.put (here ++ [name]) (.file (encode text)))) := by
  obtain ⟨hgrown, hway⟩ := grown_makeDirectories tree (tree.start path) (parents path)
  unfold write at hwrite
  generalize tree.makeDirectories (tree.start path) (parents path) = made at hgrown hway hwrite
  obtain ⟨made, reached⟩ := made
  refine ⟨made, hgrown, ?_⟩
  cases reached with
  | none =>
    obtain ⟨rfl, rfl⟩ := Prod.mk.inj hwrite
    exact .inl ⟨rfl, rfl⟩
  | some here =>
    cases hname : fileName? path with
    | none =>
      rw [hname] at hwrite
      obtain ⟨rfl, rfl⟩ := Prod.mk.inj hwrite
      exact .inl ⟨rfl, rfl⟩
    | some name =>
      rw [hname] at hwrite
      simp only [writeFile] at hwrite
      by_cases hclosed : here ++ [name] ∈ made.closed
      · rw [if_pos (by simpa using hclosed)] at hwrite
        obtain ⟨rfl, rfl⟩ := Prod.mk.inj hwrite
        exact .inl ⟨rfl, rfl⟩
      · rw [if_neg (by simpa using hclosed)] at hwrite
        by_cases hdirectory : made.lookup? (here ++ [name]) = some .directory
        · rw [if_pos hdirectory] at hwrite
          obtain ⟨rfl, rfl⟩ := Prod.mk.inj hwrite
          exact .inl ⟨rfl, rfl⟩
        · rw [if_neg hdirectory] at hwrite
          obtain ⟨rfl, rfl⟩ := Prod.mk.inj hwrite
          exact .inr ⟨rfl, name, here, rfl, hway here rfl, hclosed, hdirectory, rfl⟩

/-- A write that succeeds puts its text at its place, where it can be read, and changes no other
    file. -/
theorem write_eq_true (hwrite : tree.write path text = (after, true)) :
    Extends tree after ∧ after.Leads path ∧
      ∀ place, after.file? place =
        if place = tree.placeOf path then some (encode text) else tree.file? place := by
  obtain ⟨made, hgrown, ⟨hfalse, -⟩ | ⟨-, name, here, hname, hway, hopen, hdirectory, rfl⟩⟩ :=
    write_cases hwrite
  · cases hfalse
  · have hplace : here ++ [name] ≠ [] := by simp
    have hput : Extends made (made.put (here ++ [name]) (.file (encode text))) :=
      .put hplace fun h => absurd h hdirectory
    refine ⟨hgrown.toExtends.trans hput, ⟨name, here, hname, ?_, hopen⟩, fun place => ?_⟩
    · rw [hput.start, hgrown.start]
      exact hput.foldlM_enter? hway
    · rw [file?_put_file hplace, placeOf_eq hname, ← foldlM_enter?_eq_some hway, hgrown.files]

/-- A write that fails changes no file. -/
theorem write_eq_false (hwrite : tree.write path text = (after, false)) : Grown tree after := by
  obtain ⟨made, hgrown, ⟨-, rfl⟩ | ⟨htrue, -⟩⟩ := write_cases hwrite
  · exact hgrown
  · cases htrue

/-! ### Runs -/

/-- The text that is last written to a place. -/
def lastText? (tree : FileTree) (writes : List (String × String)) (place : List String) :
    Option String :=
  ((writes.filter fun file => tree.placeOf file.1 == place).getLast?).map (·.2)

theorem lastText?_cons (file : String × String) (rest : List (String × String))
    (place : List String) : tree.lastText? (file :: rest) place =
      (tree.lastText? rest place).or
        (if place = tree.placeOf file.1 then some file.2 else none) := by
  by_cases hplace : place = tree.placeOf file.1
  · subst hplace
    simp only [lastText?, List.filter_cons, beq_self_eq_true, if_true, List.getLast?_cons]
    cases (rest.filter fun other => tree.placeOf other.1 == tree.placeOf file.1).getLast? <;> rfl
  · simp [lastText?, Ne.symm hplace, hplace]

theorem isSome_lastText? {writes : List (String × String)} {file : String × String}
    (hmem : file ∈ writes) : (tree.lastText? writes (tree.placeOf file.1)).isSome = true := by
  have hfilter : file ∈ writes.filter fun other => tree.placeOf other.1 == tree.placeOf file.1 :=
    List.mem_filter.mpr ⟨hmem, beq_self_eq_true _⟩
  rw [lastText?, Option.isSome_map, List.getLast?_isSome]
  exact List.ne_nil_of_mem hfilter

theorem Extends.lastText? (hextends : Extends tree after) (writes : List (String × String))
    (place : List String) : after.lastText? writes place = tree.lastText? writes place := by
  simp only [FileTree.lastText?, hextends.placeOf]

/-- What writes leave behind that all succeed: their paths lead to files, each place that was
    written to holds the last text, and all other files are as they were. -/
structure Written (before after : FileTree) (writes : List (String × String)) : Prop
    extends Extends before after where
  leads : ∀ file ∈ writes, after.Leads file.1
  files : ∀ place, after.file? place =
    ((before.lastText? writes place).map encode).or (before.file? place)

/-- Writes that all succeed, by induction on them: what the first one puts in its place stays there
    unless a later one goes to the same place. -/
theorem writeAll_eq_true {writes : List (String × String)}
    (hwrites : tree.writeAll writes = (after, true)) : Written tree after writes := by
  induction writes generalizing tree with
  | nil =>
    obtain ⟨rfl, -⟩ := Prod.mk.inj hwrites
    exact ⟨.refl tree, by simp, fun place => rfl⟩
  | cons file rest ih =>
    obtain ⟨path, text⟩ := file
    rw [writeAll] at hwrites
    cases hfirst : tree.write path text with
    | mk next done =>
      rw [hfirst] at hwrites
      cases done with
      | false => cases hwrites
      | true =>
        obtain ⟨hextends, hleads, hfiles⟩ := write_eq_true hfirst
        have hrest := ih hwrites
        refine ⟨hextends.trans hrest.toExtends, ?_, fun place => ?_⟩
        · exact List.forall_mem_cons.mpr ⟨hleads.mono hrest.toExtends, hrest.leads⟩
        · rw [hrest.files, hfiles, hextends.lastText?, lastText?_cons]
          cases tree.lastText? rest place with
          | some later => rfl
          | none =>
            by_cases hplace : place = tree.placeOf path
            · simp [hplace]
            · simp [hplace]

/-- Writes that do not all succeed: the first one that fails is the last one tried. -/
theorem writeAll_eq_false {writes : List (String × String)}
    (hwrites : tree.writeAll writes = (after, false)) :
    ∃ done file rest between, writes = done ++ file :: rest ∧
      tree.writeAll done = (between, true) ∧ between.write file.1 file.2 = (after, false) := by
  induction writes generalizing tree with
  | nil => cases hwrites
  | cons file rest ih =>
    rw [writeAll] at hwrites
    cases hfirst : tree.write file.1 file.2 with
    | mk next done =>
      rw [hfirst] at hwrites
      cases done with
      | false => exact ⟨[], file, rest, tree, rfl, rfl, hfirst.trans hwrites⟩
      | true =>
        obtain ⟨done, stopped, later, between, rfl, hdone, hstopped⟩ := ih hwrites
        refine ⟨file :: done, stopped, later, between, rfl, ?_, hstopped⟩
        rw [writeAll, hfirst]
        exact hdone

/-- A tree holds what was written: each path reads back the text that was last written to its place,
    and all files in other places are as they were. -/
structure Holds (before after : FileTree) (writes : List (String × String)) : Prop where
  reads : ∀ file ∈ writes, ∃ text, before.lastText? writes (before.placeOf file.1) = some text ∧
    after.read? file.1 = some (encode text)
  files : ∀ place, after.file? place =
    ((before.lastText? writes place).map encode).or (before.file? place)

namespace Written

variable {before : FileTree} {writes : List (String × String)}

theorem holds (hwritten : Written before after writes) : Holds before after writes where
  reads := by
    intro file hmem
    obtain ⟨text, htext⟩ := Option.isSome_iff_exists.mp (isSome_lastText? hmem)
    refine ⟨text, htext, ?_⟩
    rw [(hwritten.leads file hmem).read?, hwritten.placeOf, hwritten.files, htext]
    rfl
  files := hwritten.files

/-- A failing write on top changes nothing of what was written. -/
theorem grown (hwritten : Written before tree writes) (hgrown : Grown tree after) :
    Written before after writes where
  toExtends := hwritten.toExtends.trans hgrown.toExtends
  leads := fun file hmem => (hwritten.leads file hmem).mono hgrown.toExtends
  files := fun place => (hgrown.files place).trans (hwritten.files place)

end Written

end RegisterFile.FileTree
