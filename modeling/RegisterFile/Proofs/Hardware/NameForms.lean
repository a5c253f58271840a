import Mathlib.Data.List.Nodup
import RegisterFile.Proofs.Layout

/-!
The forms of generated names. They come in six families: fixed names of the protocol and the error
wires, further bus ports, ports to hardware, address constants, storage and written flags. First
letters and what stands behind the last underscore tell the families apart.
-/

namespace RegisterFile

namespace Hardware

/-! ### Parts of names -/

/-- What stands behind the last underscore of a name, read from its end. -/
def lastPart (name : String) : List Char :=
  name.toList.reverse.takeWhile (· != '_')

theorem lastPart_append {suffix : String} (hsuffix : '_' ∉ suffix.toList) (stem : String) :
    lastPart (stem ++ ("_" ++ suffix)) = suffix.toList.reverse := by
  have hall : ∀ c ∈ suffix.toList.reverse, (c != '_') = true := by
    intro c hc
    rw [bne_iff_ne]
    rintro rfl
    exact hsuffix (List.mem_reverse.mp hc)
  rw [lastPart, String.toList_append, String.toList_append, List.reverse_append,
    List.reverse_append, List.append_assoc, List.takeWhile_append_of_pos hall]
  simp

theorem toList_ident (name : String) : (ident name).toList = name.toList.map Char.toLower :=
  String.toList_map

theorem toLower_ne_A (c : Char) : c.toLower ≠ 'A' := by
  intro h
  unfold Char.toLower at h
  split at h
  · next hupper =>
    have hval := congrArg Char.val h
    have hnat := congrArg UInt32.toNat hval
    simp only [ge_iff_le, UInt32.le_iff_toNat_le] at hupper
    simp at hnat hupper
    omega
  · next hlower =>
    subst h
    exact hlower ⟨by decide, by decide⟩

/-! ### Families -/

/-- What a name stands for. -/
inductive Family where
  | fixed
  | furtherPort
  | hardwarePort
  | address
  | storage
  | flag
  deriving DecidableEq

/-- The family that a last part speaks for, if it is one of those that names are formed with. -/
def suffixFamily (last : List Char) : Option Family :=
  if last = ['g', 'e', 'r'] then some .storage
  else if last = ['n', 'e', 't', 't', 'i', 'r', 'w'] then some .flag
  else if last ∈ [['o'], ['i'], ['e', 'w'], ['e', 's', 'l', 'u', 'p']] then some .hardwarePort
  else none

/-- The family that the form of a name speaks for. -/
def family (name : String) : Family :=
  if name.toList.head? = some 'A' then .address
  else (suffixFamily (lastPart name)).getD
    (if name.toList.take 2 ∈ [['w', 'p'], ['r', 'p']] then .furtherPort else .fixed)

/-- Names of one family are none of another. -/
theorem disjoint_of_family {first second : List String} {a b : Family}
    (hfirst : ∀ name ∈ first, family name = a) (hsecond : ∀ name ∈ second, family name = b)
    (hne : a ≠ b) : ∀ x ∈ first, ∀ y ∈ second, x ≠ y := by
  rintro x hx _ hy rfl
  exact hne ((hfirst x hx).symm.trans (hsecond x hy))

/-- A name whose form starts with an identifier is no address constant. -/
theorem head_ident_append {name rest : String} (hrest : rest.toList.head? ≠ some 'A') :
    (ident name ++ rest).toList.head? ≠ some 'A' := by
  rw [String.toList_append, toList_ident]
  cases name.toList with
  | nil => exact hrest
  | cons c cs =>
    intro h
    exact toLower_ne_A c (Option.some.inj h)

theorem family_of_suffix {stem suffix : String} {kind : Family}
    (hstem : (stem ++ ("_" ++ suffix)).toList.head? ≠ some 'A') (hsuffix : '_' ∉ suffix.toList)
    (hkind : suffixFamily suffix.toList.reverse = some kind) :
    family (stem ++ ("_" ++ suffix)) = kind := by
  rw [family, if_neg hstem, lastPart_append hsuffix, hkind, Option.getD_some]

/-- Names formed from the identifier of a register. -/
theorem family_ident {name : String} {kind : Family} (suffix : String)
    (hsuffix : '_' ∉ suffix.toList)
    (hkind : suffixFamily suffix.toList.reverse = some kind) :
    family (ident name ++ ("_" ++ suffix)) = kind := by
  apply family_of_suffix ?_ hsuffix hkind
  apply head_ident_append
  simp

/-- Names formed from the identifiers of a register and a field. -/
theorem family_ident_ident {name field : String} {kind : Family}
    (suffix : String) (hsuffix : '_' ∉ suffix.toList)
    (hkind : suffixFamily suffix.toList.reverse = some kind) :
    family (ident name ++ "_" ++ ident field ++ ("_" ++ suffix)) = kind := by
  apply family_of_suffix ?_ hsuffix hkind
  rw [String.append_assoc, String.append_assoc]
  apply head_ident_append
  simp

/-! ### Further ports -/

/-- The name of a signal of a numbered port. -/
def numbered (kind : String) (i : Nat) (signal : String) : String :=
  kind ++ Nat.repr i ++ ("_" ++ signal)

theorem numbered_inj {kind : String} {i j : Nat} {signal other : String}
    (hsignal : '_' ∉ signal.toList) (hother : '_' ∉ other.toList)
    (heq : numbered kind i signal = numbered kind j other) : i = j ∧ signal = other := by
  -- The part after the last underscore is the signal, and what stands before it is the number.
  have hlast := congrArg lastPart heq
  rw [numbered, numbered, lastPart_append hsignal, lastPart_append hother] at hlast
  obtain rfl : signal = other := String.toList_inj.mp (List.reverse_inj.mp hlast)
  refine ⟨?_, rfl⟩
  have hdigits := congrArg String.toList heq
  simp only [numbered, String.toList_append, List.append_cancel_right_eq,
    List.append_cancel_left_eq, Nat.toList_repr] at hdigits
  rw [← Nat.ofDigitChars_ten_toDigits (n := i), hdigits, Nat.ofDigitChars_ten_toDigits]

theorem nodup_numbered {kind : String} {numbers : List Nat} {signals : List String}
    (hnumbers : numbers.Nodup) (hsignals : signals.Nodup)
    (hplain : ∀ signal ∈ signals, '_' ∉ signal.toList) :
    (numbers.flatMap fun i => signals.map (numbered kind i)).Nodup := by
  rw [List.nodup_flatMap]
  constructor
  · intro i _
    apply List.Nodup.map_on ?_ hsignals
    intro signal hsignal other hother heq
    exact (numbered_inj (hplain signal hsignal) (hplain other hother) heq).2
  · refine hnumbers.imp fun hne => ?_
    intro name hfirst hsecond
    obtain ⟨signal, hsignal, rfl⟩ := List.mem_map.mp hfirst
    obtain ⟨other, hother, heq⟩ := List.mem_map.mp hsecond
    exact hne (numbered_inj (hplain other hother) (hplain signal hsignal) heq).1.symm

end Hardware

end RegisterFile
