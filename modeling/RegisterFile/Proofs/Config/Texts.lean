import RegisterFile.Bus.OptionsText
import RegisterFile.Config
import RegisterFile.Proofs.Text.Identifier
import RegisterFile.Proofs.Text.Trim

/-!
The texts for the parts of a register file read back: names of types, hints, protocols and options,
bit ranges and lock references. A lock on bit 0 goes without an index, so its text is that of the
register, and it reads back only if that has no bracket and no point in it.
-/

namespace RegisterFile

theorem RegisterType.ofText?_name (type : RegisterType) : ofText? type.name = some type := by
  cases type <;> decide

theorem AccessHint.ofText?_name (hint : AccessHint) : ofText? hint.name = some hint := by
  cases hint <;> decide

namespace Bus

theorem Protocol.ofText?_name (protocol : Protocol) : ofText? protocol.name = some protocol := by
  cases protocol <;> decide

theorem ErrorResponse.ofName?_name (response : ErrorResponse) :
    ofName? response.name = some response := by
  cases response <;> decide

theorem Granularity.ofName?_name (granularity : Granularity) :
    ofName? granularity.name = some granularity := by
  cases granularity <;> decide

end Bus

namespace BitRange

theorem bitOfText?_decimal {n : Nat} (hn : n < bitLimit) :
    bitOfText? (Numeral.decimal n) = some (UInt32.ofNat n) := by
  have htrim := Text.trim_of_forall fun c (hc : c ∈ Numeral.decimal n) =>
    Text.isBlank_of_mem_decimal hc
  rw [bitOfText?, htrim, Numeral.ofUnsigned?_decimal hn, Option.map_some]

theorem toList_text (r : BitRange) :
    r.text.toList =
      if r.isSingle then Numeral.decimal r.low
      else Numeral.decimal r.high ++ ':' :: Numeral.decimal r.low := by
  unfold text
  split
  · simp [Numeral.decimal]
  · simp [Numeral.decimal]
    rfl

theorem isBlank_of_mem_text {r : BitRange} {c : Char} (hc : c ∈ r.text.toList) :
    Text.isBlank c = false := by
  rw [toList_text] at hc
  split at hc
  · exact Text.isBlank_of_mem_decimal hc
  · rcases List.mem_append.mp hc with hc | hc
    · exact Text.isBlank_of_mem_decimal hc
    · rcases List.mem_cons.mp hc with rfl | hc
      · decide
      · exact Text.isBlank_of_mem_decimal hc

theorem notMem_text (r : BitRange) {c : Char} (hdigit : c.isDigit = false) (hcolon : c ≠ ':') :
    c ∉ r.text.toList := by
  have hdecimal : ∀ n, c ∉ Numeral.decimal n := fun _ => Numeral.notMem_decimal hdigit
  rw [toList_text]
  split
  · exact hdecimal _
  · simp [hdecimal, hcolon]

theorem ofBounds_of_toNat {r : BitRange} {high low : UInt32} (hhigh : high.toNat = r.high)
    (hlow : low.toNat = r.low) : ofBounds high low = .ok r := by
  obtain ⟨_, _, hle, _⟩ := r
  subst hhigh hlow
  exact dif_pos hle

theorem bit_of_toNat {r : BitRange} {n : UInt32} (hhigh : n.toNat = r.high)
    (hlow : n.toNat = r.low) : bit n = r := by
  obtain ⟨_, _, _, _⟩ := r
  subst hhigh
  subst hlow
  rfl

/-- The text of a bit range stands for it, with or without what surrounds it. -/
theorem ofText_of_inner {r : BitRange} {text : String}
    (hinner : Text.unbracket '[' ']' (Text.trim text.toList) = r.text.toList) :
    ofText text = .ok r := by
  have hcolon : ∀ n, ':' ∉ Numeral.decimal n := fun _ => Numeral.notMem_decimal (by decide)
  have hhigh : (UInt32.ofNat r.high).toNat = r.high := UInt32.toNat_ofNat_of_lt' r.high_lt
  have hlow_lt : r.low < bitLimit := Nat.lt_of_le_of_lt r.low_le_high r.high_lt
  have hlow : (UInt32.ofNat r.low).toNat = r.low := UInt32.toNat_ofNat_of_lt' hlow_lt
  simp only [ofText, hinner, toList_text]
  by_cases hsingle : r.isSingle = true
  · have heq : r.high = r.low := by simpa [isSingle] using hsingle
    simp only [if_pos hsingle, Text.splitOnce_of_notMem (hcolon r.low), bitOfText?_decimal hlow_lt]
    exact congrArg Except.ok (bit_of_toNat (hlow.trans heq.symm) hlow)
  · simp only [if_neg hsingle, Text.splitOnce_append _ (hcolon r.high),
      bitOfText?_decimal r.high_lt, bitOfText?_decimal hlow_lt]
    exact ofBounds_of_toNat hhigh hlow

theorem ofText_text (r : BitRange) : ofText r.text = .ok r := by
  apply ofText_of_inner
  rw [Text.trim_of_forall fun _ hc => isBlank_of_mem_text hc,
    Text.unbracket_of_notMem (notMem_text r (by decide) (by decide))]

end BitRange

namespace Lock

/-- What a lock refers to is called by identifiers. -/
structure IsPlain (lock : Lock) : Prop where
  register : IsIdentifier lock.register
  field : ∀ name, lock.selector = .field name → IsIdentifier name

/-- What a lock refers to is called by names that a text can hold: not empty, without the bracket
    that would start an index, and without blanks where the text of the lock is trimmed. -/
inductive Readable : Lock → Prop where
  | bit {register : String} {index : UInt32} (hne : register.toList ≠ [])
    (htrimmed : Text.IsTrimmed register.toList) (hbracket : '[' ∉ register.toList) :
    Readable ⟨register, .bit index⟩
  | field {register field : String} (hregister : register.toList ≠ [])
    (hfield : field.toList ≠ []) (htrimmed : Text.IsTrimmed (register.toList ++ '.' :: field.toList))
    (hbracket : '[' ∉ register.toList ++ '.' :: field.toList) (hpoint : '.' ∉ register.toList) :
    Readable ⟨register, .field field⟩

/-- The text of a lock is a name with a point in it, which a reader takes for that of a field. -/
def Pointed (lock : Lock) : Prop :=
  lock.selector = .bit 0 ∧ '.' ∈ lock.register.toList

variable {register field : String}

theorem ofText?_of_bit_zero (hne : register.toList ≠ [])
    (htrimmed : Text.IsTrimmed register.toList) (hbracket : '[' ∉ register.toList)
    (hpoint : '.' ∉ register.toList) : ofText? register = some ⟨register, .bit 0⟩ := by
  rw [ofText?, htrimmed.trim_eq, Text.splitOnce_of_notMem hbracket]
  simp [Text.splitOnce_of_notMem hpoint, hne]

theorem ofText?_of_bit {index : UInt32} (hne : register.toList ≠ [])
    (htrimmed : Text.IsTrimmed register.toList) (hbracket : '[' ∉ register.toList) :
    ofText? s!"{register}[{index.toNat}]" = some ⟨register, .bit index⟩ := by
  have htext : (s!"{register}[{index.toNat}]").toList =
      register.toList ++ '[' :: (Numeral.decimal index.toNat ++ [']']) := by
    simp [Numeral.decimal]
    rfl
  have hblank : ∀ c ∈ '[' :: (Numeral.decimal index.toNat ++ [']']), Text.isBlank c = false := by
    intro c hc
    simp only [List.mem_append, List.mem_cons, List.not_mem_nil, or_false] at hc
    rcases hc with rfl | hc | rfl
    · decide
    · exact Text.isBlank_of_mem_decimal hc
    · decide
  have hends := htrimmed.append hne (Text.isTrimmed_of_forall hblank) (List.cons_ne_nil _ _)
  rw [ofText?, htext, hends.trim_eq, Text.splitOnce_append _ hbracket]
  simp [Text.dropLast?_append, BitRange.bitOfText?_decimal index.toNat_lt_size, htrimmed.trim_eq,
    hne]

theorem ofText?_of_field (hregister : register.toList ≠ []) (hfield : field.toList ≠ [])
    (htrimmed : Text.IsTrimmed (register.toList ++ '.' :: field.toList))
    (hbracket : '[' ∉ register.toList ++ '.' :: field.toList) (hpoint : '.' ∉ register.toList) :
    ofText? s!"{register}.{field}" = some ⟨register, .field field⟩ := by
  have htext : (s!"{register}.{field}").toList = register.toList ++ '.' :: field.toList := by
    simp
    rfl
  rw [ofText?, htext, htrimmed.trim_eq, Text.splitOnce_of_notMem hbracket]
  simp [Text.splitOnce_append _ hpoint, hregister, hfield]

/-- The text of a lock stands for it, unless it is taken for that of a field. -/
theorem Readable.ofText?_text {lock : Lock} (hlock : lock.Readable) (hpointed : ¬ lock.Pointed) :
    ofText? lock.text = some lock := by
  cases hlock with
  | bit hne htrimmed hbracket =>
    simp only [text]
    split
    · next hzero =>
      subst hzero
      exact ofText?_of_bit_zero hne htrimmed hbracket fun hpoint => hpointed ⟨rfl, hpoint⟩
    · exact ofText?_of_bit hne htrimmed hbracket
  | field hregister hfield htrimmed hbracket hpoint =>
    exact ofText?_of_field hregister hfield htrimmed hbracket hpoint

theorem IsPlain.readable {lock : Lock} (hlock : lock.IsPlain) : lock.Readable := by
  obtain ⟨register, selector⟩ := lock
  have hregister : IsIdentifier register := hlock.register
  have hbracket : '[' ∉ register.toList := hregister.notMem (by decide) (by decide)
  cases selector with
  | bit index =>
    exact .bit hregister.toList_ne_nil (Text.isTrimmed_of_forall hregister.isBlank) hbracket
  | field name =>
    have hfield : IsIdentifier name := hlock.field name rfl
    have hblank : ∀ c ∈ '.' :: name.toList, Text.isBlank c = false :=
      List.forall_mem_cons.mpr ⟨by decide, hfield.isBlank⟩
    refine .field hregister.toList_ne_nil hfield.toList_ne_nil
      ((Text.isTrimmed_of_forall hregister.isBlank).append hregister.toList_ne_nil
        (Text.isTrimmed_of_forall hblank) (List.cons_ne_nil _ _)) ?_
      (hregister.notMem (by decide) (by decide))
    simp [hbracket, hfield.notMem (c := '[') (by decide) (by decide)]

/-- The text of a lock stands for it. -/
theorem ofText?_text {lock : Lock} (hlock : lock.IsPlain) : ofText? lock.text = some lock :=
  hlock.readable.ofText?_text fun hpointed =>
    hlock.register.notMem (by decide) (by decide) hpointed.2

end Lock

end RegisterFile
