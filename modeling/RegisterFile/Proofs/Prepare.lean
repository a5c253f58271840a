import RegisterFile.Prepare
import RegisterFile.Proofs.Validate.Kinds

/-!
What the report of a preparation has in it. It is that of the validator, unless addresses are to be
assigned and cannot be. Then the failed plan is all that is reported, and as the validator never
words a finding like that, nothing that it finds is in the report.
-/

namespace RegisterFile

namespace PrepareOptions

/-- The register file under the protocol that is asked for. -/
def chosen (options : PrepareOptions) (config : Config) : Config :=
  { config with protocol := options.protocol.getD config.protocol }

/-- Why addresses that are asked for cannot be assigned. -/
def planError? (options : PrepareOptions) (config : Config) : Option AddressPlan.Error :=
  if options.autoAddress then
    match AddressPlan.assign (options.chosen config) with
    | .ok _ => none
    | .error e => some e
  else none

end PrepareOptions

/-! ### Wordings -/

namespace Validate

theorem eq_of_mem_expect {holds : Bool} {finding other : Diagnostic}
    (hfinding : finding ∈ expect holds other) : finding = other := by
  unfold expect at hfinding
  split at hfinding
  · cases hfinding
  · exact List.mem_singleton.mp hfinding

/-- The findings about one address start with the same word. -/
theorem head?_message_of_mem_address {config : Config} {owners : List (UInt64 × String)}
    {name : String} {a : UInt64} {finding : Diagnostic}
    (hfinding : finding ∈ address config owners name a) :
    finding.message.toList.head? = some 'a' := by
  simp only [address, List.mem_append] at hfinding
  obtain (hfinding | hfinding) | hfinding := hfinding
  · split at hfinding
    · obtain rfl := List.mem_singleton.mp hfinding
      simp [Diagnostic.error, toString]
    · cases hfinding
  · obtain rfl := eq_of_mem_expect hfinding
    simp [Diagnostic.error, toString]
  · obtain rfl := eq_of_mem_expect hfinding
    split <;> simp [Diagnostic.error, Diagnostic.warning, toString]

/-- So do all findings about addresses that are there. -/
theorem head?_message_of_mem_addresses {config : Config} {registers : List Register}
    {owners : List (UInt64 × String)} {finding : Diagnostic}
    (hfinding : finding ∈ addresses config owners registers) :
    finding.kind = .missingAddress ∨ finding.message.toList.head? = some 'a' := by
  induction registers generalizing owners with
  | nil => cases hfinding
  | cons register rest ih =>
    rw [addresses] at hfinding
    split at hfinding
    · rcases List.mem_cons.mp hfinding with rfl | hfinding
      · exact .inl rfl
      · exact ih hfinding
    · rcases List.mem_append.mp hfinding with hfinding | hfinding
      · exact .inr (head?_message_of_mem_address hfinding)
      · exact ih hfinding

end Validate

namespace AddressPlan.Error

theorem kind_mem_addressKinds (e : Error) : e.kind ∈ Validate.addressKinds := by
  cases e <;> simp [kind, Validate.addressKinds]

theorem head?_message (e : Error) : e.message.toList.head? ≠ some 'a' := by
  cases e <;> simp [message, toString]

/-- A failed plan is worded like no finding of the validator. -/
theorem diagnostic_notMem_validate (e : Error) (config : Config) :
    e.diagnostic ∉ validate config := by
  intro hmem
  have haddresses := Validate.mem_addresses_of_kind hmem e.kind_mem_addressKinds
  rcases Validate.head?_message_of_mem_addresses haddresses with hkind | hhead
  · cases e <;> cases hkind
  · exact e.head?_message hhead

end AddressPlan.Error

/-! ### Reports -/

variable {config : Config} {options : PrepareOptions}

theorem prepare_of_planError {e : AddressPlan.Error}
    (hplan : options.planError? config = some e) :
    prepare config options = ⟨options.chosen config, [e.diagnostic]⟩ := by
  unfold PrepareOptions.planError? at hplan
  split at hplan
  · next hauto =>
    split at hplan
    · cases hplan
    · next other hassign =>
      obtain rfl := Option.some.inj hplan
      rw [PrepareOptions.chosen] at hassign
      simp only [prepare, hauto, if_true, hassign, PrepareOptions.chosen]
  · cases hplan

theorem report_of_planned (hplan : options.planError? config = none) :
    (prepare config options).report = validate (prepare config options).config := by
  unfold PrepareOptions.planError? at hplan
  split at hplan
  · next hauto =>
    split at hplan
    · next planned hassign =>
      rw [PrepareOptions.chosen] at hassign
      simp only [prepare, hauto, if_true, hassign]
    · cases hplan
  · next hauto => simp only [prepare, hauto, Bool.false_eq_true, if_false]

/-- The report of a preparation is that of the validator on what the preparation gives, or the
    failed plan alone. In the second case it lacks every finding of the validator, so that it is
    complete only where there are none. -/
theorem report_complete_iff (config : Config) (options : PrepareOptions) :
    ((∀ finding ∈ validate (prepare config options).config,
        finding ∈ (prepare config options).report) ↔
      options.planError? config = none ∨ validate (options.chosen config) = []) ∧
    (prepare config options).report =
      match options.planError? config with
      | none => validate (prepare config options).config
      | some e => [e.diagnostic] := by
  cases hplan : options.planError? config with
  | none =>
    rw [report_of_planned hplan]
    exact ⟨iff_of_true (fun _ hfinding => hfinding) (.inl rfl), rfl⟩
  | some e =>
    rw [prepare_of_planError hplan]
    simp only [reduceCtorEq, false_or, and_true]
    constructor
    · intro hcomplete
      refine List.eq_nil_iff_forall_not_mem.mpr fun finding hfinding => ?_
      obtain rfl := List.mem_singleton.mp (hcomplete finding hfinding)
      exact e.diagnostic_notMem_validate _ hfinding
    · intro hnone finding hfinding
      rw [hnone] at hfinding
      cases hfinding

/-- A register file with two registers of one name, the first of which lies across slots. -/
def Config.straddling : Config where
  moduleName := "regs"
  registers := [{ name := "A", address := some 2 }, { name := "A", address := some 4 }]

/-- As no addresses can be assigned, it is not reported that the two registers have one name. -/
theorem report_incomplete_straddling :
    ∃ finding ∈ validate (prepare .straddling { autoAddress := true }).config,
      finding.kind = .duplicateName ∧ finding.isError = true ∧
        finding ∉ (prepare .straddling { autoAddress := true }).report := by
  decide +kernel

end RegisterFile
