import Converge.Proofs.Manifest
import Mathlib.Data.List.Forall2

/-! For what a manifest is refused. Its names and references are read in the order of the document,
names of endpoints first, then names of rules, then references, and what is reported is the fault of
the first of them that is at fault. Stamping a manifest changes nothing about that. -/
namespace Converge.Manifest

open Resolver

structure Valid (manifest : Manifest) : Prop where
  endpointNames : (manifest.endpoints.map EndpointSpec.name).Nodup
  endpointsNamed : ∀ endpoint ∈ manifest.endpoints, endpoint.name ≠ ""
  ruleNames : (manifest.rules.map RuleSpec.name).Nodup
  rulesNamed : ∀ rule ∈ manifest.rules, rule.name ≠ ""
  references : ∀ rule ∈ manifest.rules, ∀ name, rule.resolverEndpointRef = some name →
    rule.resolverEndpointId = none ∧ ∃ endpoint ∈ manifest.endpoints, endpoint.name = name

inductive Item where
  | name (kind : ManifestSection) (name : String)
  | reference (rule : RuleSpec)

def items (manifest : Manifest) : List Item :=
  manifest.endpoints.map (fun endpoint => .name .endpoint endpoint.name) ++
    (manifest.rules.map (fun rule => .name .rule rule.name) ++ manifest.rules.map .reference)

/-- What is wrong with an item that follows others, in a manifest with these endpoints. -/
inductive Item.Fault (endpoints : List EndpointSpec) (before : List Item) :
    Item → ManifestError → Prop where
  | emptyName (kind : ManifestSection) : Fault endpoints before (.name kind "") (.emptyName kind)
  | duplicate {kind : ManifestSection} {name : String} (named : name ≠ "")
      (again : .name kind name ∈ before) :
      Fault endpoints before (.name kind name) (.duplicate kind name)
  | conflictingEndpoint {rule : RuleSpec} {name id : String}
      (refers : rule.resolverEndpointRef = some name) (fixed : rule.resolverEndpointId = some id) :
      Fault endpoints before (.reference rule) (.conflictingEndpoint rule.name)
  | unknownEndpoint {rule : RuleSpec} {name : String}
      (refers : rule.resolverEndpointRef = some name) (free : rule.resolverEndpointId = none)
      (unknown : ∀ endpoint ∈ endpoints, endpoint.name ≠ name) :
      Fault endpoints before (.reference rule) (.unknownEndpoint rule.name name)

def Clean (endpoints : List EndpointSpec) (items : List Item) : Prop :=
  ∀ before item after, items = before ++ item :: after →
    ∀ error, ¬item.Fault endpoints before error

/-- The error is what is wrong with the first item that is at fault. -/
def FirstFault (endpoints : List EndpointSpec) (items : List Item) (error : ManifestError) : Prop :=
  ∃ before item after, items = before ++ item :: after ∧ Clean endpoints before ∧
    item.Fault endpoints before error

section Faults

variable {endpoints : List EndpointSpec} {before items : List Item} {item : Item}
  {error other : ManifestError}

theorem Item.Fault.unique (one : item.Fault endpoints before error)
    (two : item.Fault endpoints before other) : error = other := by
  cases one with
  | emptyName kind =>
    cases two with
    | emptyName => rfl
    | duplicate named => exact absurd rfl named
  | duplicate named =>
    cases two with
    | emptyName => exact absurd rfl named
    | duplicate => rfl
  | conflictingEndpoint refers fixed =>
    cases two with
    | conflictingEndpoint => rfl
    | unknownEndpoint _ free => simp [fixed] at free
  | unknownEndpoint refers free =>
    cases two with
    | conflictingEndpoint _ fixed => simp [free] at fixed
    | unknownEndpoint again =>
      obtain rfl := Option.some.inj (refers.symm.trans again)
      rfl

theorem FirstFault.unique (one : FirstFault endpoints items error)
    (two : FirstFault endpoints items other) : error = other := by
  obtain ⟨before, item, after, rfl, clean, fault⟩ := one
  obtain ⟨front, second, rest, same, spotless, flaw⟩ := two
  rcases List.append_eq_append_iff.1 same with ⟨more, rfl, split⟩ | ⟨more, rfl, split⟩
  · cases more with
    | nil =>
      obtain ⟨rfl, rfl⟩ := List.cons.inj split
      rw [List.append_nil] at flaw
      exact fault.unique flaw
    | cons next more =>
      obtain ⟨rfl, rfl⟩ := List.cons.inj split
      exact absurd fault (spotless before item more rfl error)
  · cases more with
    | nil =>
      obtain ⟨rfl, rfl⟩ := List.cons.inj split
      rw [List.append_nil] at fault
      exact fault.unique flaw
    | cons next more =>
      obtain ⟨rfl, rfl⟩ := List.cons.inj split
      exact absurd flaw (clean front second more rfl other)

theorem not_clean_of_firstFault (first : FirstFault endpoints items error) :
    ¬Clean endpoints items := by
  obtain ⟨before, item, after, rfl, -, fault⟩ := first
  exact fun clean => clean before item after rfl error fault

theorem clean_nil : Clean endpoints [] := by
  intro before item after same
  simp at same

theorem clean_concat (clean : Clean endpoints before)
    (fine : ∀ error, ¬item.Fault endpoints before error) : Clean endpoints (before ++ [item]) := by
  intro front second rest same
  rcases List.append_eq_append_iff.1 same with ⟨more, rfl, split⟩ | ⟨more, rfl, split⟩
  · cases more with
    | nil =>
      obtain ⟨rfl, -⟩ := List.cons.inj split
      rwa [List.append_nil]
    | cons next more => simp at split
  · cases more with
    | nil =>
      obtain ⟨rfl, -⟩ := List.cons.inj split
      rwa [List.append_nil] at fine
    | cons next more =>
      obtain ⟨rfl, rfl⟩ := List.cons.inj split
      exact clean front second more rfl

end Faults

/-- What comes of reading items behind others that are clean. -/
def Reads (endpoints : List EndpointSpec) (before items : List Item) :
    Except ManifestError Unit → Prop
  | .ok () => Clean endpoints (before ++ items)
  | .error error => FirstFault endpoints (before ++ items) error

section Reading

variable {endpoints : List EndpointSpec} {before first rest : List Item} {item : Item}
  {result : Except ManifestError Unit}

theorem Reads.bind {next : Unit → Except ManifestError Unit}
    (one : Reads endpoints before first result)
    (two : Clean endpoints (before ++ first) → Reads endpoints (before ++ first) rest (next ())) :
    Reads endpoints before (first ++ rest) (result >>= next) := by
  cases result with
  | ok =>
    have reads := two one
    rw [Reads.eq_def, List.append_assoc] at reads
    exact reads
  | error error =>
    obtain ⟨front, item, after, same, clean, fault⟩ := one
    refine ⟨front, item, after ++ rest, ?_, clean, fault⟩
    rw [← List.append_assoc, same, List.append_assoc, List.cons_append]

theorem Reads.of_fault {error : ManifestError} (clean : Clean endpoints before)
    (fault : item.Fault endpoints before error) :
    Reads endpoints before (item :: rest) (.error error) :=
  ⟨before, item, rest, rfl, clean, fault⟩

theorem Reads.of_fine (clean : Clean endpoints before)
    (fine : ∀ error, ¬item.Fault endpoints before error)
    (others : Clean endpoints (before ++ [item]) →
      Reads endpoints (before ++ [item]) rest result) :
    Reads endpoints before (item :: rest) result := by
  have reads := others (clean_concat clean fine)
  cases result <;> simpa only [Reads, List.append_assoc, List.singleton_append] using reads

theorem reads_checkNames {kind : ManifestSection} {used names : List String}
    (known : ∀ name, name ∈ used ↔ .name kind name ∈ before) (clean : Clean endpoints before) :
    Reads endpoints before (names.map (.name kind)) (checkNames kind used names) := by
  induction names generalizing before used with
  | nil => simpa [Reads, checkNames] using clean
  | cons name names ih =>
    unfold checkNames
    split
    · next empty =>
      subst empty
      exact .of_fault clean (.emptyName kind)
    · next named =>
      split
      · next again => exact .of_fault clean (.duplicate named ((known name).1 again))
      · next fresh =>
        refine .of_fine clean (fun error fault => ?_) (ih fun other => ?_)
        · cases fault with
          | emptyName => exact named rfl
          | duplicate _ again => exact fresh ((known name).2 again)
        · simp [known, or_comm]

theorem reads_checkReference {rule : RuleSpec} (clean : Clean endpoints before) :
    Reads endpoints before [.reference rule]
      (checkReference (endpoints.map EndpointSpec.name) rule) := by
  unfold checkReference
  split
  · next silent =>
    refine .of_fine clean (fun error fault => ?_) fun clean => by simpa [Reads] using clean
    cases fault with
    | conflictingEndpoint refers => simp [silent] at refers
    | unknownEndpoint refers => simp [silent] at refers
  · next name refers =>
    split
    · next fixed =>
      obtain ⟨id, fixed⟩ := Option.isSome_iff_exists.1 fixed
      exact .of_fault clean (.conflictingEndpoint refers fixed)
    · next free =>
      rw [Bool.not_eq_true, Option.isSome_eq_false_iff, Option.isNone_iff_eq_none] at free
      split
      · next listed =>
        refine .of_fine clean (fun error fault => ?_) fun clean => by simpa [Reads] using clean
        cases fault with
        | conflictingEndpoint _ fixed => simp [free] at fixed
        | unknownEndpoint again _ unknown =>
          obtain rfl := Option.some.inj (refers.symm.trans again)
          obtain ⟨endpoint, member, same⟩ := List.mem_map.1 listed
          exact unknown endpoint member same
      · next unlisted =>
        refine .of_fault clean (.unknownEndpoint refers free fun endpoint member same => ?_)
        exact unlisted (List.mem_map.2 ⟨endpoint, member, same⟩)

theorem reads_checkReferences {rules : List RuleSpec} (clean : Clean endpoints before) :
    Reads endpoints before (rules.map .reference)
      (checkReferences (endpoints.map EndpointSpec.name) rules) := by
  induction rules generalizing before with
  | nil => simpa [Reads, checkReferences] using clean
  | cons rule rules ih => exact (reads_checkReference clean).bind ih

theorem reads_validate (manifest : Manifest) :
    Reads manifest.endpoints [] manifest.items manifest.validate := by
  have names : ∀ (kind : ManifestSection) (before : List Item) (names : List String),
      (∀ name, .name kind name ∉ before) → Clean manifest.endpoints before →
      Reads manifest.endpoints before (names.map (.name kind)) (checkNames kind [] names) := by
    intro kind before names new clean
    exact reads_checkNames (fun name => by simp [new]) clean
  have endpoints := names .endpoint [] (manifest.endpoints.map EndpointSpec.name) (by simp)
    clean_nil
  rw [List.map_map] at endpoints
  refine endpoints.bind fun clean => ?_
  have rules := names .rule _ (manifest.rules.map RuleSpec.name) (by simp) clean
  rw [List.map_map] at rules
  exact rules.bind fun clean => reads_checkReferences clean

end Reading

theorem checkReference_eq_ok_iff {endpoints : List String} {rule : RuleSpec} :
    checkReference endpoints rule = .ok () ↔ ∀ name, rule.resolverEndpointRef = some name →
      rule.resolverEndpointId = none ∧ name ∈ endpoints := by
  unfold checkReference
  cases rule.resolverEndpointRef with
  | none => simp
  | some name =>
    cases rule.resolverEndpointId with
    | none => by_cases listed : name ∈ endpoints <;> simp [listed]
    | some id => simp

theorem checkReferences_eq_ok_iff {endpoints : List String} {rules : List RuleSpec} :
    checkReferences endpoints rules = .ok () ↔ ∀ rule ∈ rules, ∀ name,
      rule.resolverEndpointRef = some name →
        rule.resolverEndpointId = none ∧ name ∈ endpoints := by
  induction rules with
  | nil => simp [checkReferences]
  | cons rule rules ih =>
    rw [List.forall_mem_cons, ← checkReference_eq_ok_iff, ← ih]
    exact andThen_eq_ok_iff

theorem validate_eq_ok_iff (manifest : Manifest) :
    manifest.validate = .ok () ↔ manifest.Valid := by
  rw [validate, andThen_eq_ok_iff, andThen_eq_ok_iff, checkNames_eq_ok_iff, checkNames_eq_ok_iff,
    checkReferences_eq_ok_iff]
  simp only [List.forall_mem_map, List.not_mem_nil, not_false_eq_true, and_true]
  simp only [List.mem_map]
  constructor
  · rintro ⟨⟨endpointNames, endpointsNamed⟩, ⟨ruleNames, rulesNamed⟩, references⟩
    exact ⟨endpointNames, endpointsNamed, ruleNames, rulesNamed, references⟩
  · intro valid
    exact ⟨⟨valid.endpointNames, valid.endpointsNamed⟩, ⟨valid.ruleNames, valid.rulesNamed⟩,
      valid.references⟩

theorem validate_eq_error_iff (manifest : Manifest) (error : ManifestError) :
    manifest.validate = .error error ↔ FirstFault manifest.endpoints manifest.items error := by
  have reads := reads_validate manifest
  constructor
  · intro refused
    rwa [refused] at reads
  · intro first
    cases result : manifest.validate with
    | ok =>
      rw [result] at reads
      exact absurd reads (not_clean_of_firstFault first)
    | error other =>
      rw [result] at reads
      rw [FirstFault.unique reads first]

structure IsStamped {D : Type} (createdAt : D → Option Timestamp) (undated : D → D)
    (time : Timestamp) (old new : D) : Prop where
  undated : undated new = undated old
  kept : ∀ declared, createdAt old = some declared → createdAt new = some declared
  set : createdAt old = none → createdAt new = some time

theorem forall₂_isStamped {D : Type} {createdAt : D → Option Timestamp} {undated stamped : D → D}
    {time : Timestamp} (specs : List D)
    (dated : ∀ spec, createdAt (stamped spec) = some ((createdAt spec).getD time))
    (same : ∀ spec, undated (stamped spec) = undated spec) :
    List.Forall₂ (IsStamped createdAt undated time) specs (specs.map stamped) := by
  rw [List.forall₂_map_right_iff, List.forall₂_same]
  intro spec _
  refine ⟨same spec, fun declared there => ?_, fun missing => ?_⟩
  · rw [dated, there, Option.getD_some]
  · rw [dated, missing, Option.getD_none]

theorem stampCreation_stampCreation (manifest : Manifest) (time later : Timestamp) :
    (manifest.stampCreation time).stampCreation later = manifest.stampCreation time := by
  simp [stampCreation, Function.comp_def]

/-- A manifest is accepted exactly if it is valid, and otherwise refused for the first fault in the
order of the document. Stamping it alters neither that nor a declared time, sets all times that are
missing, and leaves nothing for a second stamping. -/
theorem validated_exactly (manifest : Manifest) :
    (manifest.validate = .ok () ↔ manifest.Valid) ∧
      (∀ error, manifest.validate = .error error ↔
        FirstFault manifest.endpoints manifest.items error) ∧
      ∀ time, let stamped := manifest.stampCreation time
        stamped.validate = manifest.validate ∧
          List.Forall₂ (IsStamped EndpointSpec.createdAt
            (fun spec => { spec with createdAt := none }) time)
            manifest.endpoints stamped.endpoints ∧
          List.Forall₂ (IsStamped RuleSpec.createdAt
            (fun spec => { spec with createdAt := none }) time) manifest.rules stamped.rules ∧
          ∀ later, stamped.stampCreation later = stamped :=
  ⟨manifest.validate_eq_ok_iff, manifest.validate_eq_error_iff, fun time =>
    ⟨manifest.validate_stampCreation time,
      forall₂_isStamped manifest.endpoints (fun _ => rfl) fun _ => rfl,
      forall₂_isStamped manifest.rules (fun _ => rfl) fun _ => rfl,
      manifest.stampCreation_stampCreation time⟩⟩

example : validate ⟨[], [{ (default : RuleSpec) with
    name := "inward", resolverEndpointRef := some "gate" }, default]⟩ =
      .error (.emptyName .rule) := rfl

end Converge.Manifest
