import Converge.Proofs.Traffic.Steps

/-! Entries of a status table. There is one for each resource, empty at first, and a report changes
no entry but that of its own resource. -/
namespace Converge

open Provider Resolver

namespace Provider.ArnKind

abbrev Snapshot : ArnKind → Type
  | endpoint => Endpoint
  | rule => Rule

def id? : (kind : ArnKind) → kind.Snapshot → Option String
  | endpoint => Endpoint.id?
  | rule => Rule.id?

end Provider.ArnKind

namespace StatusTable

variable (table : StatusTable)

def endpoint (name : String) : Entry Endpoint := (table.endpoints.get? name).getD .empty

def rule (name : String) : Entry Rule := (table.rules.get? name).getD .empty

def entry : (identity : Identity) → Entry identity.1.Snapshot
  | (.endpoint, name) => table.endpoint name
  | (.rule, name) => table.rule name

def entries : (kind : ArnKind) → NameMap (Entry kind.Snapshot)
  | .endpoint => table.endpoints
  | .rule => table.rules

def id? (identity : Identity) : Option String :=
  (table.entry identity).observed.bind identity.1.id?

def outcome (identity : Identity) : Option Outcome := (table.entry identity).outcome

theorem entry_of_mem {kind : ArnKind} {name : String} {entry : Entry kind.Snapshot}
    (member : (name, entry) ∈ (table.entries kind).entries) :
    table.entry (kind, name) = entry := by
  have bound := (NameMap.get?_eq_some_iff _ _ _).2 member
  cases kind with
  | endpoint => exact congrArg (Option.getD · .empty) bound
  | rule => exact congrArg (Option.getD · .empty) bound

theorem mem_of_observed {kind : ArnKind} {name : String} {observed : kind.Snapshot}
    (shown : (table.entry (kind, name)).observed = some observed) :
    (name, table.entry (kind, name)) ∈ (table.entries kind).entries := by
  refine (NameMap.get?_eq_some_iff _ _ _).1 ?_
  cases kind with
  | endpoint =>
    simp only [entry, endpoint, entries] at shown ⊢
    cases bound : table.endpoints.get? name <;> simp_all [Entry.empty]
  | rule =>
    simp only [entry, rule, entries] at shown ⊢
    cases bound : table.rules.get? name <;> simp_all [Entry.empty]

@[simp]
theorem endpoint_empty (name : String) : (∅ : StatusTable).endpoint name = .empty := rfl

@[simp]
theorem rule_empty (name : String) : (∅ : StatusTable).rule name = .empty := rfl

@[simp]
theorem entry_empty (identity : Identity) : (∅ : StatusTable).entry identity = .empty := by
  obtain ⟨kind, name⟩ := identity
  cases kind <;> rfl

@[simp]
theorem id?_empty (identity : Identity) : (∅ : StatusTable).id? identity = none := by
  simp [id?, Entry.empty]

end StatusTable

namespace Report

variable {now : Timestamp} {table : StatusTable}

theorem endpoint_record (name : String) (result : Reconciled Endpoint) :
    ((Report.endpoint name result).record now table).endpoint name =
      (table.endpoint name).record now result := by
  simp [record, StatusTable.endpoint, NameMap.get?_insert]

theorem rule_record (name : String) (result : Reconciled Rule) :
    ((Report.rule name result).record now table).rule name =
      (table.rule name).record now result := by
  simp [record, StatusTable.rule, NameMap.get?_insert]

variable (report : Report)

theorem id?_record :
    (report.record now table).id? report.identity = report.id? ∨
      (report.record now table).id? report.identity = table.id? report.identity := by
  cases report with
  | endpoint name result =>
    simp only [StatusTable.id?, StatusTable.entry, identity, endpoint_record, Entry.record, id?]
    cases result.observed <;> simp [ArnKind.id?]
  | rule name result =>
    simp only [StatusTable.id?, StatusTable.entry, identity, rule_record, Entry.record, id?]
    cases result.observed <;> simp [ArnKind.id?]

theorem outcome_record :
    (report.record now table).outcome report.identity = some report.outcome := by
  cases report with
  | endpoint name result =>
    simp [StatusTable.outcome, StatusTable.entry, identity, endpoint_record, Entry.record, outcome]
  | rule name result =>
    simp [StatusTable.outcome, StatusTable.entry, identity, rule_record, Entry.record, outcome]

theorem entry_record_other {identity : Identity} (other : report.identity ≠ identity) :
    (report.record now table).entry identity = table.entry identity := by
  obtain ⟨kind, name⟩ := identity
  cases report <;> cases kind <;>
    simp_all [StatusTable.entry, record, StatusTable.endpoint, StatusTable.rule, Report.identity,
      NameMap.get?_insert]

end Report

end Converge
