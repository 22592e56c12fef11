import Converge.Proofs.Calls
import Converge.Proofs.Passes
import Converge.Proofs.Provider.Shared

/-! Which resource the snapshots of a pass are of. If every step keeps to the resource that it is
given, and creation returns the one of its token, then a pass that starts from a snapshot of that
resource, or from none, returns no snapshot of another one. -/
namespace Converge

open Provider Resolver

variable {D O : Type} {site : Site} {kind : ArnKind} {id? : O → Option String}
  {manager : Manager Call Call.Reply D O} {desired : D} {token : Token} {registry : Registry}

/-- If there is a snapshot, it is of the live resource that has the token. -/
def Owned (kind : ArnKind) (id? : O → Option String) (token : Token) (observed : Option O)
    (registry : Registry) : Prop :=
  ∀ id ∈ observed.bind id?, registry.tokenOf kind id = some token.text

theorem Owned.of_keeps {observed : Option O} {after : Registry}
    (owned : Owned kind id? token observed registry) (keeps : registry.Keeps after) :
    Owned kind id? token observed after :=
  fun id named => keeps kind id token.text (owned id named)

theorem asks_ask {allowed : Call → Prop} {call : Call} (fine : allowed call) :
    (ask call).outcome.Asks allowed := Program.asks_request fine

namespace Manager

structure Tracks (site : Site) (kind : ArnKind) (id? : O → Option String)
    (manager : Manager Call Call.Reply D O) (desired : D) (token : Token) : Prop where
  observe : ∀ last registry, (manager.observe desired last).outcome.Always (Shared site)
    (fun reply _ => ∀ result, reply = .ok result → ∀ found ∈ result, id? found = last.bind id?)
    registry
  create : ∀ registry, (manager.create desired token).outcome.Always (Shared site)
    (fun reply after => ∀ created, reply = .ok created →
      Owned kind id? token (some created) after) registry
  afterCreate : ∀ created registry, (manager.afterCreate desired created).Always (Shared site)
    (fun applied _ => id? applied.observed = id? created) registry
  syncTags : ∀ observed registry, (manager.syncTags desired observed).outcome.Always (Shared site)
    (fun reply _ => ∀ updated, reply = .ok updated → id? updated = id? observed) registry
  syncCollections : ∀ observed delta registry,
    (manager.syncCollections desired observed delta).Always (Shared site)
      (fun applied _ => id? applied.observed = id? observed) registry
  update : ∀ observed delta registry,
    (manager.update desired observed delta).outcome.Always (Shared site)
      (fun reply _ => ∀ updated, reply = .ok updated → id? updated = id? observed) registry

abbrev Keeping (kind : ArnKind) (id? : O → Option String) (token : Token) (result : PassResult O)
    (after : Registry) : Prop :=
  Owned kind id? token result.observed after

theorem owned_congr {observed updated : O} {after : Registry} (same : id? updated = id? observed)
    (owned : Owned kind id? token (some observed) registry) (keeps : registry.Keeps after) :
    Owned kind id? token (some updated) after := by
  intro id named
  exact owned.of_keeps keeps id (same.symm.trans named)

namespace Tracks

variable (tracks : Tracks site kind id? manager desired token)

include tracks

theorem always_update {paths : List String} {observed : O} (valid : registry.Valid site)
    (owned : Owned kind id? token (some observed) registry) :
    (manager.part desired (Pass.update paths observed)).Always (Shared site)
      (Keeping kind id? token) registry := by
  have goes : ∀ {seen updated : O} {before after : Registry}, id? updated = id? seen →
      Owned kind id? token (some seen) before ∧ before.Valid site →
      before.Keeps after ∧ after.Valid site →
      Owned kind id? token (some updated) after ∧ after.Valid site :=
    fun same holds kept => ⟨owned_congr same holds.1 kept.1, kept.2⟩
  refine Manager.always_update_of_kept
    (fun seen state => Owned kind id? token (some seen) state ∧ state.Valid site)
    (fun seen state holds => ?_) (fun seen delta state holds => ?_)
    (fun _ _ _ _ holds => holds.1) (fun _ => owned) (fun seen changes state holds => ?_)
    ⟨owned, valid⟩
  · refine ((tracks.syncTags seen state).and (always_kept holds.2)).imp ?_
    rintro reply after ⟨same, kept⟩
    cases reply with
    | error failure => exact goes rfl holds kept
    | ok updated => exact goes (same updated rfl) holds kept
  · refine ((tracks.syncCollections seen delta state).and (always_kept holds.2)).imp ?_
    exact fun applied after ⟨same, kept⟩ => goes same holds kept
  · refine (Manager.always_updatePrimary _ _ _ _).2 ?_
    split
    · refine ((tracks.update seen _ state).and (always_kept holds.2)).imp ?_
      rintro reply after ⟨same, kept⟩
      cases reply with
      | error failure => exact (goes rfl holds kept).1
      | ok updated => exact (goes (same updated rfl) holds kept).1
    · exact holds.1

theorem always_create {last : Option O} (valid : registry.Valid site)
    (owned : Owned kind id? token last registry) :
    (manager.part desired (Pass.create last token)).Always (Shared site) (Keeping kind id? token)
      registry := by
  refine (Manager.always_create last token).2
    (((tracks.create registry).and (always_kept valid)).imp ?_)
  rintro reply middle ⟨made, keeps, valid⟩
  cases reply with
  | error failure => exact owned.of_keeps keeps
  | ok created =>
    refine ((tracks.afterCreate created middle).and (always_kept valid)).imp ?_
    rintro applied after ⟨same, keeps, -⟩
    have owned := owned_congr same (made created rfl) keeps
    unfold Manager.applied
    cases applied.failure with
    | some failure => exact owned
    | none => exact owned

theorem always_pass {last : Option O} (valid : registry.Valid site)
    (owned : Owned kind id? token last registry) :
    (manager.pass desired token last).Always (Shared site) (Keeping kind id? token) registry := by
  refine (Manager.always_pass token last).2
    (((tracks.observe last registry).and (always_kept valid)).imp ?_)
  rintro reply after ⟨same, keeps, valid⟩
  match reply with
  | .error failure => exact owned.of_keeps keeps
  -- A resource that is taken for missing is returned again by the creation.
  | .ok none => exact tracks.always_create valid (owned.of_keeps keeps)
  | .ok (some observed) =>
    refine tracks.always_update valid fun id named => ?_
    exact owned.of_keeps keeps id ((same _ rfl observed rfl).symm.trans named)

end Tracks

end Manager

end Converge
