import Converge.Collection
import Converge.Pages
import Converge.Pass
import Converge.Proofs.Replies
import Converge.TagSync

/-! Which calls a program makes, however they are answered. A pass makes those of its steps, and it
only ever takes the steps of observing, creating and changing a resource. -/
namespace Converge

namespace Program

variable {Call : Type} {Reply : Call → Type} {Inner : Type} {Answer : Inner → Type}
  {allowed : Call → Prop} {α β : Type}

/-- The program makes none but the allowed calls. -/
def Asks (allowed : Call → Prop) : Program Call Reply α → Prop
  | done _ => True
  | ask call next => allowed call ∧ ∀ reply, (next reply).Asks allowed

theorem asks_request {call : Call} (fine : allowed call) :
    (request call : Program Call Reply (Reply call)).Asks allowed := ⟨fine, fun _ => trivial⟩

theorem Asks.imp {weaker : Call → Prop} {program : Program Call Reply α}
    (asks : program.Asks allowed) (weaken : ∀ call, allowed call → weaker call) :
    program.Asks weaker := by
  induction program with
  | done value => trivial
  | ask call next ih => exact ⟨weaken call asks.1, fun reply => ih reply (asks.2 reply)⟩

theorem Asks.bind {program : Program Call Reply α} {next : α → Program Call Reply β}
    (first : program.Asks allowed) (rest : ∀ value, (next value).Asks allowed) :
    (program >>= next).Asks allowed := by
  induction program with
  | done value => exact rest value
  | ask call after ih => exact ⟨first.1, fun reply => ih reply (first.2 reply)⟩

theorem Asks.bind_of_always {program : Program Call Reply α} {next : α → Program Call Reply β}
    {post : α → Prop} (first : program.Asks allowed)
    (ends : program.Always anyReply (fun value _ => post value) ())
    (rest : ∀ value, post value → (next value).Asks allowed) : (program >>= next).Asks allowed := by
  induction program with
  | done value => exact rest value ends
  | ask call after ih =>
    exact ⟨first.1, fun reply => ih reply (first.2 reply) (ends reply () trivial)⟩

theorem Asks.expand {inner : Inner → Prop} {program : Program Call Reply α}
    {meaning : (call : Call) → Program Inner Answer (Reply call)} (asks : program.Asks allowed)
    (means : ∀ call, allowed call → (meaning call).Asks inner) :
    (program.expand meaning).Asks inner := by
  induction program with
  | done value => trivial
  | ask call next ih => exact (means call asks.1).bind fun reply => ih reply (asks.2 reply)

end Program

open Program

section Attempts

variable {Call : Type} {Reply : Call → Type} {allowed : Call → Prop} {α β κ γ : Type}

namespace Attempt

theorem asks_ofExcept (result : Except Failure α) :
    (ofExcept result : Attempt Call Reply α).outcome.Asks allowed := trivial

theorem asks_bind {attempt : Attempt Call Reply α} {next : α → Attempt Call Reply β}
    (first : attempt.outcome.Asks allowed) (rest : ∀ value, (next value).outcome.Asks allowed) :
    (attempt >>= next).outcome.Asks allowed := by
  refine Asks.bind first fun reply => ?_
  cases reply with
  | ok value => exact rest value
  | error failure => trivial

end Attempt

theorem Walk.asks_collectFrom {source : PageSource Call Reply α}
    (fetches : ∀ token, (source token).outcome.Asks allowed) (count : Nat) (walk : Walk)
    (found : List α) : (collectFrom source count walk found).outcome.Asks allowed := by
  -- The induction is on the pages that may still be fetched.
  induction count generalizing walk found with
  | zero => trivial
  | succ count ih =>
    have next : (walk.next source).Asks allowed := by
      unfold next
      split
      · trivial
      · refine (fetches walk.token).bind fun reply => ?_
        cases reply <;> trivial
    refine Asks.bind next fun reply => ?_
    match reply with
    | (none, _) => trivial
    | (some (.error _), _) => trivial
    | (some (.ok items), walk) => exact ih walk (found ++ items)

theorem Walk.asks_collect {source : PageSource Call Reply α} {walk : Walk}
    (fetches : ∀ token, (source token).outcome.Asks allowed) :
    (walk.collect source).outcome.Asks allowed := asks_collectFrom fetches pageLimit walk []

namespace Collection

variable {collection : Collection Call Reply α κ γ}

theorem asks_attachAll {items : List α}
    (attaches : ∀ item ∈ items, (collection.attach item).outcome.Asks allowed)
    (progress : Progress α κ γ) : (collection.attachAll items progress).Asks allowed := by
  induction items generalizing progress with
  | nil => trivial
  | cons item rest ih =>
    refine (attaches item List.mem_cons_self).bind fun reply => ?_
    cases reply with
    | ok aggregate => exact ih (fun item later => attaches item (List.mem_cons_of_mem _ later)) _
    | error failure => trivial

theorem asks_detachAll {keys : List κ}
    (detaches : ∀ k ∈ keys, (collection.detach k).outcome.Asks allowed)
    (progress : Progress α κ γ) : (collection.detachAll keys progress).Asks allowed := by
  induction keys generalizing progress with
  | nil => trivial
  | cons k rest ih =>
    refine (detaches k List.mem_cons_self).bind fun reply => ?_
    cases reply with
    | ok aggregate => exact ih (fun k later => detaches k (List.mem_cons_of_mem _ later)) _
    | error failure => trivial

theorem asks_sync [DecidableEq κ] {desired observed : List α}
    (attaches : ∀ item ∈ (diff collection.key desired observed).added,
      (collection.attach item).outcome.Asks allowed)
    (detaches : ∀ k ∈ (diff collection.key desired observed).removed,
      (collection.detach k).outcome.Asks allowed) :
    (collection.sync desired observed).Asks allowed := by
  refine (asks_attachAll attaches _).bind fun progress => ?_
  split
  · trivial
  · exact asks_detachAll detaches _

end Collection

namespace TagAccess

variable {access : TagAccess Call Reply} {arn : String}

theorem asks_fetch (lists : (access.list arn).outcome.Asks allowed) :
    (access.fetch arn).outcome.Asks allowed := Attempt.asks_bind lists fun _ => trivial

theorem asks_sync {desired observed : Tags}
    (tags : (access.tag arn (tagDiff desired observed).added).outcome.Asks allowed)
    (untags : (access.untag arn (tagDiff desired observed).removed).outcome.Asks allowed) :
    (access.sync arn desired observed).outcome.Asks allowed := by
  have removes : (Attempt.outcome (do
      if !(tagDiff desired observed).removed.isEmpty then
        access.untag arn (tagDiff desired observed).removed
      pure (tagDiff desired observed))).Asks allowed := by
    split
    · exact Attempt.asks_bind untags fun _ => trivial
    · trivial
  unfold sync
  simp only
  split
  · exact Attempt.asks_bind tags fun _ => removes
  · exact removes

end TagAccess

end Attempts

namespace Step

def IsProper {O : Type} (token : Token) : Step O → Prop
  | create other => other = token
  | delete _ => False
  | _ => True

end Step

namespace Pass

variable {O : Type} {token : Token}

theorem asks_finish (observed : O) (changes : Changes) :
    (finish observed changes).Asks (Step.IsProper token) := by
  refine (asks_request trivial).bind fun stale => ?_
  split
  · trivial
  · refine (asks_request trivial).bind fun settled => ?_
    split <;> trivial

theorem asks_create (last : Option O) : (create last token).Asks (Step.IsProper token) := by
  have proper : Step.IsProper token (.create token : Step O) := rfl
  refine (asks_request proper).bind fun reply => ?_
  cases reply with
  | error failure => trivial
  | ok created =>
    refine (asks_request trivial).bind fun applied => ?_
    simp only
    split
    · trivial
    · exact asks_finish _ _

theorem asks_updatePrimary (paths : List String) (delta : Delta) (observed : O)
    (changes : Changes) :
    (updatePrimary paths delta observed changes).Asks (Step.IsProper token) := by
  unfold updatePrimary
  split
  · refine (asks_request trivial).bind fun reply => ?_
    cases reply with
    | error failure => trivial
    | ok updated => exact asks_finish _ _
  · exact asks_finish _ _

theorem asks_updateCollections (paths : List String) (delta : Delta) (observed : O)
    (changes : Changes) :
    (updateCollections paths delta observed changes).Asks (Step.IsProper token) := by
  unfold updateCollections
  split
  · refine (asks_request trivial).bind fun applied => ?_
    simp only
    split
    · trivial
    · exact asks_updatePrimary _ _ _ _
  · exact asks_updatePrimary _ _ _ _

theorem asks_update (paths : List String) (observed : O) :
    (update paths observed).Asks (Step.IsProper token) := by
  refine (asks_request trivial).bind fun reply => ?_
  cases reply with
  | error failure => trivial
  | ok =>
    refine (asks_request trivial).bind fun delta => ?_
    split
    · exact asks_finish _ _
    · unfold updateTags
      split
      · refine (asks_request trivial).bind fun reply => ?_
        cases reply with
        | error failure => trivial
        | ok updated => exact asks_updateCollections _ _ _ _
      · exact asks_updateCollections _ _ _ _

theorem asks_run (paths : List String) (last : Option O) :
    (run paths token last).Asks (Step.IsProper token) := by
  refine (asks_request trivial).bind fun reply => ?_
  match reply with
  | .error _ => trivial
  | .ok none => exact asks_create last
  | .ok (some observed) => exact asks_update paths observed

end Pass

theorem Manager.asks_pass {Call : Type} {Reply : Call → Type} {D O : Type}
    {manager : Manager Call Reply D O} {desired : D} {token : Token} {last : Option O}
    {allowed : Call → Prop}
    (steps : ∀ step, step.IsProper token → (manager.perform desired step).Asks allowed) :
    (manager.pass desired token last).Asks allowed :=
  (Pass.asks_run manager.collectionPaths last).expand steps

end Converge
