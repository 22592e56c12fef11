import Converge.Collection
import Converge.Pages
import Converge.TagSync
import Mathlib.Data.List.Forall2
import Mathlib.Data.Option.Defs
import Mathlib.Order.Defs.PartialOrder

/-! Programs side by side. Two programs are in step if they make calls that correspond, one after
the other, and go on in step whenever they get answers that correspond. What corresponds depends on
what is known by then of the names on either side, and what is known only grows. -/
namespace Converge

structure Pairing (κ Call : Type) (Reply : Call → Type) where
  calls : κ → Call → Call → Prop
  replies : κ → (call other : Call) → Reply call → Reply other → Prop

def same {κ α : Type} : κ → α → α → Prop := fun _ value other => value = other

def Tied {κ α β : Type} (post : κ → α → β → Prop) (known : κ) :
    Except Failure α → Except Failure β → Prop
  | .ok value, .ok other => post known value other
  | .error failure, .error other => failure = other
  | _, _ => False

theorem Tied.imp {κ α β : Type} {post weaker : κ → α → β → Prop} {known later : κ}
    {result : Except Failure α} {other : Except Failure β} (tied : Tied post known result other)
    (weaken : ∀ value other, post known value other → weaker later value other) :
    Tied weaker later result other := by
  match result, other, tied with
  | .ok _, .ok _, holds => exact weaken _ _ holds
  | .error _, .error _, equal => exact equal

theorem rel_imp {α β : Type} {related weaker : α → β → Prop} {found : Option α} {other : Option β}
    (rel : Option.Rel related found other)
    (weaken : ∀ value result, related value result → weaker value result) :
    Option.Rel weaker found other := by
  cases rel with
  | none => exact .none
  | some holds => exact .some (weaken _ _ holds)

namespace Program

variable {κ Call : Type} [Preorder κ] {Reply : Call → Type} {pairing : Pairing κ Call Reply}
  {α α' β β' : Type}

/-- The programs make calls that correspond and end with values that do. -/
def InStep (pairing : Pairing κ Call Reply) (post : κ → α → β → Prop) :
    Program Call Reply α → Program Call Reply β → κ → Prop
  | done value, done other, known => post known value other
  | ask call next, ask other rest, known =>
    pairing.calls known call other ∧ ∀ later, known ≤ later → ∀ reply answer,
      pairing.replies later call other reply answer →
        (next reply).InStep pairing post (rest answer) later
  | _, _, _ => False

theorem inStep_request {call other : Call} {known : κ} (calls : pairing.calls known call other) :
    (request call : Program Call Reply (Reply call)).InStep pairing
      (fun later reply answer => pairing.replies later call other reply answer)
      (request other) known :=
  ⟨calls, fun _ _ _ _ replies => replies⟩

theorem InStep.bind {middle : κ → α → α' → Prop} {post : κ → β → β' → Prop}
    {program : Program Call Reply α} {other : Program Call Reply α'}
    {next : α → Program Call Reply β} {next' : α' → Program Call Reply β'} {known : κ}
    (first : program.InStep pairing middle other known)
    (rest : ∀ later, known ≤ later → ∀ value result, middle later value result →
      (next value).InStep pairing post (next' result) later) :
    (program >>= next).InStep pairing post (other >>= next') known := by
  induction program generalizing other known with
  | done value =>
    cases other with
    | done result => exact rest known le_rfl value result first
    | ask call after => exact first.elim
  | ask call after ih =>
    cases other with
    | done result => exact first.elim
    | ask call' after' =>
      refine ⟨first.1, fun later grown reply answer replies => ?_⟩
      exact ih reply (first.2 later grown reply answer replies)
        fun final more => rest final (le_trans grown more)

theorem InStep.imp {post weaker : κ → α → β → Prop} {program : Program Call Reply α}
    {other : Program Call Reply β} {known : κ} (inStep : program.InStep pairing post other known)
    (weaken : ∀ later, known ≤ later → ∀ value result, post later value result →
      weaker later value result) :
    program.InStep pairing weaker other known := by
  induction program generalizing other known with
  | done value =>
    cases other with
    | done result => exact weaken known le_rfl value result inStep
    | ask call after => exact inStep.elim
  | ask call after ih =>
    cases other with
    | done result => exact inStep.elim
    | ask call' after' =>
      refine ⟨inStep.1, fun later grown reply answer replies => ?_⟩
      exact ih reply (inStep.2 later grown reply answer replies)
        fun final more => weaken final (le_trans grown more)

end Program

open Program

variable {κ Call : Type} [Preorder κ] {Reply : Call → Type} {pairing : Pairing κ Call Reply}
  {α α' β β' : Type} {known : κ}

theorem Attempt.inStep_bind {middle : κ → α → α' → Prop} {post : κ → β → β' → Prop}
    {attempt : Attempt Call Reply α} {other : Attempt Call Reply α'}
    {next : α → Attempt Call Reply β} {next' : α' → Attempt Call Reply β'}
    (first : attempt.outcome.InStep pairing (Tied middle) other.outcome known)
    (rest : ∀ later, known ≤ later → ∀ value result, middle later value result →
      (next value).outcome.InStep pairing (Tied post) (next' result).outcome later) :
    (attempt >>= next).outcome.InStep pairing (Tied post) (other >>= next').outcome known := by
  refine InStep.bind first fun later grown reply answer tied => ?_
  match reply, answer, tied with
  | .ok value, .ok result, holds => exact rest later grown value result holds
  | .error failure, .error _, equal => exact equal

section Listings

structure Page.Alike (alike : α → α → Prop) (page other : Page α) : Prop where
  items : List.Forall₂ alike page.items other.items
  nextToken : page.nextToken = other.nextToken

namespace Walk

variable {alike : κ → α → α → Prop} {one two : PageSource Call Reply α}

theorem inStep_next {walk : Walk}
    (fetches : (one walk.token).outcome.InStep pairing (Tied fun k => Page.Alike (alike k))
      (two walk.token).outcome known) :
    (walk.next one).InStep pairing
      (fun k found other => Option.Rel (Tied (fun k => List.Forall₂ (alike k)) k) found.1 other.1 ∧
        found.2 = other.2)
      (walk.next two) known := by
  unfold next
  split
  · exact ⟨.none, rfl⟩
  · refine fetches.bind fun later grown reply answer tied => ?_
    match reply, answer, tied with
    | .error failure, .error _, equal => exact ⟨.some equal, rfl⟩
    | .ok page, .ok other, pages =>
      refine ⟨.some pages.items, ?_⟩
      show after page = after other
      rw [after, after, pages.nextToken]

theorem inStep_collectFrom
    (keeps : ∀ known later, known ≤ later → ∀ item other, alike known item other →
      alike later item other)
    (fetches : ∀ token later, known ≤ later →
      (one token).outcome.InStep pairing (Tied fun k => Page.Alike (alike k)) (two token).outcome
        later)
    (allowed : Nat) (walk : Walk) {found other : List α}
    (read : List.Forall₂ (alike known) found other) :
    (collectFrom one allowed walk found).outcome.InStep pairing
      (Tied fun k => List.Forall₂ (alike k)) (collectFrom two allowed walk other).outcome
      known := by
  -- The induction is on the pages that may still be fetched.
  induction allowed generalizing walk found other known with
  | zero => exact read
  | succ allowed ih =>
    refine (inStep_next (fetches walk.token known le_rfl)).bind ?_
    rintro later grown ⟨result, next⟩ ⟨answer, _⟩ ⟨tied, rfl⟩
    have before : List.Forall₂ (alike later) found other :=
      read.imp fun item other => keeps known later grown item other
    match result, answer, tied with
    | none, none, .none => exact before
    | some (.error _), some (.error _), .some equal => exact equal
    | some (.ok _), some (.ok _), .some items =>
      exact ih (fun token final more => fetches token final (le_trans grown more)) next
        (List.rel_append before items)

theorem inStep_collect
    (keeps : ∀ known later, known ≤ later → ∀ item other, alike known item other →
      alike later item other)
    (fetches : ∀ token later, known ≤ later →
      (one token).outcome.InStep pairing (Tied fun k => Page.Alike (alike k)) (two token).outcome
        later)
    (walk : Walk) :
    (walk.collect one).outcome.InStep pairing (Tied fun k => List.Forall₂ (alike k))
      (walk.collect two).outcome known :=
  inStep_collectFrom keeps fetches pageLimit walk .nil

end Walk

end Listings

section Collections

variable {κ' γ : Type} {one two : Collection Call Reply α κ' γ}

theorem diff_congr [DecidableEq κ'] {key : α → κ'} {observed other : List α}
    (keys : observed.map key = other.map key) (desired : List α) :
    diff key desired observed = diff key desired other := by
  simp only [diff, keys]

namespace Collection

theorem inStep_attachAll {items : List α}
    (attaches : ∀ item later, known ≤ later → (one.attach item).outcome.InStep pairing (Tied same)
      (two.attach item).outcome later) (progress : Progress α κ' γ) :
    (one.attachAll items progress).InStep pairing same (two.attachAll items progress) known := by
  induction items generalizing progress known with
  | nil => rfl
  | cons item rest ih =>
    refine (attaches item known le_rfl).bind fun later grown reply answer tied => ?_
    match reply, answer, tied with
    | .ok aggregate, .ok _, .refl _ =>
      exact ih (fun item final more => attaches item final (le_trans grown more)) _
    | .error failure, .error _, .refl _ => rfl

theorem inStep_detachAll {keys : List κ'}
    (detaches : ∀ k later, known ≤ later → (one.detach k).outcome.InStep pairing (Tied same)
      (two.detach k).outcome later) (progress : Progress α κ' γ) :
    (one.detachAll keys progress).InStep pairing same (two.detachAll keys progress) known := by
  induction keys generalizing progress known with
  | nil => rfl
  | cons k rest ih =>
    refine (detaches k known le_rfl).bind fun later grown reply answer tied => ?_
    match reply, answer, tied with
    | .ok aggregate, .ok _, .refl _ =>
      exact ih (fun k final more => detaches k final (le_trans grown more)) _
    | .error failure, .error _, .refl _ => rfl

theorem inStep_sync [DecidableEq κ'] (keyed : one.key = two.key)
    (attaches : ∀ item later, known ≤ later → (one.attach item).outcome.InStep pairing (Tied same)
      (two.attach item).outcome later)
    (detaches : ∀ k later, known ≤ later → (one.detach k).outcome.InStep pairing (Tied same)
      (two.detach k).outcome later)
    (desired : List α) {observed other : List α}
    (keys : observed.map two.key = other.map two.key) :
    (one.sync desired observed).InStep pairing same (two.sync desired other) known := by
  unfold sync
  rw [keyed, diff_congr keys desired]
  refine (inStep_attachAll attaches _).bind fun later grown progress _ equal => ?_
  cases equal
  cases progress.failure with
  | some failure => rfl
  | none => exact inStep_detachAll (fun k final more => detaches k final (le_trans grown more)) _

end Collection

end Collections

namespace TagAccess

variable {access : TagAccess Call Reply} {arn : String}

theorem inStep_fetch
    (lists : (access.list arn).outcome.InStep pairing (Tied same) (access.list arn).outcome known) :
    (access.fetch arn).outcome.InStep pairing (Tied same) (access.fetch arn).outcome known := by
  refine Attempt.inStep_bind lists fun later _ tags _ equal => ?_
  cases equal
  rfl

theorem inStep_sync
    (tags : ∀ added later, known ≤ later → (access.tag arn added).outcome.InStep pairing (Tied same)
      (access.tag arn added).outcome later)
    (untags : ∀ keys later, known ≤ later → (access.untag arn keys).outcome.InStep pairing
      (Tied same) (access.untag arn keys).outcome later) (desired observed : Tags) :
    (access.sync arn desired observed).outcome.InStep pairing (Tied same)
      (access.sync arn desired observed).outcome known := by
  have removes : ∀ later, known ≤ later →
      (Attempt.outcome (do
        if !(tagDiff desired observed).removed.isEmpty then
          access.untag arn (tagDiff desired observed).removed
        pure (tagDiff desired observed))).InStep pairing (Tied same)
      (Attempt.outcome (do
        if !(tagDiff desired observed).removed.isEmpty then
          access.untag arn (tagDiff desired observed).removed
        pure (tagDiff desired observed))) later := by
    intro later grown
    split
    · exact Attempt.inStep_bind (untags _ later grown) fun _ _ _ _ _ => rfl
    · rfl
  unfold sync
  simp only
  split
  · exact Attempt.inStep_bind (tags _ known le_rfl) fun later grown _ _ _ => removes later grown
  · exact removes known le_rfl

end TagAccess

end Converge
