import Converge.Proofs.Endpoint.Snapshot
import Converge.Proofs.Provider.Transcripts
import Converge.Proofs.Rule.Snapshot

/-! Walks over the listings of a provider that go on after failures. Whichever fetches fail, the
pages that do come are those of the listing, one after the other, and there are as many as it takes.
The offsets that a walk presents are such that no sum leaves 64 bits and no slice leaves the
listing. -/
namespace Converge

open Provider Program

variable {α : Type}

namespace Walk

section Readings

variable {Call : Type} {Reply : Call → Type}

def advance (source : PageSource Call Reply α) :
    Nat → Walk → Program Call Reply (List (Except Failure (List α)) × Walk)
  | 0, walk => pure ([], walk)
  | calls + 1, walk => do
    match ← next source walk with
    | (none, walk) => pure ([], walk)
    | (some reading, walk) =>
      let (readings, walk) ← advance source calls walk
      pure (reading :: readings, walk)

/-- Asks for pages, begins again and asks for pages once more. -/
def advanceAgain (source : PageSource Call Reply α) (earlier calls : Nat) :
    Program Call Reply (List (Except Failure (List α)) × Walk) := do
  let (_, walk) ← advance source earlier start
  advance source calls walk.restart

def pages : List (Except Failure (List α)) → List (List α)
  | [] => []
  | .ok items :: rest => items :: pages rest
  | .error _ :: rest => pages rest

def failures : List (Except Failure (List α)) → Nat
  | [] => 0
  | .ok _ :: rest => failures rest
  | .error _ :: rest => failures rest + 1

theorem length_eq_pages_failures (readings : List (Except Failure (List α))) :
    readings.length = (pages readings).length + failures readings := by
  induction readings with
  | nil => rfl
  | cons reading rest ih =>
    cases reading <;> simp only [List.length_cons, pages, failures] <;> omega

end Readings

/-- How many pages a listing has. Even an empty one has a page. -/
def pageCount (pageSize count : Nat) : Nat := max 1 ((count + (pageSize - 1)) / pageSize)

theorem pageCount_of_le {pageSize count : Nat} (sized : 0 < pageSize) (few : count ≤ pageSize) :
    pageCount pageSize count = 1 := by
  have fewer : (count + (pageSize - 1)) / pageSize < 2 := by
    rw [Nat.div_lt_iff_lt_mul sized]
    omega
  unfold pageCount
  omega

theorem pageCount_of_lt {pageSize count : Nat} (sized : 0 < pageSize) (more : pageSize < count) :
    pageCount pageSize count = pageCount pageSize (count - pageSize) + 1 := by
  have whole : count + (pageSize - 1) = count - pageSize + (pageSize - 1) + pageSize := by omega
  have some : 1 ≤ (count - pageSize + (pageSize - 1)) / pageSize := by
    rw [Nat.le_div_iff_mul_le sized]
    omega
  unfold pageCount
  rw [whole, Nat.add_div_right _ sized]
  omega

example : pageCount 2 0 = 1 ∧ pageCount 2 4 = 2 ∧ pageCount 2 5 = 3 := by decide

/-- What a walk still has to read, and on how many pages. Behind the first page the offset is at
least as large as a page. -/
inductive Awaits (pageSize : Nat) (items : List α) : Walk → List α → Nat → Prop where
  | none {walk : Walk} (finished : walk.finished = true) : Awaits pageSize items walk [] 0
  | page {walk : Walk} {start : Nat} (stands : walk.StandsAt start) (inside : start ≤ items.length)
      (beyond : start = 0 ∨ pageSize ≤ start) :
      Awaits pageSize items walk (items.drop start) (pageCount pageSize (items.length - start))

theorem Awaits.eq_of_finished {pageSize count : Nat} {items left : List α} {walk : Walk}
    (awaits : Awaits pageSize items walk left count) (finished : walk.finished = true) :
    left = [] ∧ count = 0 := by
  cases awaits with
  | none => exact ⟨rfl, rfl⟩
  | page stands => exact absurd (stands.1.symm.trans finished) Bool.false_ne_true

theorem Awaits.count_pos {pageSize count : Nat} {items left : List α} {walk : Walk}
    (awaits : Awaits pageSize items walk left count) (going : walk.finished = false) :
    0 < count := by
  cases awaits with
  | none finished => exact absurd (going.symm.trans finished) Bool.false_ne_true
  | page => exact Nat.le_max_left _ _

theorem start_awaits (pageSize : Nat) (items : List α) :
    Awaits pageSize items start items (pageCount pageSize items.length) :=
  .page start_standsAt (Nat.zero_le _) (.inl rfl)

theorem awaits_after_pageAt {pageSize : Nat} {items : List α} {start : Nat}
    (sized : 0 < pageSize) (inside : start ≤ items.length) :
    ∃ left count, Awaits pageSize items (after (pageAt pageSize items start)) left count ∧
      (pageAt pageSize items start).items ++ left = items.drop start ∧
      count + 1 = pageCount pageSize (items.length - start) := by
  have next := after_pageAt pageSize items start
  split at next
  · next more =>
    refine ⟨_, _, .page next (Nat.le_of_lt more) (.inr (Nat.le_add_left _ _)), ?_, ?_⟩
    · rw [items_pageAt, ← List.drop_drop, List.take_append_drop]
    · rw [← Nat.sub_sub, ← pageCount_of_lt sized (by omega)]
  · next last =>
    have rest : (items.drop start).length ≤ pageSize := by
      rw [List.length_drop]
      omega
    refine ⟨[], 0, .none next, ?_, ?_⟩
    · rw [items_pageAt, List.take_of_length_le rest, List.append_nil]
    · rw [pageCount_of_le sized (by omega)]

end Walk

namespace Provider

section Arithmetic

def sum? (number other : Nat) : Option Nat :=
  if number + other < Nat.pow 2 64 then some (number + other) else none

/-- The items between two offsets, if there are such. -/
def slice? (items : List α) (start stop : Nat) : Option (List α) :=
  if start ≤ stop ∧ stop ≤ items.length then some ((items.take stop).drop start) else none

/-- The page of a listing that starts at an offset, if the sum has no more than 64 bits and the
slice does not leave the listing. -/
def pageAt? (pageSize : Nat) (items : List α) (start : Nat) : Option (Page α) := do
  let stop := min (← sum? start pageSize) items.length
  let slice ← slice? items start stop
  pure ⟨slice, if stop < items.length then some (toString stop) else none⟩

def paginate? (pageSize : Nat) (items : List α) (token : Option String) :
    Option (Except Failure (Page α)) :=
  match token with
  | none => (pageAt? pageSize items 0).map .ok
  | some text =>
    match (readOffset? text).filter fun offset => offset ≤ items.length with
    | some start => (pageAt? pageSize items start).map .ok
    | none => some (.error (.provider invalidNextTokenCode s!"invalid next token {text}"))

theorem pageAt?_eq_some {pageSize start : Nat} {items : List α} (inside : start ≤ items.length)
    (fits : start + pageSize < Nat.pow 2 64) :
    pageAt? pageSize items start = some (pageAt pageSize items start) := by
  have between : start ≤ min (start + pageSize) items.length := by omega
  have sum : sum? start pageSize = some (start + pageSize) := if_pos fits
  have slice : slice? items start (min (start + pageSize) items.length) =
      some (pageAt pageSize items start).items :=
    if_pos ⟨between, Nat.min_le_right _ _⟩
  simp only [pageAt?, sum, slice, Option.bind_eq_bind, Option.bind_some]
  rfl

theorem paginate?_of_standsAt {walk : Walk} {pageSize start : Nat} {items : List α}
    (stands : walk.StandsAt start) (inside : start ≤ items.length)
    (fits : start + pageSize < Nat.pow 2 64) :
    paginate? pageSize items walk.token = some (paginate pageSize items walk.token) := by
  rw [Walk.paginate_of_standsAt stands pageSize items inside]
  obtain ⟨-, ⟨first, rfl⟩ | later⟩ := stands
  · simp [paginate?, first, pageAt?_eq_some inside fits]
  · simp [paginate?, later, Option.filter, inside, pageAt?_eq_some inside fits]

end Arithmetic

def Call.pageToken? : Call → Option (Option String)
  | listAddresses _ token | listAssociations _ token => some token
  | _ => none

def Call.Computes (pageSize : Nat) (items : List α) (call : Call) : Prop :=
  ∃ token, call.pageToken? = some token ∧
    paginate? pageSize items token = some (paginate pageSize items token)

inductive Registry.Lists (registry : Registry) :
    {α : Type} → PageSource Call Call.Reply α → List α → Prop where
  | addresses {id : String} {stored : StoredEndpoint}
      (held : registry.endpoints.get? id = some stored) :
      Lists registry (fun token => ask (.listAddresses id token)) stored.addresses
  | associations (id : String) :
      Lists registry (fun token => ask (.listAssociations id token)) (registry.associationsOf id)

namespace World

structure Spends (bounds : Bounds) (failures : Nat) (before after : World) : Prop where
  registry : after.registry = before.registry
  site : after.site = before.site
  faults : bounds = .unbounded →
    after.journal.faults.length + failures ≤ before.journal.faults.length

theorem Spends.refl (bounds : Bounds) (world : World) : Spends bounds 0 world world :=
  ⟨rfl, rfl, fun _ => Nat.le_refl _⟩

theorem Spends.trans {bounds : Bounds} {some more : Nat} {first second third : World}
    (before : Spends bounds some first second) (after : Spends bounds more second third) :
    Spends bounds (some + more) first third where
  registry := after.registry.trans before.registry
  site := after.site.trans before.site
  faults free := by
    have one := before.faults free
    have two := after.faults free
    omega

theorem length_faults_enter (journal : Journal) (call : Call) :
    (journal.enter call).2.faults.length + (journal.enter call).1.toList.length =
      journal.faults.length := by
  unfold Journal.enter
  simp only
  split
  · next fault found =>
    have member := List.mem_of_find?_eq_some found
    have erased := List.length_eraseP_of_mem member (List.find?_some found)
    have some := List.length_pos_of_mem member
    simp only [erased, Option.toList_some, List.length_singleton]
    omega
  · rfl

theorem begin_spends (world : World) (bounds : Bounds) (call : Call) :
    Spends bounds (world.begin bounds call).1.toList.length world
      (world.begin bounds call).2 := by
  unfold begin
  split
  · next failure late =>
    refine ⟨rfl, rfl, fun free => ?_⟩
    rw [free] at late
    cases late
  · exact ⟨rfl, rfl, fun _ => Nat.le_of_eq (length_faults_enter world.journal call)⟩

theorem spends_look {world : World} {bounds : Bounds} (call : Call) {found : call.Reply}
    (looks : ∀ now, world.registry.perform world.site now call = world.registry.look found) :
    ((world.serve bounds call).1 = found ∧ Spends bounds 0 world (world.serve bounds call).2) ∨
      ∃ failure, (world.serve bounds call).1 = .error failure ∧
        Spends bounds 1 world (world.serve bounds call).2 := by
  have begun := world.begin_spends bounds call
  unfold serve
  split
  · next failure rest refused =>
    rw [refused] at begun
    exact .inr ⟨failure, rfl, begun⟩
  · next rest accepted =>
    rw [accepted] at begun
    simp only
    split
    · next failure ended =>
      refine .inr ⟨failure, rfl, begun.registry, begun.site, fun free => ?_⟩
      rw [free] at ended
      unfold ending at ended
      split at ended <;> cases ended
    · have looked := looks { rest with time := (rest.ending bounds).1 }.now
      rw [← begun.registry, ← begun.site] at looked
      unfold complete
      rw [looked]
      cases found with
      | ok value => exact .inl ⟨rfl, begun.registry, begun.site, begun.faults⟩
      | error failure => exact .inl ⟨rfl, begun.registry, begun.site, begun.faults⟩

end World

theorem Registry.Lists.fetch {world : World} {source : PageSource Call Call.Reply α}
    {items : List α} (lists : world.registry.Lists source items) (bounds : Bounds)
    (token : Option String) :
    let fetched := (source token).outcome.run (World.serve bounds) world
    (fetched.1 = paginate world.site.pageSize items token ∧
        World.Spends bounds 0 world fetched.2) ∨
      ∃ failure, fetched.1 = .error failure ∧ World.Spends bounds 1 world fetched.2 := by
  cases lists with
  | @addresses id stored held =>
    refine World.spends_look (.listAddresses id token) fun now => ?_
    simp only [Registry.perform, Registry.endpoint_eq_ok_iff.2 held]
    rfl
  | associations id => exact World.spends_look (.listAssociations id token) fun _ => rfl

theorem Registry.Lists.always {registry : Registry} {source : PageSource Call Call.Reply α}
    {items : List α} (lists : registry.Lists source items) (refusal : Call → Failure → Prop)
    (site : Site) (token : Option String) :
    (source token).outcome.Always (Answered site refusal) (fun reply after => after = registry ∧
      (reply = paginate site.pageSize items token ∨
        ∃ failure, reply = .error failure ∧ Refused refusal failure)) registry := by
  cases lists with
  | addresses held => exact Resolver.Endpoint.always_listAddresses held token
  | associations id => exact Resolver.Rule.always_listAssociations id token

theorem Registry.Lists.tells {registry : Registry} {source : PageSource Call Call.Reply α}
    {items : List α} (lists : registry.Lists source items) (token : Option String) (log : Log)
    (fine : Faultless log) :
    (source token).outcome.Always (traced anyReply)
      (fun reply after => (∃ page, reply = .ok page) ↔ Faultless after.2) ((), log) := by
  cases lists with
  | addresses | associations =>
    rintro reply ⟨⟨⟩, _⟩ ⟨-, rfl⟩
    show Succeeded ⟨_, reply⟩ ↔ Faultless (log ++ [⟨_, reply⟩])
    rw [faultless_concat_iff, and_iff_right fine]

theorem Registry.Lists.pageToken {registry : Registry} {source : PageSource Call Call.Reply α}
    {items : List α} (lists : registry.Lists source items) (bounds : Bounds)
    (token : Option String) (world : World) :
    ∀ taken ∈ (source token).outcome.transcript (World.serve bounds) world,
      taken.call.pageToken? = some token := by
  cases lists with
  | addresses | associations =>
    intro taken member
    cases List.mem_singleton.1 member
    rfl

end Provider

namespace Walk

section Advance

variable {Call : Type} {Reply : Call → Type} {source : PageSource Call Reply α} {walk : Walk}

theorem advance_of_finished (finished : walk.finished = true) (calls : Nat) :
    advance source calls walk = pure ([], walk) := by
  cases calls with
  | zero => rfl
  | succ calls =>
    rw [advance, next_of_finished source walk finished]
    rfl

theorem advance_succ (going : walk.finished = false) (calls : Nat) :
    advance source (calls + 1) walk = (do
      match ← (source walk.token).outcome with
      | .ok page =>
        let (readings, walk) ← advance source calls (after page)
        pure (.ok page.items :: readings, walk)
      | .error failure =>
        let (readings, walk) ← advance source calls walk
        pure (.error failure :: readings, walk)) := by
  rw [advance, next, going, if_neg Bool.false_ne_true, bind_assoc]
  refine congrArg _ (funext fun reply => ?_)
  cases reply <;> rfl

end Advance

/-- What comes of so many fetches: the pages that were read and those that are left make up what
there was to read, and no fetch asked for a page that cannot be computed. -/
structure Advanced (bounds : Bounds) (pageSize : Nat) (items : List α) (calls : Nat)
    (rest : List α) (count : Nat) (before : World)
    (ended : (List (Except Failure (List α)) × Walk) × World) (log : Log) : Prop where
  spends : World.Spends bounds (failures ended.1.1) before ended.2
  remains : ∃ left more, Awaits pageSize items ended.1.2 left more ∧
    (pages ended.1.1).flatten ++ left = rest ∧ (pages ended.1.1).length + more = count
  busy : ended.1.2.finished = false → ended.1.1.length = calls
  safe : ∀ taken ∈ log, taken.call.Computes pageSize items

namespace Advanced

variable {bounds : Bounds} {pageSize : Nat} {items left rest page : List α} {calls more count : Nat}
  {before middle : World} {ended : (List (Except Failure (List α)) × Walk) × World}
  {first log : Log}

theorem read (spent : World.Spends bounds 0 before middle)
    (safe : ∀ taken ∈ first, taken.call.Computes pageSize items)
    (pieces : page ++ left = rest) (number : more + 1 = count)
    (later : Advanced bounds pageSize items calls left more middle ended log) :
    Advanced bounds pageSize items (calls + 1) rest count before
      ((.ok page :: ended.1.1, ended.1.2), ended.2) (first ++ log) where
  spends := by
    rw [failures, ← Nat.zero_add (failures _)]
    exact spent.trans later.spends
  remains := by
    obtain ⟨others, further, awaits, parts, numbers⟩ := later.remains
    refine ⟨others, further, awaits, ?_, ?_⟩
    · rw [pages, List.flatten_cons, List.append_assoc, parts, pieces]
    · rw [pages, List.length_cons]
      omega
  busy going := congrArg Nat.succ (later.busy going)
  safe := List.forall_mem_append.2 ⟨safe, later.safe⟩

theorem fail {failure : Failure} (spent : World.Spends bounds 1 before middle)
    (safe : ∀ taken ∈ first, taken.call.Computes pageSize items)
    (later : Advanced bounds pageSize items calls rest count middle ended log) :
    Advanced bounds pageSize items (calls + 1) rest count before
      ((.error failure :: ended.1.1, ended.1.2), ended.2) (first ++ log) where
  spends := by
    rw [failures, Nat.add_comm]
    exact spent.trans later.spends
  remains := later.remains
  busy going := congrArg Nat.succ (later.busy going)
  safe := List.forall_mem_append.2 ⟨safe, later.safe⟩

theorem finished (advanced : Advanced bounds pageSize items calls rest count before ended log)
    (enough : count + failures ended.1.1 ≤ calls) : ended.1.2.finished = true := by
  cases going : ended.1.2.finished with
  | true => rfl
  | false =>
    obtain ⟨left, more, awaits, -, numbers⟩ := advanced.remains
    have some := awaits.count_pos going
    have busy := advanced.busy going
    have parts := length_eq_pages_failures ended.1.1
    omega

theorem whole (advanced : Advanced bounds pageSize items calls rest count before ended log)
    (finished : ended.1.2.finished = true) :
    (pages ended.1.1).flatten = rest ∧ (pages ended.1.1).length = count := by
  obtain ⟨left, more, awaits, parts, numbers⟩ := advanced.remains
  obtain ⟨rfl, rfl⟩ := awaits.eq_of_finished finished
  exact ⟨(List.append_nil _).symm.trans parts, numbers⟩

end Advanced

theorem advanced {world : World} {source : PageSource Call Call.Reply α} {items rest : List α}
    {pageSize count : Nat} {walk : Walk} (lists : world.registry.Lists source items)
    (size : world.site.pageSize = pageSize) (sized : 0 < pageSize) (fits : pageSize < Nat.pow 2 64)
    (few : items.length < Nat.pow 2 63) (bounds : Bounds) (calls : Nat)
    (awaits : Awaits pageSize items walk rest count) :
    Advanced bounds pageSize items calls rest count world
      ((advance source calls walk).run (World.serve bounds) world)
      ((advance source calls walk).transcript (World.serve bounds) world) := by
  induction calls generalizing walk rest count world with
  | zero =>
    exact ⟨.refl bounds world, ⟨rest, count, awaits, rfl, Nat.zero_add _⟩, fun _ => rfl,
      List.forall_mem_nil _⟩
  | succ calls ih =>
    cases awaits with
    | none finished =>
      rw [advance_of_finished finished]
      exact ⟨.refl bounds world, ⟨[], 0, .none finished, rfl, rfl⟩,
        fun going => absurd (going.symm.trans finished) Bool.false_ne_true,
        List.forall_mem_nil _⟩
    | @page start stands inside beyond =>
      -- Behind the first page the offset is at least as large as a page, so the sum is less than
      -- twice the length of the listing.
      have sum : start + pageSize < Nat.pow 2 64 := by
        have double : Nat.pow 2 64 = 2 * Nat.pow 2 63 := rfl
        rcases beyond with rfl | beyond <;> omega
      have safe : ∀ taken ∈ (source walk.token).outcome.transcript (World.serve bounds) world,
          taken.call.Computes pageSize items := fun taken member =>
        ⟨walk.token, lists.pageToken bounds walk.token world taken member,
          paginate?_of_standsAt stands inside sum⟩
      have fetched := lists.fetch bounds walk.token
      rw [size, paginate_of_standsAt stands _ _ inside] at fetched
      rw [advance_succ stands.1, run_bind, transcript_bind]
      generalize (source walk.token).outcome.run (World.serve bounds) world = answer at fetched ⊢
      obtain ⟨reply, middle⟩ := answer
      rcases fetched with ⟨given, spent⟩ | ⟨failure, given, spent⟩
      · cases given
        obtain ⟨left, more, further, pieces, number⟩ := awaits_after_pageAt sized inside
        have later := ih (spent.registry.symm ▸ lists) (spent.site.symm ▸ size) further
        simp only [run_bind, transcript_bind, pure_eq, run_done, transcript, List.append_nil]
        exact later.read spent safe pieces number
      · cases given
        have later := ih (spent.registry.symm ▸ lists) (spent.site.symm ▸ size)
          (.page stands inside beyond)
        simp only [run_bind, transcript_bind, pure_eq, run_done, transcript, List.append_nil]
        exact later.fail spent safe

section Collect

variable {source : PageSource Call Call.Reply α} {items : List α}

theorem always_collectFrom_faultless
    (tells : ∀ token log, Faultless log → (source token).outcome.Always (traced anyReply)
      (fun reply after => (∃ page, reply = .ok page) ↔ Faultless after.2) ((), log))
    (allowed : Nat) (walk : Walk) (found : List α) {log : Log} (fine : Faultless log) :
    (collectFrom source allowed walk found).outcome.Always (traced anyReply)
      (fun reply after => (∃ all, reply = .ok all) ↔ Faultless after.2) ((), log) := by
  induction allowed generalizing walk found log with
  | zero => exact iff_of_true ⟨found, rfl⟩ fine
  | succ allowed ih =>
    refine (always_bind _ _ _ _).2 ?_
    unfold next
    split
    · exact iff_of_true ⟨found, rfl⟩ fine
    · refine (always_bind _ _ _ _).2 ((tells walk.token log fine).imp ?_)
      rintro reply ⟨⟨⟩, longer⟩ told
      cases reply with
      | ok page => exact ih _ _ (told.1 ⟨page, rfl⟩)
      | error failure =>
        refine iff_of_false (fun ⟨_, same⟩ => by cases same) fun fine => ?_
        obtain ⟨page, same⟩ := told.2 fine
        cases same

theorem collect_eq_ok_iff {world : World} (lists : world.registry.Lists source items)
    (sized : 0 < world.site.pageSize) (room : items.length ≤ pageLimit) (bounds : Bounds) :
    ((start.collect source).outcome.run (World.serve bounds) world).1 = .ok items ↔
      Faultless ((start.collect source).outcome.transcript (World.serve bounds) world) := by
  have reads := always_collect sized (lists.always anyRefusal world.site) room
  have tells : (∃ all, ((start.collect source).outcome.run (World.serve bounds) world).1 =
      .ok all) ↔
      Faultless ((start.collect source).outcome.transcript (World.serve bounds) world) :=
    post_run_recorded (World.serve bounds) _ world []
      (always_collectFrom_faultless lists.tells pageLimit start [] (List.forall_mem_nil _))
  generalize (start.collect source).outcome = program at reads tells ⊢
  have read : (program.run (World.serve bounds) world).1 = .ok items ∨
      ∃ failure, (program.run (World.serve bounds) world).1 = .error failure ∧
        Refused anyRefusal failure :=
    (World.post_run program anyRefusal (fun _ _ _ => trivial) (fun _ _ _ _ _ _ _ => trivial)
      reads).2
  constructor
  · intro whole
    exact tells.1 ⟨items, whole⟩
  · intro fine
    obtain ⟨all, same⟩ := tells.2 fine
    rcases read with whole | ⟨failure, failed, -⟩
    · exact whole
    · cases same.symm.trans failed

end Collect

/-- A walk over a listing of a provider, begun again at any point, ends as soon as enough fetches
have succeeded, and on terms that cut nothing off it takes no more than the faults that are arranged.
The pages that it has read are the listing from its beginning, and at the end all of it, on as many
pages as it has. No sum that it has a provider compute leaves 64 bits, and no slice leaves the
listing. A walk that stops at the first failure returns the listing exactly if there was none. -/
theorem listing_walked {world : World} {source : PageSource Call Call.Reply α} {items : List α}
    (lists : world.registry.Lists source items) (sized : 0 < world.site.pageSize)
    (fits : world.site.pageSize < Nat.pow 2 64) (few : items.length < Nat.pow 2 63)
    (bounds : Bounds) (earlier calls : Nat) :
    let again := advanceAgain source earlier calls
    let readings := (again.run (World.serve bounds) world).1.1
    let walk := (again.run (World.serve bounds) world).1.2
    let count := pageCount world.site.pageSize items.length
    let all := (start.collect source).outcome
    (count + failures readings ≤ calls → walk.finished = true) ∧
    (bounds = .unbounded → count + world.journal.faults.length ≤ calls → walk.finished = true) ∧
    (pages readings).flatten <+: items ∧
    (walk.finished = true → (pages readings).flatten = items ∧ (pages readings).length = count) ∧
    (∀ taken ∈ again.transcript (World.serve bounds) world,
      taken.call.Computes world.site.pageSize items) ∧
    ((all.run (World.serve bounds) world).1 = .ok items ↔
      Faultless (all.transcript (World.serve bounds) world)) := by
  intro again readings walk count all
  have before := advanced lists rfl sized fits few bounds earlier
    (start_awaits world.site.pageSize items)
  let middle := ((advance source earlier start).run (World.serve bounds) world).2
  have spent : World.Spends bounds _ world middle := before.spends
  have after := advanced (spent.registry.symm ▸ lists) (congrArg Site.pageSize spent.site) sized
    fits few bounds calls (start_awaits world.site.pageSize items)
  have course : again.run (World.serve bounds) world =
      (advance source calls start).run (World.serve bounds) middle := run_bind _ _ _ _
  have record : again.transcript (World.serve bounds) world =
      (advance source earlier start).transcript (World.serve bounds) world ++
        (advance source calls start).transcript (World.serve bounds) middle :=
    transcript_bind _ _ _ _
  rw [← course] at after
  refine ⟨after.finished, fun free enough => after.finished ?_, ?_, after.whole, ?_,
    collect_eq_ok_iff lists sized (Nat.le_of_lt (Nat.lt_trans few ?_)) bounds⟩
  · have left := spent.faults free
    have used : _ + failures readings ≤ middle.journal.faults.length := after.spends.faults free
    show count + failures readings ≤ calls
    omega
  · obtain ⟨left, more, -, parts, -⟩ := after.remains
    exact ⟨left, parts⟩
  · rw [record]
    exact List.forall_mem_append.2 ⟨before.safe, after.safe⟩
  · exact Nat.pow_lt_pow_right (by decide) (by decide)

/-- A rule for four networks, listed two at a time by a provider that is about to fail twice. -/
def hampered : World :=
  let world := { World.still with site := { World.still.site with pageSize := 2 } }.completeAll
    [.createRule
      { creatorRequestId := "inward-0"
        name := "inward"
        domainName := "corp.example."
        ruleType := .system
        resolverEndpointId := none
        targetIps := []
        tags := [] },
      .associateRule "rslvr-rr-00000000000000001" "vpc-1",
      .associateRule "rslvr-rr-00000000000000001" "vpc-2",
      .associateRule "rslvr-rr-00000000000000001" "vpc-3",
      .associateRule "rslvr-rr-00000000000000001" "vpc-4"]
  { world with
    journal := (world.journal.failNth ⟨.listAssociations, 2, "ThrottlingException"⟩).failNth
      ⟨.listAssociations, 3, "ThrottlingException"⟩ }

theorem listing_walked_hampered :
    let again := advanceAgain
      (fun token => ask (.listAssociations "rslvr-rr-00000000000000001" token)) 2 4
    let (readings, walk) := (again.run (World.serve .unbounded) hampered).1
    walk.finished = true ∧ failures readings = 1 ∧ (pages readings).length = 2 ∧
      (pages readings).flatten.map AssociationRecord.vpcId =
        ["vpc-1", "vpc-2", "vpc-3", "vpc-4"] := by
  have walked := listing_walked
    (show hampered.registry.Lists _ _ from .associations "rslvr-rr-00000000000000001")
    (by decide) (by decide) (by decide +kernel) .unbounded 2 4
  have finished := walked.2.1 rfl (by decide +kernel)
  obtain ⟨whole, number⟩ := walked.2.2.2.1 finished
  refine ⟨finished, by decide +kernel, number.trans (by decide +kernel), ?_⟩
  rw [whole]
  decide +kernel

end Walk

end Converge
