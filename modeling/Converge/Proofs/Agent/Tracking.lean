import Converge.Proofs.Agent.Runs
import Converge.Proofs.Traffic.Safety

/-! Runs keep to the resources of a manifest. Whatever a worker has under way, and whatever the
table says of its resource, is about the one live resource of its token. -/
namespace Converge

open Provider Resolver Program

structure Worker.Tracked (world : World) (table : StatusTable) (worker : Worker) : Prop where
  shown : ∀ id ∈ table.id? worker.job.identity,
    world.registry.tokenOf worker.job.identity.1 id = some (worker.job.token .epoch).text
  flying : ∀ errand ∈ worker.phase.errand?, Flight.IsSafe world.site (worker.job.token .epoch)
    world.registry ⟨worker.job.identity, errand, false⟩

namespace Worker.Tracked

variable {world after : World} {table : StatusTable} {worker : Worker}

theorem of_keeps (tracked : worker.Tracked world table) (site : after.site = world.site)
    (keeps : world.registry.Keeps after.registry) : worker.Tracked after table where
  shown id member := keeps _ id _ (tracked.shown id member)
  flying errand member := site ▸ (tracked.flying errand member).of_keeps keeps

theorem reports {dated : Timestamp → Report} (tracked : worker.Tracked world table)
    (done : worker.phase.errand? = some (.done dated)) (stop : Timestamp) :
    (dated stop).identity = worker.job.identity ∧ ∀ id ∈ (dated stop).id?,
      world.registry.tokenOf worker.job.identity.1 id = some (worker.job.token .epoch).text := by
  obtain ⟨same, shows⟩ := (tracked.flying _ done).reports stop
  have same : (dated stop).identity = worker.job.identity := same
  unfold Report.IsOf at shows
  rw [same] at shows
  exact ⟨same, shows⟩

end Worker.Tracked

namespace Run

variable {agent : Agent} {world : World} {shutdownAt : Option Nat} {log : List Made}
  {run after : Run}
  {worker moved : Worker}

theorem Turn.keeps (turn : Turn run worker after moved) (reached : run.world.Reachable)
    (tracked : worker.Tracked run.world run.table) :
    run.world.registry.Keeps after.world.registry := by
  cases turn with
  | rests | departs | reports => exact .refl _
  | waits asks goes onward same => exact same ▸ .refl _
  | hears asks goes onward answered =>
    have proper := (tracked.flying _ asks).proper
    exact (Shared.of_answered reached.valid.1 proper.1.keeping answered).kept

theorem Turn.tracked (turn : Turn run worker after moved) (reached : run.world.Reachable)
    (lasting : ∀ start, worker.job.token start = worker.job.token .epoch)
    (tracked : worker.Tracked run.world run.table) : moved.Tracked after.world after.table := by
  have keeps := turn.keeps reached tracked
  cases turn with
  | rests idle rests stops => exact ⟨tracked.shown, fun errand there => by simp [rests] at there⟩
  | departs idle goes =>
    refine ⟨tracked.shown, fun errand there => ?_⟩
    obtain rfl : _ = errand := Option.some.inj (goes.symm.trans there)
    exact Job.isSafe_errand_of_shown lasting tracked.shown reached.valid.1 _ _
  | @waits errand world phase asks goes onward same =>
    refine ⟨(tracked.of_keeps onward.site keeps).shown, fun errand there => ?_⟩
    exact (tracked.of_keeps onward.site keeps).flying errand (asks.trans (goes.symm.trans there))
  | hears asks goes onward answered =>
    refine ⟨(tracked.of_keeps onward.site keeps).shown, fun errand there => ?_⟩
    obtain rfl : _ = errand := Option.some.inj (goes.symm.trans there)
    have fine := tracked.flying _ asks
    have shared := Shared.of_answered reached.valid.1 fine.proper.1.keeping answered
    exact onward.site ▸ fine.next shared
  | reports done rests stops =>
    obtain ⟨same, shows⟩ := tracked.reports done run.world.now
    refine ⟨fun id member => ?_, fun errand there => by simp [rests] at there⟩
    rcases Report.id?_record _ with new | old
    · rw [same] at new
      exact shows id (new ▸ member)
    · rw [same] at old
      exact tracked.shown id (old ▸ member)

theorem Turn.others (turn : Turn run worker after moved) {identity : Identity}
    (tracked : worker.Tracked run.world run.table) (other : identity ≠ worker.job.identity) :
    after.table.entry identity = run.table.entry identity := by
  cases turn with
  | rests | departs | waits | hears => rfl
  | reports done rests stops =>
    have own := (tracked.reports done run.world.now).1
    exact Report.entry_record_other _ (own.symm ▸ other.symm)

theorem Reached.tracked (steady : Steady agent.jobs) (new : world.Reachable)
    (blank : agent.table = ∅) (reached : Reached agent world shutdownAt log run) :
    ∀ worker ∈ run.workers, worker.Tracked run.world run.table := by
  refine (reached.keeps steady.apart (fun _ _ _ => True)
    (fun _ world table worker => worker.Tracked world table) trivial (fun job _ => ⟨?_, nofun⟩)
    (fun log table before after onward same => ⟨id, fun worker tracked =>
      tracked.of_keeps onward.site (same ▸ .refl _)⟩) ?_).2
  · simp [blank]
  · intro log run worker after moved reached member turn _ tracked
    have reachable := reached.reachable new
    refine ⟨trivial, turn.tracked reachable ?_ tracked, fun other there apart kept => ?_⟩
    · exact fun start => steady.lasting _ (reached.hired member) start _
    · have stays := kept.of_keeps turn.onward.site (turn.keeps reachable tracked)
      have same := turn.others tracked apart
      exact ⟨fun id member => stays.shown id (by rwa [StatusTable.id?, same] at member),
        stays.flying⟩

end Run

end Converge
