import Phrasebook.Proofs.Traffic.Flights
import Phrasebook.Proofs.Traffic.Log

namespace Phrasebook.Traffic

variable {σ : Type}

/-- The log has the end of a load if and only if the load has come to it. -/
def Recorded (log : List (Event σ)) (flight : Flight σ) : Prop :=
  ∀ outcome, Ended log flight.number outcome ↔ flight.progress.outcome? = some outcome

def Standing (log : List (Event σ)) (caller : Nat) : Caller σ → Prop
  | .waiting key flight =>
      .joined caller flight.number key ∈ log ∧ Recorded log flight ∧ ¬ Returned log caller ∧
        ∀ number name outcome, .unloaded caller number name outcome ∉ log
  | .leaving key number outcome own =>
      .joined caller number key ∈ log ∧ Ended log number outcome ∧ ¬ Returned log caller ∧
        (∃ owner, .unloaded owner number key outcome ∈ log) ∧
        (own = true ↔ .unloaded caller number key outcome ∈ log)
  | .gone => True

structure Consistent (first : Translator σ) (traffic : Traffic σ) : Prop where
  hooks : traffic.translator.hooks = first.hooks
  accounted : stateAfter first traffic.log = (traffic.translator.store, traffic.translator.world)
  orderly : Orderly first traffic.log
  distinct : Keyed.Distinct traffic.translator.flights.pending
  numbered : ∀ number key, Started traffic.log number key →
    number < traffic.translator.flights.started
  pending : ∀ key flight, traffic.translator.flights.find? key = some flight →
    UnderWay traffic.log flight.number key ∧ Recorded traffic.log flight ∧
      ¬ Merged traffic.translator.store key
  underWay : ∀ number key, UnderWay traffic.log number key →
    ∃ progress, traffic.translator.flights.find? key = some ⟨number, progress⟩
  known : ∀ caller number key, .joined caller number key ∈ traffic.log →
    caller < traffic.callers.length
  callers : ∀ caller standing, traffic.callers[caller]? = some standing →
    Standing traffic.log caller standing
  /-- A call that has unloaded its load is about to tell the hooks, or has done so. -/
  owners : ∀ caller number key outcome, .unloaded caller number key outcome ∈ traffic.log →
    traffic.callers[caller]? = some (.leaving key number outcome true) ∨
      ∃ result, .returned caller number key result true ∈ traffic.log

theorem quiet_consistent (translator : Translator σ) : Consistent translator (quiet translator) where
  hooks := rfl
  accounted := rfl
  orderly := .nil
  distinct := List.nodup_nil
  numbered := by simp [quiet, Started]
  pending := by simp [quiet]
  underWay := by simp [quiet, UnderWay, Started]
  known := by simp [quiet]
  callers := by simp [quiet]
  owners := by simp [quiet]

variable {log events : List (Event σ)} {number caller : Nat} {key : LoadKey}
  {outcome : LoadOutcome}

theorem Recorded.append {flight : Flight σ} (recorded : Recorded log flight)
    (silent : ∀ outcome, ¬ Ended events flight.number outcome) :
    Recorded (log ++ events) flight := by
  intro outcome
  rw [ended_append, ← recorded outcome, or_iff_left (silent outcome)]

theorem UnderWay.append (underWay : UnderWay log number key)
    (kept : ¬ Unloaded events number) : UnderWay (log ++ events) number key :=
  ⟨started_append.mpr (.inl underWay.1), fun unloaded =>
    (unloaded_append.mp unloaded).elim underWay.2 kept⟩

theorem leaving_append {own : Bool} (standing : Standing log caller (.leaving key number outcome own))
    (notReturned : ¬ Returned events caller)
    (notUnloading : ∀ number key outcome, .unloaded caller number key outcome ∉ events) :
    Standing (log ++ events) caller (.leaving key number outcome own) := by
  obtain ⟨joined, ended, stays, ⟨owner, unloaded⟩, isOwner⟩ := standing
  refine ⟨List.mem_append_left _ joined, ended_append.mpr (.inl ended), ?_,
    ⟨owner, List.mem_append_left _ unloaded⟩, ?_⟩
  · rw [returned_append]
    exact fun returned => returned.elim stays notReturned
  · rw [isOwner, List.mem_append, or_iff_left (notUnloading _ _ _)]

theorem waiting_append {flight : Flight σ} (standing : Standing log caller (.waiting key flight))
    (silent : ∀ outcome, ¬ Ended events flight.number outcome)
    (notReturned : ¬ Returned events caller)
    (notUnloading : ∀ number key outcome, .unloaded caller number key outcome ∉ events) :
    Standing (log ++ events) caller (.waiting key flight) := by
  obtain ⟨joined, recorded, stays, notUnloaded⟩ := standing
  refine ⟨List.mem_append_left _ joined, recorded.append silent, ?_, ?_⟩
  · rw [returned_append]
    exact fun returned => returned.elim stays notReturned
  · intro number name outcome member
    exact (List.mem_append.mp member).elim (notUnloaded _ _ _) (notUnloading _ _ _)

/-- Events that say nothing of loads and ends of calls change nothing for a call. -/
theorem standing_append {standing : Caller σ} (held : Standing log caller standing)
    (silent : ∀ number key outcome, .joined caller number key ∈ log →
      ¬ Ended events number outcome)
    (notReturned : ¬ Returned events caller)
    (notUnloading : ∀ number key outcome, .unloaded caller number key outcome ∉ events) :
    Standing (log ++ events) caller standing := by
  cases standing with
  | waiting key flight =>
      exact waiting_append held (fun outcome => silent _ _ outcome held.1) notReturned
        notUnloading
  | leaving key number outcome own => exact leaving_append held notReturned notUnloading
  | gone => trivial

variable {flight : Flight σ} {world : σ}

@[simp] theorem ended_ending :
    Ended (flight.ending world) number outcome ↔
      number = flight.number ∧ flight.progress.outcome? = some outcome := by
  unfold Ended Flight.ending
  split
  · next found => simp [found, eq_comm]
  · next found => simp [found]

@[simp] theorem not_started_ending : ¬ Started (flight.ending world) number key := by
  unfold Started Flight.ending
  split <;> simp

@[simp] theorem not_unloaded_ending : ¬ Unloaded (flight.ending world) number := by
  unfold Unloaded Flight.ending
  split <;> simp

@[simp] theorem not_returned_ending : ¬ Returned (flight.ending world) caller := by
  unfold Returned Flight.ending
  split <;> simp

@[simp] theorem joined_notMem_ending : .joined caller number key ∉ flight.ending world := by
  unfold Flight.ending
  split <;> simp

@[simp] theorem unloaded_notMem_ending :
    .unloaded caller number key outcome ∉ flight.ending world := by
  unfold Flight.ending
  split <;> simp

end Phrasebook.Traffic
