import Phrasebook.Proofs.Order
import Phrasebook.Proofs.Traffic.Basic

namespace Phrasebook.Traffic

variable {σ : Type} {log events : List (Event σ)} {event : Event σ}
  {number caller : Nat} {key : LoadKey} {outcome : LoadOutcome}

def Started (log : List (Event σ)) (number : Nat) (key : LoadKey) : Prop :=
  ∃ world, .started number key world ∈ log

def Ended (log : List (Event σ)) (number : Nat) (outcome : LoadOutcome) : Prop :=
  ∃ world, .ended number outcome world ∈ log

def Unloaded (log : List (Event σ)) (number : Nat) : Prop :=
  ∃ caller key outcome, .unloaded caller number key outcome ∈ log

def UnderWay (log : List (Event σ)) (number : Nat) (key : LoadKey) : Prop :=
  Started log number key ∧ ¬ Unloaded log number

def Returned (log : List (Event σ)) (caller : Nat) : Prop :=
  ∃ number key result own, .returned caller number key result own ∈ log

def unloads (number : Nat) : Event σ → Bool
  | .unloaded _ other _ _ => other == number
  | _ => false

def tells (number : Nat) : Event σ → Bool
  | .returned _ other _ _ own => other == number && own
  | _ => false

theorem unloads_iff :
    unloads number event = true ↔
      ∃ caller key outcome, event = .unloaded caller number key outcome := by
  cases event <;> simp [unloads]

theorem tells_iff :
    tells number event = true ↔
      ∃ caller key result, event = .returned caller number key result true := by
  cases event <;> simp [tells]

@[simp] theorem not_started_nil : ¬ Started ([] : List (Event σ)) number key := by
  simp [Started]

@[simp] theorem started_cons :
    Started (event :: events) number key ↔
      (∃ world, event = .started number key world) ∨ Started events number key := by
  simp only [Started, List.mem_cons, exists_or, eq_comm]

@[simp] theorem started_append :
    Started (log ++ events) number key ↔ Started log number key ∨ Started events number key := by
  simp only [Started, List.mem_append, exists_or]

@[simp] theorem not_ended_nil : ¬ Ended ([] : List (Event σ)) number outcome := by
  simp [Ended]

@[simp] theorem ended_cons :
    Ended (event :: events) number outcome ↔
      (∃ world, event = .ended number outcome world) ∨ Ended events number outcome := by
  simp only [Ended, List.mem_cons, exists_or, eq_comm]

@[simp] theorem ended_append :
    Ended (log ++ events) number outcome ↔
      Ended log number outcome ∨ Ended events number outcome := by
  simp only [Ended, List.mem_append, exists_or]

@[simp] theorem not_unloaded_nil : ¬ Unloaded ([] : List (Event σ)) number := by
  simp [Unloaded]

@[simp] theorem unloaded_cons :
    Unloaded (event :: events) number ↔
      (∃ caller key outcome, event = .unloaded caller number key outcome) ∨
        Unloaded events number := by
  simp only [Unloaded, List.mem_cons, exists_or, eq_comm]

@[simp] theorem unloaded_append :
    Unloaded (log ++ events) number ↔ Unloaded log number ∨ Unloaded events number := by
  simp only [Unloaded, List.mem_append, exists_or]

@[simp] theorem not_returned_nil : ¬ Returned ([] : List (Event σ)) caller := by
  simp [Returned]

@[simp] theorem returned_cons :
    Returned (event :: events) caller ↔
      (∃ number key result own, event = .returned caller number key result own) ∨
        Returned events caller := by
  simp only [Returned, List.mem_cons, exists_or, eq_comm]

@[simp] theorem returned_append :
    Returned (log ++ events) caller ↔ Returned log caller ∨ Returned events caller := by
  simp only [Returned, List.mem_append, exists_or]

theorem Started.mono {later : List (Event σ)} (started : Started log number key)
    (subset : log ⊆ later) : Started later number key := by
  obtain ⟨world, member⟩ := started
  exact ⟨world, subset member⟩

theorem Ended.mono {later : List (Event σ)} (ended : Ended log number outcome)
    (subset : log ⊆ later) : Ended later number outcome := by
  obtain ⟨world, member⟩ := ended
  exact ⟨world, subset member⟩

/-- The store and the world after an event.  The store changes only as a load is unloaded.  The
world changes as a load starts or ends, and as the hooks are told by the call that unloaded it. -/
def replay (hooks : Hooks σ) : MessageStore × σ → Event σ → MessageStore × σ
  | (store, _), .started _ _ world => (store, world)
  | (store, _), .ended _ _ world => (store, world)
  | (store, world), .unloaded _ _ key (.ok dictionary) => (key.stored dictionary store, world)
  | (store, world), .returned _ _ key (.ok ()) true => (store, hooks.loaded key.tag world)
  | (store, world), .returned _ _ key (.error error) true =>
      (store, hooks.failed error key.tag world)
  | state, _ => state

def stateAfter (first : Translator σ) (log : List (Event σ)) : MessageStore × σ :=
  log.foldl (replay first.hooks) (first.store, first.world)

theorem stateAfter_append (first : Translator σ) (log events : List (Event σ)) :
    stateAfter first (log ++ events) = events.foldl (replay first.hooks) (stateAfter first log) :=
  List.foldl_append

/-- The namespace of a key is merged in the store; locales are always loaded anew. -/
def Merged (store : MessageStore) (key : LoadKey) : Prop :=
  ∃ name, key = .fragment name ∧ store.hasNamespace name.1 name.2 = true

def Fits (first : Translator σ) (before : List (Event σ)) : Event σ → Prop
  -- an answer without a load is an error, or the namespace is there
  | .answered _ key result => result = .ok () → Merged (stateAfter first before).1 key
  -- no other load of the key is under way, and the namespace is not there
  | .started number key _ =>
      (∀ other, ¬ Started before number other) ∧ (∀ other, ¬ UnderWay before other key) ∧
        ¬ Merged (stateAfter first before).1 key
  | .joined caller number key =>
      UnderWay before number key ∧ ∀ other name, .joined caller other name ∉ before
  | .ended number _ _ =>
      (∃ key, UnderWay before number key) ∧ ∀ other, ¬ Ended before number other
  | .unloaded caller number key outcome =>
      .joined caller number key ∈ before ∧ UnderWay before number key ∧
        Ended before number outcome
  -- the result is that of the load, which has been unloaded, by this call or by another
  | .returned caller number key result own =>
      .joined caller number key ∈ before ∧ ¬ Returned before caller ∧
        ∃ outcome, Ended before number outcome ∧ result = outcome.map (fun _ => ()) ∧
          (∃ owner, .unloaded owner number key outcome ∈ before) ∧
          (own = true ↔ .unloaded caller number key outcome ∈ before)

def Orderly (first : Translator σ) (log : List (Event σ)) : Prop :=
  InOrder (Fits first) log

namespace Orderly

variable {first : Translator σ}

theorem started_unique (orderly : Orderly first log) {other : LoadKey}
    (left : Started log number key) (right : Started log number other) : key = other := by
  obtain ⟨world, leftMember⟩ := left
  obtain ⟨world', rightMember⟩ := right
  have same := orderly.eq_of_kind (fun event => ∃ name state, event = .started number name state)
    (fun before event _ fits ofKind earlier member earlierKind => by
      obtain ⟨name, state, rfl⟩ := ofKind
      obtain ⟨name', state', rfl⟩ := earlierKind
      exact fits.1 name' ⟨state', member⟩)
    leftMember rightMember ⟨_, _, rfl⟩ ⟨_, _, rfl⟩
  cases same
  rfl

theorem started_of_joined (orderly : Orderly first log)
    (joined : .joined caller number key ∈ log) : Started log number key := by
  obtain ⟨before, subset, underWay, _⟩ := orderly.fits_of_mem joined
  exact underWay.1.mono subset

theorem started_of_ended (orderly : Orderly first log) (ended : Ended log number outcome) :
    ∃ key, Started log number key := by
  obtain ⟨world, member⟩ := ended
  obtain ⟨before, subset, ⟨key, underWay⟩, _⟩ := orderly.fits_of_mem member
  exact ⟨key, underWay.1.mono subset⟩

theorem joined_of_unloaded (orderly : Orderly first log)
    (unloaded : .unloaded caller number key outcome ∈ log) :
    .joined caller number key ∈ log := by
  obtain ⟨before, subset, joined, _⟩ := orderly.fits_of_mem unloaded
  exact subset joined

theorem ended_of_unloaded (orderly : Orderly first log)
    (unloaded : .unloaded caller number key outcome ∈ log) : Ended log number outcome := by
  obtain ⟨before, subset, _, _, ended⟩ := orderly.fits_of_mem unloaded
  exact ended.mono subset

theorem joined_of_returned (orderly : Orderly first log) (returned : Returned log caller) :
    ∃ number key, .joined caller number key ∈ log := by
  obtain ⟨number, key, result, own, member⟩ := returned
  obtain ⟨before, subset, joined, _⟩ := orderly.fits_of_mem member
  exact ⟨number, key, subset joined⟩

theorem unloads_first (number : Nat) (before : List (Event σ)) (event : Event σ)
    (_ : before ⊆ log) (fits : Fits first before event) (ofKind : unloads number event = true) :
    ∀ earlier ∈ before, ¬ unloads number earlier = true := by
  intro earlier member earlierKind
  obtain ⟨caller, key, outcome, rfl⟩ := unloads_iff.mp ofKind
  obtain ⟨caller', key', outcome', rfl⟩ := unloads_iff.mp earlierKind
  exact fits.2.1.2 ⟨caller', key', outcome', member⟩

/-- A load is unloaded once at most. -/
theorem unloads_le_one (orderly : Orderly first log) (number : Nat) :
    log.countP (unloads number) ≤ 1 :=
  orderly.countP_le_one _ (unloads_first number)

theorem unloaded_unique (orderly : Orderly first log) {caller' : Nat} {key' : LoadKey}
    {outcome' : LoadOutcome} (left : .unloaded caller number key outcome ∈ log)
    (right : .unloaded caller' number key' outcome' ∈ log) :
    caller = caller' ∧ key = key' ∧ outcome = outcome' := by
  have same := orderly.eq_of_kind (fun event => unloads number event = true)
    (unloads_first number) left right
    (unloads_iff.mpr ⟨_, _, _, rfl⟩) (unloads_iff.mpr ⟨_, _, _, rfl⟩)
  cases same
  exact ⟨rfl, rfl, rfl⟩

/-- The hooks are told of a load once at most. -/
theorem tells_le_one (orderly : Orderly first log) (number : Nat) :
    log.countP (tells number) ≤ 1 := by
  refine orderly.countP_le_one _ fun before event within fits ofKind earlier member earlierKind => ?_
  obtain ⟨caller, key, result, rfl⟩ := tells_iff.mp ofKind
  obtain ⟨caller', key', result', rfl⟩ := tells_iff.mp earlierKind
  obtain ⟨_, notReturned, outcome, _, _, _, own⟩ := fits
  obtain ⟨earliest, subset, _, _, outcome', _, _, _, own'⟩ := orderly.fits_of_mem (within member)
  have same := orderly.unloaded_unique (within (own.mp rfl)) (subset (own'.mp rfl))
  exact notReturned ⟨number, key', result', true, same.1 ▸ member⟩

end Orderly

end Phrasebook.Traffic
