import Phrasebook.Proofs.Cache.Record
import Phrasebook.Source.Caching

namespace Phrasebook

variable {ι τ : Type}

abbrev Fetches := List (String × LoadOutcome)

def MessageSource.recorded (source : MessageSource ι) : MessageSource (ι × Fetches) where
  load now locale state :=
    match source.load now locale state.1 with
    | (.settled outcome, inner) => (.settled outcome, inner, state.2 ++ [(locale, outcome)])
    | (.awaiting finish, inner) =>
        (.awaiting fun now state =>
          let (outcome, inner) := finish now state.1
          (outcome, inner, state.2 ++ [(locale, outcome)]),
        inner, state.2)
  offers locale state := source.offers locale state.1
  available state := source.available state.1

/-- What a storage gives for a key.  Where reading fails, that is nothing. -/
def Storage.found (storage : Storage τ) (key : String) (state : τ) : Option CacheRecord :=
  match (storage.get key state).1 with
  | .ok record => record
  | .error _ => none

theorem Storage.Reliable.found {storage : Storage τ} {read : τ → String → Option CacheRecord}
    (reliable : storage.Reliable read) (key : String) (state : τ) :
    storage.found key state = read state key := by
  rw [Storage.found, reliable.get]

namespace CachingSource

/-- A load and the times when it starts and, if it has to wait, when it ends. -/
structure Visit where
  locale : String
  start : Int64
  finish : Int64

def Visit.run (visit : Visit) (source : MessageSource σ) (state : σ) : LoadOutcome × σ :=
  let (progress, started) := source.load visit.start visit.locale state
  progress.finish visit.finish started

structure Reply (ι τ : Type) where
  visit : Visit
  before : CachingState (ι × Fetches) τ
  outcome : LoadOutcome
  after : CachingState (ι × Fetches) τ

namespace Reply

def fetched (reply : Reply ι τ) : Fetches :=
  reply.after.inner.2.drop reply.before.inner.2.length

def Delivers (reply : Reply ι τ) (locale : String) : Prop :=
  reply.visit.locale = locale ∧ ∃ dictionary, reply.outcome = .ok dictionary

end Reply

structure Service (ι τ : Type) where
  replies : List (Reply ι τ)
  state : CachingState (ι × Fetches) τ

def attend (policy : CachingPolicy) (source : MessageSource ι) (storage : Storage τ)
    (visit : Visit) (state : CachingState (ι × Fetches) τ) : Reply ι τ :=
  let (outcome, after) := visit.run (source.recorded.caching policy storage) state
  ⟨visit, state, outcome, after⟩

def serve (policy : CachingPolicy) (source : MessageSource ι) (storage : Storage τ)
    (service : Service ι τ) (visit : Visit) : Service ι τ :=
  let reply := attend policy source storage visit service.state
  ⟨service.replies ++ [reply], reply.after⟩

def serveAll (policy : CachingPolicy) (source : MessageSource ι) (storage : Storage τ)
    (service : Service ι τ) (visits : List Visit) : Service ι τ :=
  visits.foldl (serve policy source storage) service

variable {policy : CachingPolicy} {source : MessageSource ι} {storage : Storage τ}
  {read : τ → String → Option CacheRecord}

theorem mem_served_markServed {locale other : String} {state : CachingState ι τ} :
    other ∈ (markServed locale state).served ↔ other = locale ∨ other ∈ state.served := by
  unfold markServed
  split
  · next present =>
      refine ⟨.inr, ?_⟩
      rintro (rfl | member)
      · exact present
      · exact member
  · simp [or_comm]

@[simp] theorem storage_markServed (locale : String) (state : CachingState ι τ) :
    (markServed locale state).storage = state.storage := by
  unfold markServed
  split <;> rfl

@[simp] theorem inner_markServed (locale : String) (state : CachingState ι τ) :
    (markServed locale state).inner = state.inner := by
  unfold markServed
  split <;> rfl

@[simp] theorem overflowed_markServed (locale : String) (state : CachingState ι τ) :
    (markServed locale state).overflowed = state.overflowed := by
  unfold markServed
  split <;> rfl

@[simp] theorem overflowed_conclude (locale : String) (cached : Option CacheRecord) (now : Int64)
    (outcome : LoadOutcome) (state : CachingState ι τ) :
    (conclude policy storage locale cached now outcome state).2.overflowed = state.overflowed := by
  cases outcome with
  | ok dictionary => simp [conclude, persist]
  | error error => cases cached <;> simp [conclude]

/-- What a source answers to a load, and when. -/
def Visit.answer (visit : Visit) (source : MessageSource ι) (state : ι) :
    (LoadOutcome × ι) × Int64 :=
  match source.load visit.start visit.locale state with
  | (.settled outcome, state) => ((outcome, state), visit.start)
  | (.awaiting finish, state) => (finish visit.finish state, visit.finish)

theorem Visit.answer_time (visit : Visit) (source : MessageSource ι) (state : ι) :
    (visit.answer source state).2 = visit.start ∨ (visit.answer source state).2 = visit.finish := by
  unfold answer
  generalize source.load visit.start visit.locale state = loaded
  obtain ⟨progress, after⟩ := loaded
  cases progress with
  | settled outcome => exact .inl rfl
  | awaiting finish => exact .inr rfl

theorem Visit.answer_recorded (visit : Visit) (source : MessageSource ι) (state : ι × Fetches) :
    visit.answer source.recorded state =
      (((visit.answer source state.1).1.1, (visit.answer source state.1).1.2,
        state.2 ++ [(visit.locale, (visit.answer source state.1).1.1)]),
      (visit.answer source state.1).2) := by
  simp only [answer, MessageSource.recorded]
  generalize source.load visit.start visit.locale state.1 = loaded
  obtain ⟨progress, after⟩ := loaded
  cases progress with
  | settled outcome => rfl
  | awaiting finish => rfl

theorem finish_loadInner (policy : CachingPolicy) (source : MessageSource ι)
    (storage : Storage τ) (visit : Visit) (cached : Option CacheRecord) (state : CachingState ι τ) :
    (loadInner policy source storage visit.start visit.locale cached state).1.finish visit.finish
        (loadInner policy source storage visit.start visit.locale cached state).2 =
      conclude policy storage visit.locale cached (visit.answer source state.inner).2
        (visit.answer source state.inner).1.1
        { state with inner := (visit.answer source state.inner).1.2 } := by
  unfold loadInner Visit.answer
  generalize source.load visit.start visit.locale state.inner = loaded
  obtain ⟨progress, inner⟩ := loaded
  cases progress with
  | settled outcome => rfl
  | awaiting finish => rfl

theorem readCached_eq (storage : Storage τ) (key : String) (state : CachingState ι τ) :
    readCached storage key state =
      (storage.found key state.storage,
        { state with storage := (storage.get key state.storage).2 }) := by
  unfold readCached Storage.found
  generalize storage.get key state.storage = result
  obtain ⟨answer, inner⟩ := result
  cases answer <;> rfl

/-- The end of a load for which the storage has given a record, or none. -/
def Visit.conclude (visit : Visit) (policy : CachingPolicy) (source : MessageSource ι)
    (storage : Storage τ) (cached : Option CacheRecord) (state : CachingState ι τ) :
    LoadOutcome × CachingState ι τ :=
  match cached.filter fun record => record.isFresh policy.ttl visit.start with
  | some record => (.ok record.messages, markServed visit.locale state)
  | none =>
      CachingSource.conclude policy storage visit.locale cached (visit.answer source state.inner).2
        (visit.answer source state.inner).1.1
        { state with inner := (visit.answer source state.inner).1.2 }

theorem Visit.conclude_of_fresh {visit : Visit} {cached : Option CacheRecord}
    {record : CacheRecord}
    (fresh : (cached.filter fun record => record.isFresh policy.ttl visit.start) = some record)
    (state : CachingState ι τ) :
    visit.conclude policy source storage cached state =
      (.ok record.messages, markServed visit.locale state) := by
  unfold conclude
  rw [fresh]

theorem Visit.conclude_of_asked {visit : Visit} {cached : Option CacheRecord}
    (asked : (cached.filter fun record => record.isFresh policy.ttl visit.start) = none)
    (state : CachingState ι τ) :
    visit.conclude policy source storage cached state =
      CachingSource.conclude policy storage visit.locale cached
        (visit.answer source state.inner).2 (visit.answer source state.inner).1.1
        { state with inner := (visit.answer source state.inner).1.2 } := by
  unfold conclude
  rw [asked]

@[simp] theorem Visit.overflowed_conclude (visit : Visit) (cached : Option CacheRecord)
    (state : CachingState ι τ) :
    (visit.conclude policy source storage cached state).2.overflowed = state.overflowed := by
  unfold conclude
  split <;> simp

/-- The state of a load that has looked for a record. -/
def Visit.looked (visit : Visit) (policy : CachingPolicy) (storage : Storage τ)
    (state : CachingState ι τ) : CachingState ι τ :=
  { state with
    storage := (storage.get (policy.cacheKey visit.locale) state.storage).2
    overflowed := state.overflowed ||
      (storage.found (policy.cacheKey visit.locale) state.storage).any
        fun record => record.overflows visit.start }

theorem run_caching (policy : CachingPolicy) (source : MessageSource ι) (storage : Storage τ)
    (visit : Visit) (state : CachingState ι τ) :
    visit.run (source.caching policy storage) state =
      visit.conclude policy source storage
        (storage.found (policy.cacheKey visit.locale) state.storage)
        (visit.looked policy storage state) := by
  show (load policy source storage visit.start visit.locale state).1.finish visit.finish
    (load policy source storage visit.start visit.locale state).2 = _
  unfold load Visit.conclude Visit.looked
  rw [readCached_eq]
  cases storage.found (policy.cacheKey visit.locale) state.storage with
  | none =>
      simp only [Option.any_none, Bool.or_false]
      exact finish_loadInner policy source storage visit none { state with storage := _ }
  | some record =>
      cases isFresh : record.isFresh policy.ttl visit.start with
      | true => simp [Option.filter, isFresh, Progress.finish, noteAge]
      | false =>
          simp only [Option.filter, isFresh, Bool.false_eq_true, if_false]
          exact finish_loadInner policy source storage visit (some record) (noteAge record _ _)

/-- A load notes an overflow only if it finds a record whose age cannot be counted. -/
theorem attend_overflowed (visit : Visit) (state : CachingState (ι × Fetches) τ) :
    (attend policy source storage visit state).after.overflowed = (state.overflowed ||
      (storage.found (policy.cacheKey visit.locale) state.storage).any
        fun record => record.overflows visit.start) := by
  show (visit.run (source.recorded.caching policy storage) state).2.overflowed = _
  rw [run_caching, Visit.overflowed_conclude]
  rfl

/-- What a load does, by what is stored for its locale when it starts. -/
inductive Attended (policy : CachingPolicy) (read : τ → String → Option CacheRecord)
    (reply : Reply ι τ) : Prop where
  | fresh (record : CacheRecord)
      (stored : read reply.before.storage (policy.cacheKey reply.visit.locale) = some record)
      (isFresh : record.isFresh policy.ttl reply.visit.start = true)
      (outcome : reply.outcome = .ok record.messages)
      (fetched : reply.fetched = [])
      (same : ∀ key, read reply.after.storage key = read reply.before.storage key)
      (served : ∀ other, other ∈ reply.after.served ↔
        other = reply.visit.locale ∨ other ∈ reply.before.served)
  | fetched (dictionary : Dictionary) (time : Int64)
      (now : time = reply.visit.start ∨ time = reply.visit.finish)
      (asked : ∀ record,
        read reply.before.storage (policy.cacheKey reply.visit.locale) = some record →
          record.isFresh policy.ttl reply.visit.start = false)
      (outcome : reply.outcome = .ok dictionary)
      (fetched : reply.fetched = [(reply.visit.locale, .ok dictionary)])
      (stored : CacheRecord.Lasting ⟨dictionary, time⟩ → ∀ key, read reply.after.storage key =
        if key = policy.cacheKey reply.visit.locale then some ⟨dictionary, time⟩
        else read reply.before.storage key)
      (served : ∀ other, other ∈ reply.after.served ↔
        other = reply.visit.locale ∨ other ∈ reply.before.served)
  | stale (record : CacheRecord) (error : Error)
      (stored : read reply.before.storage (policy.cacheKey reply.visit.locale) = some record)
      (asked : record.isFresh policy.ttl reply.visit.start = false)
      (outcome : reply.outcome = .ok record.messages)
      (fetched : reply.fetched = [(reply.visit.locale, .error error)])
      (same : ∀ key, read reply.after.storage key = read reply.before.storage key)
      (served : ∀ other, other ∈ reply.after.served ↔
        other = reply.visit.locale ∨ other ∈ reply.before.served)
  | failed (error : Error)
      (stored : read reply.before.storage (policy.cacheKey reply.visit.locale) = none)
      (outcome : reply.outcome = .error error)
      (fetched : reply.fetched = [(reply.visit.locale, .error error)])
      (same : ∀ key, read reply.after.storage key = read reply.before.storage key)
      (served : reply.after.served = reply.before.served)

/-- A load that asks the inner source ends with what it answers, or with what was stored. -/
theorem attended_of_asked (reliable : storage.Reliable read) {reply : Reply ι τ}
    {kept : τ} {outcome : LoadOutcome} {inner : ι} {time : Int64} {overflowed : Bool}
    (now : time = reply.visit.start ∨ time = reply.visit.finish)
    (same : ∀ key, read kept key = read reply.before.storage key)
    (asked : ∀ record,
      read reply.before.storage (policy.cacheKey reply.visit.locale) = some record →
        record.isFresh policy.ttl reply.visit.start = false)
    (concluded : (reply.outcome, reply.after) =
      conclude policy storage reply.visit.locale
        (read reply.before.storage (policy.cacheKey reply.visit.locale)) time outcome
        ⟨(inner, reply.before.inner.2 ++ [(reply.visit.locale, outcome)]), kept,
          reply.before.served, overflowed⟩) :
    Attended policy read reply := by
  have fetchedOf : ∀ {state}, reply.after = state →
      state.inner.2 = reply.before.inner.2 ++ [(reply.visit.locale, outcome)] →
      reply.fetched = [(reply.visit.locale, outcome)] := by
    rintro _ rfl logged
    rw [Reply.fetched, logged, List.drop_left]
  cases outcome with
  | ok dictionary =>
      obtain ⟨isOutcome, isAfter⟩ := Prod.mk.inj concluded
      refine .fetched dictionary time now asked isOutcome (fetchedOf isAfter ?_) ?_ ?_
      · simp [persist]
      · intro lasting key
        rw [isAfter]
        simp only [storage_markServed, persist, reliable.read_set _ _ _ _ lasting, same]
      · intro other
        rw [isAfter, mem_served_markServed]
        rfl
  | error error =>
      cases stored : read reply.before.storage (policy.cacheKey reply.visit.locale) with
      | none =>
          rw [stored] at concluded
          obtain ⟨isOutcome, isAfter⟩ := Prod.mk.inj concluded
          refine .failed error stored isOutcome (fetchedOf isAfter rfl) ?_ ?_
          · rw [isAfter]
            exact same
          · rw [isAfter]
      | some record =>
          rw [stored] at concluded
          obtain ⟨isOutcome, isAfter⟩ := Prod.mk.inj concluded
          refine .stale record error stored (asked record stored) isOutcome
            (fetchedOf isAfter ?_) ?_ ?_
          · simp
          · rw [isAfter]
            simpa using same
          · intro other
            rw [isAfter, mem_served_markServed]

theorem attend_attended (reliable : storage.Reliable read) (visit : Visit)
    (state : CachingState (ι × Fetches) τ) :
    Attended policy read (attend policy source storage visit state) := by
  show Attended policy read ⟨visit, state,
    (visit.run (source.recorded.caching policy storage) state).1,
    (visit.run (source.recorded.caching policy storage) state).2⟩
  have same := fun key => reliable.read_get (policy.cacheKey visit.locale) key state.storage
  rw [run_caching, reliable.found]
  cases fresh : (read state.storage (policy.cacheKey visit.locale)).filter
      fun record => record.isFresh policy.ttl visit.start with
  | some record =>
      obtain ⟨stored, isFresh⟩ := Option.filter_eq_some_iff.mp fresh
      rw [Visit.conclude_of_fresh fresh]
      refine .fresh record stored isFresh rfl ?_ ?_ ?_
      · simp [Reply.fetched, Visit.looked]
      · simpa [Visit.looked] using same
      · intro other
        rw [mem_served_markServed]
        rfl
  | none =>
      rw [Visit.conclude_of_asked fresh, Visit.answer_recorded]
      refine attended_of_asked reliable (visit.answer_time source state.inner.1) same
        (fun record stored => ?_) rfl
      exact Bool.eq_false_iff.mpr (Option.filter_eq_none_iff.mp fresh record stored)

end CachingSource

def CachingState.forget (state : CachingState (ι × Fetches) τ) : CachingState ι τ :=
  ⟨state.inner.1, state.storage, state.served, state.overflowed⟩

namespace CachingSource

theorem markServed_forget (locale : String) (state : CachingState (ι × Fetches) τ) :
    markServed locale state.forget = (markServed locale state).forget := by
  unfold markServed
  split
  · next present => rw [if_pos (show locale ∈ state.served from present)]
  · next absent =>
      rw [if_neg (show ¬ locale ∈ state.served from absent)]
      rfl

theorem conclude_forget (locale : String) (cached : Option CacheRecord) (now : Int64)
    (outcome : LoadOutcome) (state : CachingState (ι × Fetches) τ) :
    conclude policy storage locale cached now outcome state.forget =
      ((conclude policy storage locale cached now outcome state).1,
        (conclude policy storage locale cached now outcome state).2.forget) := by
  cases outcome with
  | ok dictionary => simp only [conclude, ← markServed_forget]; rfl
  | error error =>
      cases cached with
      | none => rfl
      | some record => simp only [conclude, ← markServed_forget]

/-- The list of answers is only looked at. -/
theorem attend_forget (visit : Visit) (state : CachingState (ι × Fetches) τ) :
    visit.run (source.caching policy storage) state.forget =
      ((attend policy source storage visit state).outcome,
        (attend policy source storage visit state).after.forget) := by
  show _ = (visit.run (source.recorded.caching policy storage) state).map id CachingState.forget
  rw [run_caching, run_caching]
  show visit.conclude policy source storage (storage.found _ state.storage)
    (visit.looked policy storage state).forget = _
  unfold Visit.conclude
  split
  · rw [markServed_forget]
    rfl
  · rw [Visit.answer_recorded]
    exact conclude_forget visit.locale _ _ _ ⟨(_, _), _, _, _⟩

end CachingSource

end Phrasebook
