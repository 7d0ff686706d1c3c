import Mathlib.Data.List.Forall2
import Phrasebook.Proofs.Cache.Texts
import Phrasebook.Proofs.Source.Offline

namespace Phrasebook

variable {ι τ υ : Type}

namespace Storage

abbrev Writes := List (String × CacheRecord)

/-- The storage with a list of what it was told to store, whether or not it did. -/
def recorded (storage : Storage τ) : Storage (τ × Writes) where
  get key state :=
    ((storage.get key state.1).1, (storage.get key state.1).2, state.2)
  set key record state :=
    ((storage.set key record state.1).1, (storage.set key record state.1).2,
      state.2 ++ [(key, record)])
  remove key state :=
    ((storage.remove key state.1).1, (storage.remove key state.1).2, state.2)
  clear state :=
    ((storage.clear state.1).1, (storage.clear state.1).2, state.2)

/-- Related states give the same records, and stay related.  Failures do not count. -/
structure Alike (left : Storage τ) (right : Storage υ) (related : τ → υ → Prop) : Prop where
  found : ∀ {leftState rightState}, related leftState rightState → ∀ key,
    right.found key rightState = left.found key leftState
  get : ∀ {leftState rightState}, related leftState rightState → ∀ key,
    related (left.get key leftState).2 (right.get key rightState).2
  set : ∀ {leftState rightState}, related leftState rightState → ∀ key record,
    related (left.set key record leftState).2 (right.set key record rightState).2

/-- The storages are related, and were told to store the same. -/
def Recorded (related : τ → υ → Prop) (left : τ × Writes) (right : υ × Writes) : Prop :=
  related left.1 right.1 ∧ right.2 = left.2

theorem Alike.recorded {left : Storage τ} {right : Storage υ} {related : τ → υ → Prop}
    (alike : Alike left right related) : Alike left.recorded right.recorded (Recorded related) where
  found both key := alike.found both.1 key
  get both key := ⟨alike.get both.1 key, both.2⟩
  set both key record := ⟨alike.set both.1 key record, congrArg (· ++ [(key, record)]) both.2⟩

theorem recorded_alike (storage : Storage τ) :
    Alike storage.recorded storage fun logged plain => plain = logged.1 where
  found := by
    rintro ⟨state, writes⟩ _ rfl key
    rfl
  get := by
    rintro ⟨state, writes⟩ _ rfl key
    rfl
  set := by
    rintro ⟨state, writes⟩ _ rfl key record
    rfl

end Storage

theorem TextStorage.legible_alike (texts : TextStorage τ) :
    Storage.Alike texts.records texts.legible.records Eq where
  found := by
    rintro state _ rfl key
    simp only [Storage.found, records, legible]
    generalize texts.read key state = result
    obtain ⟨text, after⟩ := result
    cases text with
    | error error => rfl
    | ok text =>
        cases text with
        | none => rfl
        | some text =>
            cases decoded : CacheRecord.decode text <;> simp [Option.filter, decoded]
  get := by
    rintro state _ rfl key
    simp only [records, legible]
    generalize texts.read key state = result
    obtain ⟨text, after⟩ := result
    cases text <;> rfl
  set := by
    rintro state _ rfl key record
    rfl

namespace CachingSource

variable {policy : CachingPolicy} {source : MessageSource ι} {storage : Storage τ}

structure Paired (related : τ → υ → Prop) (left : CachingState ι τ) (right : CachingState ι υ) :
    Prop where
  inner : right.inner = left.inner
  storage : related left.storage right.storage
  served : right.served = left.served
  overflowed : right.overflowed = left.overflowed

variable {other : Storage υ} {related : τ → υ → Prop} {left : CachingState ι τ}
  {right : CachingState ι υ}

theorem Paired.markServed (paired : Paired related left right) (locale : String) :
    Paired related (markServed locale left) (markServed locale right) := by
  obtain ⟨inner, storage, served, overflowed⟩ := paired
  unfold CachingSource.markServed
  rw [served]
  split
  · exact ⟨inner, storage, served, overflowed⟩
  · exact ⟨inner, storage, rfl, overflowed⟩

theorem Paired.answered (paired : Paired related left right) (inner : ι) :
    Paired related { left with inner } { right with inner } :=
  ⟨rfl, paired.storage, paired.served, paired.overflowed⟩

theorem Paired.conclude (alike : storage.Alike other related) (paired : Paired related left right)
    (locale : String) (cached : Option CacheRecord) (now : Int64) (outcome : LoadOutcome) :
    (conclude policy other locale cached now outcome right).1 =
        (conclude policy storage locale cached now outcome left).1 ∧
      Paired related (conclude policy storage locale cached now outcome left).2
        (conclude policy other locale cached now outcome right).2 := by
  cases outcome with
  | ok dictionary =>
      have persisted : Paired related
          (persist storage (policy.cacheKey locale) ⟨dictionary, now⟩ left)
          (persist other (policy.cacheKey locale) ⟨dictionary, now⟩ right) :=
        ⟨paired.inner, alike.set paired.storage _ _, paired.served, paired.overflowed⟩
      exact ⟨rfl, persisted.markServed locale⟩
  | error error =>
      cases cached with
      | none => exact ⟨rfl, paired⟩
      | some record => exact ⟨rfl, paired.markServed locale⟩

theorem Paired.run (policy : CachingPolicy) (source : MessageSource ι)
    (alike : storage.Alike other related) (paired : Paired related left right) (visit : Visit) :
    (visit.run (source.caching policy other) right).1 =
        (visit.run (source.caching policy storage) left).1 ∧
      Paired related (visit.run (source.caching policy storage) left).2
        (visit.run (source.caching policy other) right).2 := by
  have found := alike.found paired.storage (policy.cacheKey visit.locale)
  have looked : Paired related (visit.looked policy storage left)
      (visit.looked policy other right) := by
    refine ⟨paired.inner, alike.get paired.storage _, paired.served, ?_⟩
    rw [Visit.looked, Visit.looked, found, paired.overflowed]
  rw [run_caching, run_caching, found]
  unfold Visit.conclude
  split
  · exact ⟨rfl, looked.markServed visit.locale⟩
  · rw [looked.inner]
    exact (looked.answered _).conclude alike visit.locale _ _ _

/-- Two loads with the same outcome, for which the inner source was asked the same, between states
that are related. -/
structure Echo (related : τ → υ → Prop) (reply : Reply ι τ) (other : Reply ι υ) : Prop where
  visit : other.visit = reply.visit
  before : Paired related reply.before other.before
  outcome : other.outcome = reply.outcome
  after : Paired related reply.after other.after

theorem serveAll_echo (alike : storage.Alike other related) (visits : List Visit)
    {left : Service ι τ} {right : Service ι υ}
    (replies : List.Forall₂ (Echo related) left.replies right.replies)
    (paired : Paired related left.state right.state) :
    List.Forall₂ (Echo related) (serveAll policy source storage left visits).replies
      (serveAll policy source other right visits).replies := by
  induction visits generalizing left right with
  | nil => exact replies
  | cons visit visits ih =>
      obtain ⟨outcome, after⟩ := paired.run policy source.recorded alike visit
      exact ih (List.rel_append replies (.cons ⟨rfl, paired, outcome, after⟩ .nil)) after

def Reply.written (reply : Reply ι (τ × Storage.Writes)) : Storage.Writes :=
  reply.after.storage.2.drop reply.before.storage.2.length

/-- The record that a load found when it started. -/
def Reply.found (policy : CachingPolicy) (storage : Storage τ)
    (reply : Reply ι (τ × Storage.Writes)) : Option CacheRecord :=
  storage.found (policy.cacheKey reply.visit.locale) reply.before.storage.1

/-- The four ways of a load, none of which depends on a failure of the storage. -/
inductive Handled (policy : CachingPolicy) (storage : Storage τ)
    (reply : Reply ι (τ × Storage.Writes)) : Prop where
  | fresh (record : CacheRecord)
      (found : reply.found policy storage = some record)
      (isFresh : record.isFresh policy.ttl reply.visit.start = true)
      (outcome : reply.outcome = .ok record.messages)
      (fetched : reply.fetched = [])
      (written : reply.written = [])
  | delivered (dictionary : Dictionary) (time : Int64)
      (now : time = reply.visit.start ∨ time = reply.visit.finish)
      (asked : ∀ record, reply.found policy storage = some record →
        record.isFresh policy.ttl reply.visit.start = false)
      (outcome : reply.outcome = .ok dictionary)
      (fetched : reply.fetched = [(reply.visit.locale, .ok dictionary)])
      (written : reply.written = [(policy.cacheKey reply.visit.locale, ⟨dictionary, time⟩)])
  | stale (record : CacheRecord) (error : Error)
      (found : reply.found policy storage = some record)
      (asked : record.isFresh policy.ttl reply.visit.start = false)
      (outcome : reply.outcome = .ok record.messages)
      (fetched : reply.fetched = [(reply.visit.locale, .error error)])
      (written : reply.written = [])
  | failed (error : Error)
      (found : reply.found policy storage = none)
      (outcome : reply.outcome = .error error)
      (fetched : reply.fetched = [(reply.visit.locale, .error error)])
      (written : reply.written = [])

theorem Reply.fetched_of_inner {reply : Reply ι τ} {fetches : Fetches}
    (logged : reply.after.inner.2 = reply.before.inner.2 ++ fetches) : reply.fetched = fetches := by
  rw [fetched, logged, List.drop_left]

theorem Reply.written_of_storage {reply : Reply ι (τ × Storage.Writes)} {writes : Storage.Writes}
    (logged : reply.after.storage.2 = reply.before.storage.2 ++ writes) :
    reply.written = writes := by
  rw [written, logged, List.drop_left]

/-- A load that asks the inner source is handled by its answer and what was found before. -/
theorem handled_of_asked {reply : Reply ι (τ × Storage.Writes)} {kept : τ} {outcome : LoadOutcome}
    {inner : ι} {time : Int64} {overflowed : Bool}
    (now : time = reply.visit.start ∨ time = reply.visit.finish)
    (asked : ∀ record, reply.found policy storage = some record →
      record.isFresh policy.ttl reply.visit.start = false)
    (concluded : (reply.outcome, reply.after) =
      conclude policy storage.recorded reply.visit.locale (reply.found policy storage) time outcome
        ⟨(inner, reply.before.inner.2 ++ [(reply.visit.locale, outcome)]),
          (kept, reply.before.storage.2), reply.before.served, overflowed⟩) :
    Handled policy storage reply := by
  cases outcome with
  | ok dictionary =>
      obtain ⟨isOutcome, isAfter⟩ := Prod.mk.inj concluded
      refine .delivered dictionary time now asked isOutcome (Reply.fetched_of_inner ?_)
        (Reply.written_of_storage ?_)
      · simp [isAfter, persist]
      · simp [isAfter, persist, Storage.recorded]
  | error error =>
      cases found : reply.found policy storage with
      | none =>
          rw [found] at concluded
          obtain ⟨isOutcome, isAfter⟩ := Prod.mk.inj concluded
          refine .failed error found isOutcome (Reply.fetched_of_inner ?_)
            (Reply.written_of_storage ?_)
          · rw [isAfter]
          · simp [isAfter]
      | some record =>
          rw [found] at concluded
          obtain ⟨isOutcome, isAfter⟩ := Prod.mk.inj concluded
          refine .stale record error found (asked record found) isOutcome
            (Reply.fetched_of_inner ?_) (Reply.written_of_storage ?_)
          · simp [isAfter]
          · simp [isAfter]

theorem attend_handled (policy : CachingPolicy) (source : MessageSource ι) (storage : Storage τ)
    (visit : Visit) (state : CachingState (ι × Fetches) (τ × Storage.Writes)) :
    Handled policy storage (attend policy source storage.recorded visit state) := by
  show Handled policy storage ⟨visit, state,
    (visit.run (source.recorded.caching policy storage.recorded) state).1,
    (visit.run (source.recorded.caching policy storage.recorded) state).2⟩
  rw [run_caching]
  -- a record is served at once only if it is fresh
  cases fresh : (storage.recorded.found (policy.cacheKey visit.locale) state.storage).filter
      fun record => record.isFresh policy.ttl visit.start with
  | some record =>
      obtain ⟨found, isFresh⟩ := Option.filter_eq_some_iff.mp fresh
      rw [Visit.conclude_of_fresh fresh]
      refine .fresh record found isFresh rfl (Reply.fetched_of_inner ?_)
        (Reply.written_of_storage ?_)
      · simp [Visit.looked]
      · simp [Visit.looked, Storage.recorded]
  | none =>
      rw [Visit.conclude_of_asked fresh, Visit.answer_recorded]
      refine handled_of_asked (visit.answer_time source state.inner.1) (fun record found => ?_) rfl
      exact Bool.eq_false_iff.mpr (Option.filter_eq_none_iff.mp fresh record found)

/-- What callers may rely on, whatever the storage does. -/
structure Sturdy (policy : CachingPolicy) (storage : Storage τ)
    (reply : Reply ι (τ × Storage.Writes)) : Prop where
  handled : Handled policy storage reply
  /-- A load fails only with the answer of the inner source, and if no record was found. -/
  fails : ∀ error, reply.outcome = .error error ↔
    reply.fetched = [(reply.visit.locale, .error error)] ∧ reply.found policy storage = none
  /-- What the inner source delivers is delivered, and was to be stored. -/
  delivers : ∀ dictionary, (reply.visit.locale, .ok dictionary) ∈ reply.fetched →
    reply.outcome = .ok dictionary ∧
      ∃ time, reply.written = [(policy.cacheKey reply.visit.locale, ⟨dictionary, time⟩)]
  /-- A build with checks of overflow stops if the age of the record that was found cannot be
  counted, and only then. -/
  overflows : reply.after.overflowed = (reply.before.overflowed ||
    (reply.found policy storage).any fun record => record.overflows reply.visit.start)

theorem Handled.sturdy {reply : Reply ι (τ × Storage.Writes)}
    (handled : Handled policy storage reply)
    (overflows : reply.after.overflowed = (reply.before.overflowed ||
      (reply.found policy storage).any fun record => record.overflows reply.visit.start)) :
    Sturdy policy storage reply where
  handled := handled
  overflows := overflows
  fails := by
    intro error
    cases handled with
    | fresh record found isFresh outcome fetched written => simp [outcome, fetched]
    | delivered dictionary time now asked outcome fetched written => simp [outcome, fetched]
    | stale record cause found asked outcome fetched written => simp [outcome, found]
    | failed cause found outcome fetched written => simp [outcome, fetched, found]
  delivers := by
    intro dictionary delivered
    cases handled with
    | fresh record found isFresh outcome fetched written => simp [fetched] at delivered
    | delivered other time now asked outcome fetched written =>
        rw [fetched, List.mem_singleton] at delivered
        cases delivered
        exact ⟨outcome, time, written⟩
    | stale record cause found asked outcome fetched written => simp [fetched] at delivered
    | failed cause found outcome fetched written => simp [fetched] at delivered

theorem serveAll_forall {property : Reply ι τ → Prop}
    (attended : ∀ visit state, property (attend policy source storage visit state))
    (visits : List Visit) {service : Service ι τ}
    (before : ∀ reply ∈ service.replies, property reply) :
    ∀ reply ∈ (serveAll policy source storage service visits).replies, property reply := by
  induction visits generalizing service with
  | nil => exact before
  | cons visit visits ih =>
      refine ih fun reply member => ?_
      rcases List.mem_append.mp member with member | same
      · exact before reply member
      · cases List.mem_singleton.mp same
        exact attended visit service.state

/-- The state without the lists that are only looked at. -/
def unrecorded (state : CachingState (ι × Fetches) (τ × Storage.Writes)) : CachingState ι τ :=
  ⟨state.inner.1, state.storage.1, state.served, state.overflowed⟩

theorem Paired.eq_unrecorded {state : CachingState (ι × Fetches) (τ × Storage.Writes)}
    {plain : CachingState ι τ}
    (paired : Paired (fun logged plain => plain = logged.1) state.forget plain) :
    plain = unrecorded state := by
  obtain ⟨inner, storage, served, overflowed⟩ := paired
  obtain ⟨_, _, _, _⟩ := plain
  cases inner
  cases storage
  cases served
  cases overflowed
  rfl

/-- The lists of what was fetched and written change nothing. -/
theorem attend_unrecorded (policy : CachingPolicy) (source : MessageSource ι) (storage : Storage τ)
    (visit : Visit) (state : CachingState (ι × Fetches) (τ × Storage.Writes)) :
    visit.run (source.caching policy storage) (unrecorded state) =
      ((attend policy source storage.recorded visit state).outcome,
        unrecorded (attend policy source storage.recorded visit state).after) := by
  have forgets : visit.run (source.caching policy storage.recorded) state.forget =
      ((attend policy source storage.recorded visit state).outcome,
        (attend policy source storage.recorded visit state).after.forget) :=
    attend_forget visit state
  have paired : Paired (fun logged plain => plain = logged.1) state.forget (unrecorded state) :=
    ⟨rfl, rfl, rfl, rfl⟩
  obtain ⟨outcome, after⟩ := paired.run policy source storage.recorded_alike visit
  rw [forgets] at outcome after
  exact Prod.ext outcome after.eq_unrecorded

/-- However reading and storing fail, and whatever is stored, every load is handled by what was
found and what the inner source answers.  Storages that give the same where they give anything are
served alike, and so are texts that cannot be read and texts that are missing. -/
theorem serveAll_sturdy (policy : CachingPolicy) (source : MessageSource ι) (storage : Storage τ)
    (inner : ι) (first : τ) (visits : List Visit) :
    (∀ reply ∈ (serveAll policy source storage.recorded
        (opening inner (first, [])) visits).replies,
      Sturdy policy storage reply ∧
        reply.visit.run (source.caching policy storage) (unrecorded reply.before) =
          (reply.outcome, unrecorded reply.after)) ∧
    (∀ {υ : Type} (other : Storage υ) (related : τ → υ → Prop) (start : υ),
      storage.Alike other related → related first start →
        List.Forall₂ (Echo (Storage.Recorded related))
          (serveAll policy source storage.recorded (opening inner (first, [])) visits).replies
          (serveAll policy source other.recorded (opening inner (start, [])) visits).replies) ∧
    (∀ texts : TextStorage τ,
      List.Forall₂ (Echo (Storage.Recorded Eq))
        (serveAll policy source texts.records.recorded (opening inner (first, [])) visits).replies
        (serveAll policy source texts.legible.records.recorded
          (opening inner (first, [])) visits).replies) := by
  refine ⟨serveAll_forall (fun visit state => ?_) visits (by simp [opening]), ?_, fun texts => ?_⟩
  · exact ⟨(attend_handled policy source storage visit state).sturdy
      (attend_overflowed visit state), attend_unrecorded policy source storage visit state⟩
  · intro υ other related start alike starts
    exact serveAll_echo alike.recorded visits .nil ⟨rfl, ⟨starts, rfl⟩, rfl, rfl⟩
  · exact serveAll_echo texts.legible_alike.recorded visits .nil ⟨rfl, ⟨rfl, rfl⟩, rfl, rfl⟩

/-- Nothing can be read or stored: what the inner source delivers is delivered, and its failure is
no longer made up for. -/
example :
    let storage := Storage.memory.failing ["get", "set"] "out of reach"
    let answers := [.ok .empty, .error (.localeUnavailable "tr")]
    let service := serveAll ⟨1000, "messages_"⟩ Script.source storage.recorded
      (opening [("tr", answers)] ([], [])) [⟨"tr", 0, 5⟩, ⟨"tr", 10, 15⟩]
    service.replies.map (fun reply =>
      (reply.outcome.isOk, reply.fetched.length, reply.written.length)) =
        [(true, 1, 1), (false, 1, 0)] := by
  rfl

end CachingSource

end Phrasebook
