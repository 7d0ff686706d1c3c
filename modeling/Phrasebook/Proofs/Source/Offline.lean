import Phrasebook.Proofs.Order
import Phrasebook.Proofs.Source.Visits
import Phrasebook.Source.Scripted

namespace Phrasebook.CachingSource

variable {ι τ : Type} {policy : CachingPolicy} {source : MessageSource ι} {storage : Storage τ}
  {read : τ → String → Option CacheRecord}

def Reply.fetch? (locale : String) (reply : Reply ι τ) : Option Dictionary :=
  reply.fetched.findSome? fun
    | (name, .ok dictionary) => if name = locale then some dictionary else none
    | _ => none

def lastFetched (replies : List (Reply ι τ)) (locale : String) : Option Dictionary :=
  replies.reverse.findSome? (Reply.fetch? locale)

/-- What was stored last for a locale: what was delivered last, or what was there from the start. -/
def held (policy : CachingPolicy) (read : τ → String → Option CacheRecord) (first : τ)
    (replies : List (Reply ι τ)) (locale : String) : Option Dictionary :=
  (lastFetched replies locale).or
    ((read first (policy.cacheKey locale)).map CacheRecord.messages)

structure Guaranteed (policy : CachingPolicy) (read : τ → String → Option CacheRecord)
    (first : τ) (before : List (Reply ι τ)) (reply : Reply ι τ) : Prop where
  stored : (read reply.before.storage (policy.cacheKey reply.visit.locale)).map
      CacheRecord.messages = held policy read first before reply.visit.locale
  /-- A load fails if the inner source was asked and failed, and nothing was ever stored. -/
  fails : ∀ error, reply.outcome = .error error ↔
    reply.fetched = [(reply.visit.locale, .error error)] ∧
      held policy read first before reply.visit.locale = none
  delivers : ∀ dictionary, reply.outcome = .ok dictionary →
    held policy read first (before ++ [reply]) reply.visit.locale = some dictionary
  lasts : (∃ earlier ∈ before, earlier.Delivers reply.visit.locale) →
    reply.Delivers reply.visit.locale
  spares : ∀ record,
    read reply.before.storage (policy.cacheKey reply.visit.locale) = some record →
      (reply.visit.start.toInt - record.timestamp.toInt).toNat < policy.ttl → reply.fetched = []
  steady : ∀ error, (reply.visit.locale, .error error) ∈ reply.fetched →
    ∀ key, read reply.after.storage key = read reply.before.storage key

/-- What holds between any two loads. -/
structure Linked (policy : CachingPolicy) (read : τ → String → Option CacheRecord) (first : τ)
    (service : Service ι τ) : Prop where
  stored : ∀ locale, (read service.state.storage (policy.cacheKey locale)).map
    CacheRecord.messages = held policy read first service.replies locale
  stamped : ∀ locale record, read service.state.storage (policy.cacheKey locale) = some record →
    0 ≤ record.timestamp.toInt
  served : ∀ locale, locale ∈ service.state.served ↔
    ∃ reply ∈ service.replies, reply.Delivers locale
  kept : ∀ locale ∈ service.state.served,
    (held policy read first service.replies locale).isSome
  unbroken : service.state.overflowed = false
  guaranteed : InOrder (Guaranteed policy read first) service.replies

theorem cacheKey_injective (policy : CachingPolicy) {left right : String}
    (same : policy.cacheKey left = policy.cacheKey right) : left = right := by
  simpa [CachingPolicy.cacheKey, ← String.toList_inj] using same

theorem held_concat (first : τ) (replies : List (Reply ι τ)) (reply : Reply ι τ)
    (locale : String) :
    held policy read first (replies ++ [reply]) locale =
      (reply.fetch? locale).or (held policy read first replies locale) := by
  unfold held lastFetched
  rw [List.reverse_append, List.reverse_singleton, List.singleton_append, List.findSome?_cons]
  cases reply.fetch? locale <;> simp

theorem Reply.fetch?_of_nil {reply : Reply ι τ} (nothing : reply.fetched = []) (locale : String) :
    reply.fetch? locale = none := by
  simp [fetch?, nothing]

theorem Reply.fetch?_of_ok {reply : Reply ι τ} {name : String} {dictionary : Dictionary}
    (fetched : reply.fetched = [(name, .ok dictionary)]) (locale : String) :
    reply.fetch? locale = if name = locale then some dictionary else none := by
  simp [fetch?, fetched]

theorem Reply.fetch?_of_error {reply : Reply ι τ} {name : String} {error : Error}
    (fetched : reply.fetched = [(name, .error error)]) (locale : String) :
    reply.fetch? locale = none := by
  simp [fetch?, fetched]

variable {reply : Reply ι τ} {first : τ} {service : Service ι τ}

def Reply.Lasting (reply : Reply ι τ) : Prop :=
  ∀ dictionary, (reply.visit.locale, .ok dictionary) ∈ reply.fetched →
    ∀ time, time = reply.visit.start ∨ time = reply.visit.finish →
      CacheRecord.Lasting ⟨dictionary, time⟩

theorem Attended.stored (attended : Attended policy read reply) (lasting : reply.Lasting)
    (locale : String) :
    (read reply.after.storage (policy.cacheKey locale)).map CacheRecord.messages =
      (reply.fetch? locale).or
        ((read reply.before.storage (policy.cacheKey locale)).map CacheRecord.messages) := by
  cases attended with
  | fresh record stored isFresh outcome fetched same served =>
      rw [same, Reply.fetch?_of_nil fetched, Option.none_or]
  | stale record error stored asked outcome fetched same served =>
      rw [same, Reply.fetch?_of_error fetched, Option.none_or]
  | failed error stored outcome fetched same served =>
      rw [same, Reply.fetch?_of_error fetched, Option.none_or]
  | fetched dictionary time now asked outcome fetched stored served =>
      rw [stored (lasting dictionary (by simp [fetched]) time now), Reply.fetch?_of_ok fetched]
      by_cases same : reply.visit.locale = locale
      · simp [same]
      · have different : policy.cacheKey locale ≠ policy.cacheKey reply.visit.locale :=
          fun equal => same (cacheKey_injective policy equal).symm
        rw [if_neg different, if_neg same, Option.none_or]

theorem Attended.stamped (attended : Attended policy read reply) (lasting : reply.Lasting)
    (clock : 0 ≤ reply.visit.start.toInt ∧ 0 ≤ reply.visit.finish.toInt) {key : String}
    (before : ∀ record, read reply.before.storage key = some record →
      0 ≤ record.timestamp.toInt) :
    ∀ record, read reply.after.storage key = some record → 0 ≤ record.timestamp.toInt := by
  cases attended with
  | fresh record stored isFresh outcome fetched same served =>
      rw [same]
      exact before
  | stale record error stored asked outcome fetched same served =>
      rw [same]
      exact before
  | failed error stored outcome fetched same served =>
      rw [same]
      exact before
  | fetched dictionary time now asked outcome fetched stored served =>
      rw [stored (lasting dictionary (by simp [fetched]) time now)]
      intro record found
      split at found
      · cases found
        rcases now with rfl | rfl
        · exact clock.1
        · exact clock.2
      · exact before record found

theorem Attended.served (attended : Attended policy read reply) (locale : String) :
    locale ∈ reply.after.served ↔ reply.Delivers locale ∨ locale ∈ reply.before.served := by
  cases attended with
  | fresh record stored isFresh outcome fetched same served =>
      simp [served, Reply.Delivers, outcome, eq_comm]
  | stale record error stored asked outcome fetched same served =>
      simp [served, Reply.Delivers, outcome, eq_comm]
  | failed error stored outcome fetched same served =>
      simp [served, Reply.Delivers, outcome]
  | fetched dictionary time now asked outcome fetched stored served =>
      simp [served, Reply.Delivers, outcome, eq_comm]

theorem Attended.fails (attended : Attended policy read reply) (error : Error) :
    reply.outcome = .error error ↔ reply.fetched = [(reply.visit.locale, .error error)] ∧
      read reply.before.storage (policy.cacheKey reply.visit.locale) = none := by
  cases attended with
  | fresh record stored isFresh outcome fetched same served => simp [outcome, stored]
  | stale record other stored asked outcome fetched same served => simp [outcome, stored]
  | failed other stored outcome fetched same served => simp [outcome, stored, fetched]
  | fetched dictionary time now asked outcome fetched stored served => simp [outcome, fetched]

theorem Attended.delivers (attended : Attended policy read reply)
    (lasting : reply.Lasting) {dictionary : Dictionary}
    (delivered : reply.outcome = .ok dictionary) :
    (read reply.after.storage (policy.cacheKey reply.visit.locale)).map CacheRecord.messages =
      some dictionary := by
  cases attended with
  | fresh record stored isFresh outcome fetched same served =>
      rw [same, stored]
      simpa [outcome] using delivered
  | stale record error stored asked outcome fetched same served =>
      rw [same, stored]
      simpa [outcome] using delivered
  | failed error stored outcome fetched same served => simp [outcome] at delivered
  | fetched other time now asked outcome fetched stored served =>
      rw [stored (lasting other (by simp [fetched]) time now), if_pos rfl]
      simpa [outcome] using delivered

theorem Attended.spares (attended : Attended policy read reply) {record : CacheRecord}
    (clock : 0 ≤ reply.visit.start.toInt)
    (stamped : 0 ≤ record.timestamp.toInt)
    (found : read reply.before.storage (policy.cacheKey reply.visit.locale) = some record)
    (young : (reply.visit.start.toInt - record.timestamp.toInt).toNat < policy.ttl) :
    reply.fetched = [] := by
  have isFresh := (CacheRecord.isFresh_iff stamped clock).mpr young
  cases attended with
  | fresh record stored isFresh outcome fetched same served => exact fetched
  | stale other error stored asked outcome fetched same served =>
      rw [found] at stored
      cases stored
      simp [isFresh] at asked
  | failed error stored outcome fetched same served =>
      rw [found] at stored
      contradiction
  | fetched dictionary time now asked outcome fetched stored served =>
      simp [asked record found] at isFresh

theorem Attended.steady (attended : Attended policy read reply) {error : Error}
    (failed : (reply.visit.locale, .error error) ∈ reply.fetched) (key : String) :
    read reply.after.storage key = read reply.before.storage key := by
  cases attended with
  | fresh record stored isFresh outcome fetched same served => exact same key
  | stale record error stored asked outcome fetched same served => exact same key
  | failed error stored outcome fetched same served => exact same key
  | fetched dictionary time now asked outcome fetched stored served =>
      simp [fetched] at failed

theorem Linked.guaranteed_next (linked : Linked policy read first service)
    (isNext : reply.before = service.state) (attended : Attended policy read reply)
    (lasting : reply.Lasting) (clock : 0 ≤ reply.visit.start.toInt) :
    Guaranteed policy read first service.replies reply := by
  have stored := linked.stored reply.visit.locale
  rw [← isNext] at stored
  have nothing : read reply.before.storage (policy.cacheKey reply.visit.locale) = none ↔
      held policy read first service.replies reply.visit.locale = none := by
    rw [← stored, Option.map_eq_none_iff]
  constructor
  case stored => exact stored
  case fails =>
    intro error
    rw [attended.fails, nothing]
  case delivers =>
    intro dictionary delivered
    rw [held_concat, ← stored, ← attended.stored lasting]
    exact attended.delivers lasting delivered
  case lasts =>
    rintro ⟨earlier, member, delivered⟩
    refine ⟨rfl, ?_⟩
    cases outcome : reply.outcome with
    | ok dictionary => exact ⟨dictionary, rfl⟩
    | error error =>
        -- a locale that was delivered has something stored, which a failing load would deliver
        have isServed := (linked.served _).mpr ⟨earlier, member, delivered⟩
        have isHeld := linked.kept _ isServed
        rw [nothing.mp ((attended.fails error).mp outcome).2] at isHeld
        contradiction
  case spares =>
    intro record found young
    rw [isNext] at found
    exact attended.spares clock (linked.stamped _ record found) (isNext ▸ found) young
  case steady => exact fun error failed => attended.steady failed

theorem Linked.next (linked : Linked policy read first service)
    (isNext : reply.before = service.state) (attended : Attended policy read reply)
    (lasting : reply.Lasting)
    (clock : 0 ≤ reply.visit.start.toInt ∧ 0 ≤ reply.visit.finish.toInt)
    (unbroken : reply.after.overflowed = false) :
    Linked policy read first ⟨service.replies ++ [reply], reply.after⟩ := by
  have guaranteed := linked.guaranteed_next isNext attended lasting clock.1
  constructor
  case stored =>
    intro locale
    rw [held_concat, ← linked.stored locale, ← isNext]
    exact attended.stored lasting locale
  case stamped =>
    intro locale
    refine attended.stamped lasting clock ?_
    rw [isNext]
    exact linked.stamped locale
  case served =>
    intro locale
    rw [attended.served, isNext, linked.served locale]
    simp only [List.mem_append, List.mem_singleton, or_and_right, exists_or, exists_eq_left]
    rw [or_comm]
  case kept =>
    intro locale isServed
    rcases (attended.served locale).mp isServed with ⟨rfl, dictionary, delivered⟩ | before
    · rw [guaranteed.delivers dictionary delivered]
      rfl
    · rw [isNext] at before
      have isHeld := linked.kept locale before
      rw [held_concat]
      cases reply.fetch? locale with
      | none => exact isHeld
      | some dictionary => rfl
  case unbroken => exact unbroken
  case guaranteed => exact linked.guaranteed.concat guaranteed

theorem serve_linked (reliable : storage.Reliable read) (linked : Linked policy read first service)
    {visit : Visit} (clock : 0 ≤ visit.start.toInt ∧ 0 ≤ visit.finish.toInt)
    (lasting : (attend policy source storage visit service.state).Lasting) :
    Linked policy read first (serve policy source storage service visit) := by
  refine linked.next rfl (attend_attended reliable visit service.state) lasting clock ?_
  rw [attend_overflowed, linked.unbroken, reliable.found, Bool.false_or]
  cases found : read service.state.storage (policy.cacheKey visit.locale) with
  | none => rfl
  | some record =>
      have stamped := linked.stamped visit.locale record found
      exact (CacheRecord.overflows_eq_false_iff clock.1).mpr
        (CacheRecord.measurable_of_nonneg stamped)

theorem replies_subset_serveAll (service : Service ι τ) (visits : List Visit) :
    service.replies ⊆ (serveAll policy source storage service visits).replies := by
  induction visits generalizing service with
  | nil => exact fun _ member => member
  | cons visit visits ih =>
      exact fun reply member => ih (serve policy source storage service visit)
        (List.mem_append_left _ member)

theorem serveAll_linked (reliable : storage.Reliable read)
    (linked : Linked policy read first service) {visits : List Visit}
    (clocks : ∀ visit ∈ visits, 0 ≤ visit.start.toInt ∧ 0 ≤ visit.finish.toInt)
    (lasting : ∀ reply ∈ (serveAll policy source storage service visits).replies, reply.Lasting) :
    Linked policy read first (serveAll policy source storage service visits) := by
  induction visits generalizing service with
  | nil => exact linked
  | cons visit visits ih =>
      -- the replies so far are among those of the whole run, so they can be read back as well
      refine ih (serve_linked reliable linked (clocks visit (by simp)) ?_)
        (fun other member => clocks other (List.mem_cons_of_mem _ member)) lasting
      have replied : attend policy source storage visit service.state ∈
          (serve policy source storage service visit).replies := by
        simp [serve]
      exact lasting _ (replies_subset_serveAll _ visits replied)

def opening (inner : ι) (first : τ) : Service ι τ :=
  ⟨[], ⟨(inner, []), first, [], false⟩⟩

/-- What callers may rely on after any loads. -/
structure Offline (policy : CachingPolicy) (source : MessageSource ι) (storage : Storage τ)
    (read : τ → String → Option CacheRecord) (first : τ) (service : Service ι τ) : Prop where
  /-- The source delivers the same if no list of the answers is kept. -/
  plain : ∀ reply ∈ service.replies,
    reply.visit.run (source.caching policy storage) reply.before.forget =
      (reply.outcome, reply.after.forget)
  guaranteed : InOrder (Guaranteed policy read first) service.replies
  /-- A build with checks of overflow has not stopped. -/
  unbroken : service.state.overflowed = false
  /-- A locale is known to be there if the inner source has it or it was delivered. -/
  offers : ∀ locale,
    (source.recorded.caching policy storage).offers locale service.state = true ↔
      source.offers locale service.state.inner.1 = true ∨
        ∃ reply ∈ service.replies, reply.Delivers locale

theorem serveAll_plain {service : Service ι τ} (visits : List Visit)
    (plain : ∀ reply ∈ service.replies,
      reply.visit.run (source.caching policy storage) reply.before.forget =
        (reply.outcome, reply.after.forget)) :
    ∀ reply ∈ (serveAll policy source storage service visits).replies,
      reply.visit.run (source.caching policy storage) reply.before.forget =
        (reply.outcome, reply.after.forget) := by
  induction visits generalizing service with
  | nil => exact plain
  | cons visit visits ih =>
      refine ih fun reply member => ?_
      rcases List.mem_append.mp member with member | same
      · exact plain reply member
      · cases List.mem_singleton.mp same
        exact attend_forget visit service.state

theorem opening_linked (inner : ι) {first : τ}
    (stamped : ∀ locale record, read first (policy.cacheKey locale) = some record →
      0 ≤ record.timestamp.toInt) :
    Linked policy read first (opening inner first) where
  stored locale := by simp [opening, held, lastFetched]
  stamped := stamped
  served locale := by simp [opening]
  kept locale isServed := by simp [opening] at isServed
  unbroken := rfl
  guaranteed := .nil

/-- Whatever the inner source does, a locale that was delivered once is delivered from then on. -/
theorem serveAll_offline (reliable : storage.Reliable read) (inner : ι) {first : τ}
    (stamped : ∀ locale record, read first (policy.cacheKey locale) = some record →
      0 ≤ record.timestamp.toInt)
    {visits : List Visit}
    (clocks : ∀ visit ∈ visits, 0 ≤ visit.start.toInt ∧ 0 ≤ visit.finish.toInt)
    (lasting : ∀ reply ∈ (serveAll policy source storage (opening inner first) visits).replies,
      reply.Lasting) :
    Offline policy source storage read first
      (serveAll policy source storage (opening inner first) visits) := by
  have linked := serveAll_linked reliable (opening_linked inner stamped) clocks lasting
  constructor
  case plain => exact serveAll_plain visits (by simp [opening])
  case guaranteed => exact linked.guaranteed
  case unbroken => exact linked.unbroken
  case offers =>
    intro locale
    rw [← linked.served locale]
    simp only [MessageSource.caching, MessageSource.recorded, Bool.or_eq_true, decide_eq_true_eq]
    rw [or_comm]

/-- A source that answers once and fails from then on: the record is made, fresh and stale. -/
theorem serveAll_offline_scripted :
    Offline ⟨1000, "messages_"⟩ Script.source .memory
      (fun table key => (Keyed.get? key table).bind CacheRecord.decode) []
      (serveAll ⟨1000, "messages_"⟩ Script.source .memory
        (opening [("tr", [.ok (Dictionary.empty.insert "hello" (.string "Merhaba")),
          .error (.localeUnavailable "tr")])] [])
        [⟨"tr", 0, 5⟩, ⟨"tr", 10, 15⟩, ⟨"tr", 5000, 5005⟩]) := by
  refine serveAll_offline Storage.memory_reliable _ ?_ (by decide) ?_
  · intro locale record found
    simp [Keyed.get?] at found
  · intro reply member dictionary fetched time now
    change reply ∈ [_, _, _] at member
    simp only [List.mem_cons, List.not_mem_nil, or_false] at member
    rcases member with rfl | rfl | rfl
    · change _ ∈ [("tr", Except.ok (Dictionary.empty.insert "hello" (.string "Merhaba")))] at fetched
      cases List.mem_singleton.mp fetched
      rcases now with rfl | rfl <;> rfl
    · change _ ∈ [] at fetched
      contradiction
    · change _ ∈ [("tr", Except.error (Error.localeUnavailable "tr"))] at fetched
      cases List.mem_singleton.mp fetched

end Phrasebook.CachingSource
