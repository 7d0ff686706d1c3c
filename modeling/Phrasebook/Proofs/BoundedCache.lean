import Mathlib.Data.List.Induction
import Mathlib.Data.List.Nodup
import Phrasebook.BoundedCache
import Phrasebook.Proofs.Keyed

namespace Phrasebook

variable {κ : Type u} {α : Type v}

theorem eraseDups_cons_filter [DecidableEq κ] (key : κ) (keys : List κ) :
    (key :: keys).eraseDups = key :: (keys.filter (· ≠ key)).eraseDups := by
  rw [List.eraseDups_cons]
  congr 3
  funext other
  by_cases same : other = key <;> simp [same]

theorem eraseDups_filter [DecidableEq κ] (keep : κ → Bool) (keys : List κ) :
    (keys.filter keep).eraseDups = keys.eraseDups.filter keep := by
  induction size : keys.length using Nat.strongRecOn generalizing keys with
  | ind size ih =>
      subst size
      cases keys with
      | nil => rfl
      | cons key keys =>
          have shorter : (keys.filter (· ≠ key)).length < (key :: keys).length :=
            Nat.lt_succ_of_le (List.length_filter_le _ _)
          have others := ih _ shorter _ rfl
          rw [eraseDups_cons_filter]
          by_cases kept : keep key = true
          · rw [List.filter_cons_of_pos kept, List.filter_cons_of_pos kept, eraseDups_cons_filter,
              ← others, List.filter_comm]
          · have dropped : (keys.filter (· ≠ key)).filter keep = keys.filter keep := by
              rw [List.filter_filter]
              refine List.filter_congr fun other _ => ?_
              by_cases same : other = key <;> simp [same, kept]
            rw [List.filter_cons_of_neg kept, List.filter_cons_of_neg kept, ← others, dropped]

theorem nodup_eraseDups [DecidableEq κ] (keys : List κ) : keys.eraseDups.Nodup := by
  induction keys with
  | nil => exact List.nodup_nil
  | cons key keys ih =>
      rw [eraseDups_cons_filter, eraseDups_filter]
      exact List.nodup_cons.mpr ⟨by simp, ih.filter _⟩

/-- One key is missing from the first ones at most. -/
theorem take_filter_take [DecidableEq κ] {keys : List κ} (nodup : keys.Nodup) (key : κ)
    (count : Nat) :
    ((keys.take (count + 1)).filter (· ≠ key)).take count =
      (keys.filter (· ≠ key)).take count := by
  rcases Nat.lt_or_ge count keys.length with many | few
  · have full : (keys.take (count + 1)).length = count + 1 := List.length_take_of_le many
    have enough : count ≤ ((keys.take (count + 1)).filter (· ≠ key)).length := by
      have taken : (keys.take (count + 1)).Nodup := (List.take_sublist _ _).nodup nodup
      have fewer := @List.le_length_erase _ _ _ key (keys.take (count + 1))
      have erased : (keys.take (count + 1)).erase key = (keys.take (count + 1)).filter (· ≠ key) := by
        rw [taken.erase_eq_filter]
        exact List.filter_congr fun other _ => by by_cases same : other = key <;> simp [same]
      rw [erased, full] at fewer
      exact fewer
    conv => rhs; rw [← List.take_append_drop (count + 1) keys, List.filter_append]
    rw [List.take_append_of_le_length enough]
  · rw [List.take_of_length_le (Nat.le_succ_of_le few)]

namespace BoundedCache

inductive Request (κ : Type u) (α : Type v) where
  | get (key : κ)
  | set (key : κ) (value : α)
  | has (key : κ)
  | delete (key : κ)
  | clear
  | size

namespace Request

/-- The request only asks about the cache. -/
def asks : Request κ α → Bool
  | .has _ | .size => true
  | _ => false

/-- The request takes entries out, and not to make room. -/
def removes : Request κ α → Bool
  | .delete _ | .clear => true
  | _ => false

def sets? [DecidableEq κ] (key : κ) : Request κ α → Option α
  | .set other value => if other = key then some value else none
  | _ => none

end Request

inductive Answer (α : Type v) where
  | found (value : Option α)
  | stored (value : α)
  | truth (answer : Bool)
  | count (entries : Nat)
  | done

variable [DecidableEq κ]

def serve (cache : BoundedCache κ α) : Request κ α → Answer α × BoundedCache κ α
  | .get key => (.found (cache.get key).1, (cache.get key).2)
  | .set key value => (.stored value, cache.set key value)
  | .has key => (.truth (cache.has key), cache)
  | .delete key => (.truth (cache.delete key).1, (cache.delete key).2)
  | .clear => (.done, cache.clear)
  | .size => (.count cache.size, cache)

def serveAll (cache : BoundedCache κ α) (requests : List (Request κ α)) : BoundedCache κ α :=
  requests.foldl (fun cache request => (cache.serve request).2) cache

def answers (cache : BoundedCache κ α) : List (Request κ α) → List (Answer α)
  | [] => []
  | request :: requests =>
      (cache.serve request).1 :: answers (cache.serve request).2 requests

/-- The key that is touched: one that is set, or found. -/
def touched? (cache : BoundedCache κ α) : Request κ α → Option κ
  | .set key _ => some key
  | .get key => if cache.has key then some key else none
  | _ => none

/-- The keys that the requests touch, the latest first. -/
def touches (cache : BoundedCache κ α) : List (Request κ α) → List κ
  | [] => []
  | request :: requests =>
      touches (cache.serve request).2 requests ++ (cache.touched? request).toList

/-- The value that a key was set to last. -/
def lastSet? (key : κ) (requests : List (Request κ α)) : Option α :=
  requests.reverse.findSome? (Request.sets? key)

/-- A cache of that capacity, after the requests that touched these keys, the latest first, keeps
what was used last. -/
structure LeastRecentlyUsed (capacity : Nat) (requests : List (Request κ α)) (touches : List κ)
    (cache : BoundedCache κ α) : Prop where
  distinct : Keyed.Distinct cache.entries
  bounded : cache.size ≤ max capacity 1
  evicts : ∀ key value, cache.has key = false → cache.size = max capacity 1 →
    ∃ oldest, cache.has oldest = true ∧
      (∀ other, cache.has other = true → other ≠ oldest →
        touches.idxOf other < touches.idxOf oldest) ∧
      ∀ entry, entry ∈ (cache.set key value).entries ↔
        entry = (key, value) ∨ entry ∈ cache.entries ∧ entry.1 ≠ oldest
  sets : ∀ key value, cache.has key = true ∨ cache.size < max capacity 1 →
    ∀ entry, entry ∈ (cache.set key value).entries ↔
      entry = (key, value) ∨ entry ∈ cache.entries ∧ entry.1 ≠ key
  gets : ∀ key entry, entry ∈ (cache.get key).2.entries ↔ entry ∈ cache.entries
  touched : ∀ key, cache.has key = true → key ∈ touches
  asked : ∀ request : Request κ α, request.asks = true →
    ∀ later, (cache.serve request).2.answers later = cache.answers later
  yields : ∀ key, cache.has key = true →
    ∃ value, lastSet? key requests = some value ∧ (cache.get key).1 = some value
  recent : (∀ request ∈ requests, request.removes = false) →
    Keyed.keys cache.entries = touches.eraseDups.take (max capacity 1)

variable {cache : BoundedCache κ α} {key : κ} {value : α} {entry : κ × α}

theorem has_iff : cache.has key = true ↔ key ∈ Keyed.keys cache.entries :=
  Keyed.get?_isSome_iff

theorem has_set (cache : BoundedCache κ α) (key : κ) (value : α) :
    (cache.set key value).has key = true := by
  simp [has, set, pushed, Keyed.get?]

theorem get_of_present (present : cache.has key = true) :
    ∃ value, (key, value) ∈ cache.entries ∧
      cache.get key = (some value, cache.set key value) := by
  obtain ⟨value, found⟩ := Option.isSome_iff_exists.mp present
  exact ⟨value, Keyed.mem_of_get? found, by simp only [get, found]⟩

theorem get_of_absent (absent : cache.has key = false) : cache.get key = (none, cache) := by
  have found : Keyed.get? key cache.entries = none :=
    Option.isNone_iff_eq_none.mp (Option.isSome_eq_false_iff.mp absent)
  simp only [get, found]

theorem get_cases (cache : BoundedCache κ α) (key : κ) :
    (∃ value, (key, value) ∈ cache.entries ∧
      cache.get key = (some value, cache.set key value)) ∨
    cache.get key = (none, cache) := by
  cases found : cache.has key with
  | true => exact .inl (get_of_present found)
  | false => exact .inr (get_of_absent found)

theorem keys_erase (key : κ) (entries : List (κ × α)) :
    Keyed.keys (Keyed.erase key entries) = (Keyed.keys entries).filter (· ≠ key) := by
  unfold Keyed.keys Keyed.erase
  rw [List.filter_map]
  rfl

theorem keys_set (cache : BoundedCache κ α) (key : κ) (value : α) :
    Keyed.keys (cache.set key value).entries =
      key :: ((Keyed.keys cache.entries).filter (· ≠ key)).take (cache.capacity - 1) := by
  rw [← keys_erase]
  simp only [Keyed.keys, set, pushed, List.map_cons, List.map_take]

theorem mem_erase_iff {entries : List (κ × α)} :
    entry ∈ Keyed.erase key entries ↔ entry ∈ entries ∧ entry.1 ≠ key := by
  simp [Keyed.erase]

theorem erase_of_absent (absent : cache.has key = false) :
    Keyed.erase key cache.entries = cache.entries := by
  refine List.filter_eq_self.mpr fun entry member => ?_
  simp only [ne_eq, decide_not, Bool.not_eq_eq_eq_not, Bool.not_true, decide_eq_false_iff_not]
  rintro rfl
  have present : cache.has entry.1 = true := has_iff.mpr (List.mem_map_of_mem member)
  rw [absent] at present
  contradiction

theorem mem_set (member : entry ∈ (cache.set key value).entries) :
    entry = (key, value) ∨ entry ∈ cache.entries ∧ entry.1 ≠ key := by
  rcases List.mem_cons.mp member with same | member
  · exact .inl same
  · exact .inr (mem_erase_iff.mp (List.mem_of_mem_take member))

/-- Setting a key takes no other out if it is present or there is room. -/
theorem mem_set_of_room (room : cache.has key = true ∨ cache.size < cache.capacity)
    (value : α) : entry ∈ (cache.set key value).entries ↔
      entry = (key, value) ∨ entry ∈ cache.entries ∧ entry.1 ≠ key := by
  have few : (Keyed.erase key cache.entries).length ≤ cache.capacity - 1 := by
    rcases room with present | room
    · obtain ⟨found, member, same⟩ := List.mem_map.mp (has_iff.mp present)
      have fewer : (Keyed.erase key cache.entries).length < cache.entries.length :=
        List.length_filter_lt_length_iff_exists.mpr ⟨found, member, by simp [same]⟩
      have bounded := cache.bounded
      omega
    · have fewer : (Keyed.erase key cache.entries).length ≤ cache.entries.length :=
        List.length_filter_le _ _
      unfold size at room
      omega
  simp only [set, pushed, List.mem_cons, List.take_of_length_le few, mem_erase_iff]

/-- Setting an absent key takes the last entry out if there is no room. -/
theorem set_full (absent : cache.has key = false) (full : cache.size = cache.capacity)
    (value : α) : ∃ kept oldest, cache.entries = kept ++ [oldest] ∧
      (cache.set key value).entries = (key, value) :: kept := by
  rcases List.eq_nil_or_concat cache.entries with none | ⟨kept, oldest, same⟩
  · have positive := cache.positive
    rw [size, none, List.length_nil] at full
    omega
  · rw [List.concat_eq_append] at same
    have room : cache.capacity - 1 = kept.length := by
      rw [size, same, List.length_append, List.length_singleton] at full
      omega
    have erased := erase_of_absent absent
    rw [same] at erased
    refine ⟨kept, oldest, same, ?_⟩
    simp only [set, pushed, same, erased, room, List.take_left]

/-- Finding a key changes no entry, but only their order. -/
theorem mem_get (cache : BoundedCache κ α) (key : κ) (entry : κ × α) :
    entry ∈ (cache.get key).2.entries ↔ entry ∈ cache.entries := by
  cases found : cache.has key with
  | false => rw [get_of_absent found]
  | true =>
      obtain ⟨value, member, same⟩ := get_of_present found
      rw [same, mem_set_of_room (.inl found)]
      constructor
      · rintro (rfl | ⟨among, _⟩)
        · exact member
        · exact among
      · intro among
        by_cases sameKey : entry.1 = key
        · exact .inl (List.inj_on_of_nodup_map cache.distinct among member sameKey)
        · exact .inr ⟨among, sameKey⟩

/-- All that a request can do to a cache, with the key that it touches. -/
inductive Step (cache : BoundedCache κ α) : Request κ α → Option κ → BoundedCache κ α → Prop where
  | set (key : κ) (value : α) : Step cache (.set key value) (some key) (cache.set key value)
  | found {key : κ} {value : α} (member : (key, value) ∈ cache.entries) :
      Step cache (.get key) (some key) (cache.set key value)
  | same {request : Request κ α} (noSet : ∀ key, request.sets? key = none) :
      Step cache request none cache
  | removed {request : Request κ α} {smaller : BoundedCache κ α}
      (removes : request.removes = true) (noSet : ∀ key, request.sets? key = none)
      (capacity : smaller.capacity = cache.capacity)
      (fewer : smaller.entries.Sublist cache.entries) : Step cache request none smaller

theorem serve_step (cache : BoundedCache κ α) (request : Request κ α) :
    Step cache request (cache.touched? request) (cache.serve request).2 := by
  cases request with
  | get key =>
      cases found : cache.has key with
      | false =>
          simp only [touched?, found, serve, get_of_absent found]
          exact .same fun _ => rfl
      | true =>
          obtain ⟨value, member, same⟩ := get_of_present found
          simp only [touched?, found, if_true, serve, same]
          exact .found member
  | set key value => exact .set key value
  | has key => exact .same fun _ => rfl
  | delete key => exact .removed rfl (fun _ => rfl) rfl List.filter_sublist
  | clear => exact .removed rfl (fun _ => rfl) rfl (List.nil_sublist _)
  | size => exact .same fun _ => rfl

/-- The entries stand in the order in which their keys were touched last. -/
structure Tracked (capacity : Nat) (cache : BoundedCache κ α) (touches : List κ) : Prop where
  capacity : cache.capacity = max capacity 1
  touched : ∀ key ∈ Keyed.keys cache.entries, key ∈ touches
  ordered : (Keyed.keys cache.entries).Pairwise fun newer older =>
    touches.idxOf newer < touches.idxOf older

variable {capacity : Nat} {touches : List κ}

theorem Tracked.set (tracked : Tracked capacity cache touches) (key : κ) (value : α) :
    Tracked capacity (cache.set key value) (key :: touches) := by
  have others : ∀ other ∈
      ((Keyed.keys cache.entries).filter (· ≠ key)).take (cache.capacity - 1),
      other ∈ Keyed.keys cache.entries ∧ other ≠ key := by
    intro other member
    simpa using List.mem_of_mem_take member
  have later : ∀ other, other ≠ key →
      (key :: touches).idxOf other = touches.idxOf other + 1 :=
    fun other different => List.idxOf_cons_ne _ (Ne.symm different)
  refine ⟨tracked.capacity, ?_, ?_⟩
  · intro other member
    rw [keys_set] at member
    rcases List.mem_cons.mp member with rfl | member
    · exact List.mem_cons_self
    · exact List.mem_cons_of_mem _ (tracked.touched other (others other member).1)
  · rw [keys_set]
    refine List.pairwise_cons.mpr ⟨fun other member => ?_, ?_⟩
    · rw [later other (others other member).2, List.idxOf_cons_self]
      exact Nat.zero_lt_succ _
    · have kept := ((tracked.ordered.filter (· ≠ key)).take (i := cache.capacity - 1))
      refine kept.imp_of_mem fun {newer older} newerMember olderMember before => ?_
      rw [later newer (others newer newerMember).2, later older (others older olderMember).2]
      exact Nat.succ_lt_succ before

theorem Tracked.sublist (tracked : Tracked capacity cache touches) {smaller : BoundedCache κ α}
    (same : smaller.capacity = cache.capacity) (fewer : smaller.entries.Sublist cache.entries) :
    Tracked capacity smaller touches where
  capacity := same.trans tracked.capacity
  touched key member := tracked.touched key ((fewer.map Prod.fst).mem member)
  ordered := tracked.ordered.sublist (fewer.map Prod.fst)

theorem Tracked.step (tracked : Tracked capacity cache touches) {request : Request κ α}
    {touched : Option κ} {after : BoundedCache κ α} (step : Step cache request touched after) :
    Tracked capacity after (touched.toList ++ touches) := by
  cases step with
  | set key value => exact tracked.set key value
  | found member => exact tracked.set _ _
  | same noSet => exact tracked
  | removed removes noSet same fewer => exact tracked.sublist same fewer

/-- Every entry has the value that its key was set to last. -/
def Holds (requests : List (Request κ α)) (cache : BoundedCache κ α) : Prop :=
  ∀ key value, (key, value) ∈ cache.entries → lastSet? key requests = some value

theorem lastSet?_append (key : κ) (requests : List (Request κ α)) (request : Request κ α) :
    lastSet? key (requests ++ [request]) = (request.sets? key).or (lastSet? key requests) := by
  unfold lastSet?
  rw [List.reverse_append, List.reverse_singleton, List.singleton_append, List.findSome?_cons]
  cases request.sets? key <;> rfl

theorem Holds.step {requests : List (Request κ α)} (holds : Holds requests cache)
    {request : Request κ α} {touched : Option κ} {after : BoundedCache κ α}
    (step : Step cache request touched after) : Holds (requests ++ [request]) after := by
  intro other value member
  rw [lastSet?_append]
  cases step with
  | set key newValue =>
      rcases mem_set member with same | ⟨among, different⟩
      · cases same
        simp [Request.sets?]
      · rw [Request.sets?, if_neg (Ne.symm different), Option.none_or]
        exact holds other value among
  | found found =>
      change lastSet? other requests = some value
      rcases mem_set member with same | ⟨among, _⟩
      · cases same
        exact holds other value found
      · exact holds other value among
  | same noSet =>
      rw [noSet, Option.none_or]
      exact holds other value member
  | removed removes noSet same fewer =>
      rw [noSet, Option.none_or]
      exact holds other value (fewer.mem member)

/-- The keys are those that were touched last. -/
def Recent (cache : BoundedCache κ α) (touches : List κ) : Prop :=
  Keyed.keys cache.entries = touches.eraseDups.take cache.capacity

theorem Recent.set (recent : Recent cache touches) (key : κ) (value : α) :
    Recent (cache.set key value) (key :: touches) := by
  obtain ⟨count, room⟩ := Nat.exists_eq_add_of_le' cache.positive
  have capacity : (cache.set key value).capacity = count + 1 := room
  unfold Recent at recent ⊢
  rw [room] at recent
  rw [keys_set, recent, capacity, room, eraseDups_cons_filter, eraseDups_filter, List.take_succ_cons,
    Nat.add_sub_cancel, take_filter_take (nodup_eraseDups touches)]

theorem Recent.step (recent : Recent cache touches) {request : Request κ α}
    {touched : Option κ} {after : BoundedCache κ α} (step : Step cache request touched after)
    (keeps : request.removes = false) : Recent after (touched.toList ++ touches) := by
  cases step with
  | set key value => exact recent.set key value
  | found member => exact recent.set _ _
  | same noSet => exact recent
  | removed removes noSet same fewer =>
      rw [keeps] at removes
      contradiction

theorem serveAll_append (cache : BoundedCache κ α) (requests : List (Request κ α))
    (request : Request κ α) :
    cache.serveAll (requests ++ [request]) = ((cache.serveAll requests).serve request).2 :=
  List.foldl_concat ..

theorem touches_append (cache : BoundedCache κ α) (requests : List (Request κ α))
    (request : Request κ α) :
    cache.touches (requests ++ [request]) =
      ((cache.serveAll requests).touched? request).toList ++ cache.touches requests := by
  induction requests generalizing cache with
  | nil => simp [touches, serveAll]
  | cons first requests ih =>
      rw [List.cons_append, touches, ih, touches, List.append_assoc]
      rfl

theorem serveAll_tracked (capacity : Nat) (requests : List (Request κ α)) :
    Tracked capacity ((empty capacity).serveAll requests)
      ((empty capacity).touches requests) := by
  induction requests using List.reverseRecOn with
  | nil => exact ⟨rfl, fun _ member => absurd member List.not_mem_nil, .nil⟩
  | append_singleton requests request ih =>
      rw [serveAll_append, touches_append]
      exact ih.step (serve_step _ request)

theorem serveAll_holds (capacity : Nat) (requests : List (Request κ α)) :
    Holds requests ((empty capacity).serveAll requests) := by
  induction requests using List.reverseRecOn with
  | nil => exact fun _ _ member => absurd member List.not_mem_nil
  | append_singleton requests request ih =>
      rw [serveAll_append]
      exact ih.step (serve_step _ request)

theorem serveAll_recent (capacity : Nat) {requests : List (Request κ α)}
    (keep : ∀ request ∈ requests, request.removes = false) :
    Recent ((empty capacity).serveAll requests) ((empty capacity).touches requests) := by
  induction requests using List.reverseRecOn with
  | nil => exact List.take_nil.symm
  | append_singleton requests request ih =>
      have earlier := ih fun other member => keep other (List.mem_append_left _ member)
      rw [serveAll_append, touches_append]
      exact earlier.step (serve_step _ request) (keep request (by simp))

theorem Tracked.evicts (tracked : Tracked capacity cache touches) {key : κ}
    (absent : cache.has key = false) (full : cache.size = cache.capacity) (value : α) :
    ∃ oldest, cache.has oldest = true ∧
      (∀ other, cache.has other = true → other ≠ oldest →
        touches.idxOf other < touches.idxOf oldest) ∧
      ∀ entry, entry ∈ (cache.set key value).entries ↔
        entry = (key, value) ∨ entry ∈ cache.entries ∧ entry.1 ≠ oldest := by
  obtain ⟨kept, oldest, entries, entriesAfter⟩ := set_full absent full value
  have keys : Keyed.keys cache.entries = Keyed.keys kept ++ [oldest.1] := by
    rw [entries]
    exact List.map_append
  refine ⟨oldest.1, ?_, fun other present different => ?_, fun entry => ?_⟩
  · rw [has_iff, keys]
    simp
  · rw [has_iff, keys, List.mem_append, List.mem_singleton] at present
    have ordered := tracked.ordered
    rw [keys, List.pairwise_append] at ordered
    exact ordered.2.2 other (present.resolve_right different) oldest.1 (by simp)
  · have distinct := cache.distinct
    rw [entries] at distinct
    have apart : oldest.1 ∉ Keyed.keys kept := Keyed.Distinct.notMem_keys distinct
    rw [entriesAfter, entries, List.mem_cons, List.mem_append, List.mem_singleton]
    refine or_congr_right ⟨fun member => ⟨.inl member, ?_⟩, ?_⟩
    · intro same
      exact apart (same ▸ List.mem_map_of_mem member)
    · rintro ⟨member | rfl, different⟩
      · exact member
      · exact absurd rfl different

/-- After any requests to a new cache, what it keeps is what was used last. -/
theorem serveAll_leastRecentlyUsed (capacity : Nat) (requests : List (Request κ α)) :
    LeastRecentlyUsed capacity requests ((empty capacity).touches requests)
      ((empty capacity).serveAll requests) := by
  have tracked := serveAll_tracked capacity requests
  have holds := serveAll_holds capacity requests
  have recent := @serveAll_recent _ _ _ capacity requests
  generalize (empty capacity).serveAll requests = cache at tracked holds recent
  generalize (empty capacity).touches requests = touches at tracked recent
  have room := tracked.capacity
  constructor
  case distinct => exact cache.distinct
  case bounded =>
    rw [← room]
    exact cache.bounded
  case evicts =>
    rw [← room]
    exact fun key value absent full => tracked.evicts absent full value
  case sets =>
    rw [← room]
    exact fun key value room entry => mem_set_of_room room value
  case gets => exact mem_get cache
  case touched => exact fun key present => tracked.touched key (has_iff.mp present)
  case asked =>
    intro request asks later
    cases request with
    | has key => rfl
    | size => rfl
    | _ => contradiction
  case yields =>
    intro key present
    obtain ⟨value, member, found⟩ := get_of_present present
    exact ⟨value, holds key value member, congrArg Prod.fst found⟩
  case recent =>
    intro keep
    rw [← room]
    exact recent keep

-- Finding 1 saves it, asking for 2 does not save that.
example :
    Keyed.keys ((empty 2).serveAll
      [.set 1 "one", .set 2 "two", .get 1, .has 2, .set 3 "three", .get 2]).entries = [3, 1] := by
  decide

end BoundedCache

end Phrasebook
