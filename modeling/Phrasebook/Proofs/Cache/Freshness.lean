import Phrasebook.Proofs.Cache.Record
import Phrasebook.Proofs.Cache.RoundTrip

namespace Phrasebook.CacheRecord

variable {record other : CacheRecord} {now earlier : Int64} {ttl : Nat}

theorem checkedAge_of_measurable (clock : 0 ≤ now.toInt) (measurable : record.Measurable now) :
    record.checkedAge now = some (record.age now) := by
  rw [checkedAge, (overflows_eq_false_iff clock).mpr measurable]
  rfl

theorem checkedAge_of_not_measurable (clock : 0 ≤ now.toInt) (immense : ¬ record.Measurable now) :
    record.checkedAge now = none := by
  rw [checkedAge, if_pos]
  exact Bool.of_not_eq_false (mt (overflows_eq_false_iff clock).mp immense)

/-- A span that is too long comes out negative. -/
theorem toInt_sub_of_not_measurable (immense : ¬ record.Measurable now) :
    (now - record.timestamp).toInt < 0 := by
  have nowUpper := now.toInt_lt
  have stampLower := record.timestamp.le_toInt
  unfold Measurable elapsed at immense
  rw [Int64.toInt_maxValue] at immense
  have wrapped : (now - record.timestamp).toInt =
      now.toInt - record.timestamp.toInt - (2 ^ 64 : Nat) := by
    rw [Int64.toInt_sub, ← Int.sub_bmod_right]
    apply Int.bmod_eq_of_le
    · omega
    · omega
  omega

theorem age_of_not_measurable (immense : ¬ record.Measurable now) : record.age now = 0 := by
  have negative := toInt_sub_of_not_measurable immense
  unfold age
  omega

theorem toInt_sub_eq_iff (clock : 0 ≤ now.toInt) :
    (now - record.timestamp).toInt = record.elapsed now ↔ record.Measurable now := by
  refine ⟨fun exact => ?_, toInt_sub_of_measurable clock⟩
  have bound := (now - record.timestamp).toInt_le
  rw [exact] at bound
  exact bound

theorem isFresh_iff_age : record.isFresh ttl now = true ↔ record.age now < ttl :=
  decide_eq_true_iff

theorem isFresh_of_measurable (clock : 0 ≤ now.toInt) (measurable : record.Measurable now) :
    record.isFresh ttl now = true ↔ max 0 (record.elapsed now) < ttl := by
  rw [isFresh_iff_age, ← age_of_measurable clock measurable, Int.ofNat_lt]

/-- The milliseconds that a span of nanoseconds begins. -/
def millisecondsOf (nanoseconds : Nat) : Nat :=
  (nanoseconds + 999999) / 1000000

/-- A time to live that is no whole number of milliseconds lasts as long as the next one. -/
theorem isFresh_millisecondsOf {nanoseconds : Nat} :
    record.isFresh (millisecondsOf nanoseconds) now = true ↔
      record.age now * 1000000 < nanoseconds := by
  rw [isFresh_iff_age, millisecondsOf]
  omega

theorem Measurable.mono (measurable : record.Measurable now)
    (less : other.elapsed earlier ≤ record.elapsed now) : other.Measurable earlier :=
  Int.le_trans less measurable

/-- A record for which less time has passed than for a fresh one is fresh as well. -/
theorem isFresh_mono (clock : 0 ≤ now.toInt) (earlierClock : 0 ≤ earlier.toInt)
    (measurable : record.Measurable now)
    (less : other.elapsed earlier ≤ record.elapsed now) (fresh : record.isFresh ttl now = true) :
    other.isFresh ttl earlier = true := by
  rw [isFresh_of_measurable clock measurable] at fresh
  rw [isFresh_of_measurable earlierClock (measurable.mono less)]
  omega

/-- Up to the longest span that 64 bits can count, ages are exact and records are fresh as long as
they should be, in builds with and without checks of overflow.  Of an older record the first have no
age, and to the others it is new. -/
theorem freshness_exact (clock : 0 ≤ now.toInt) :
    (record.overflows now = false ↔ record.Measurable now) ∧
    ((now - record.timestamp).toInt = record.elapsed now ↔ record.Measurable now) ∧
    (record.Measurable now →
      record.checkedAge now = some (record.age now) ∧
      (record.age now : Int) = max 0 (record.elapsed now) ∧
      (∀ ttl : Nat, record.isFresh ttl now = true ↔ max 0 (record.elapsed now) < ttl) ∧
      (∀ nanoseconds : Nat, record.isFresh (millisecondsOf nanoseconds) now = true ↔
        max 0 (record.elapsed now) * 1000000 < nanoseconds) ∧
      (∀ (ttl : Nat) (younger : CacheRecord), record.timestamp ≤ younger.timestamp →
        record.isFresh ttl now = true → younger.isFresh ttl now = true) ∧
      ∀ (ttl : Nat) (earlier : Int64), 0 ≤ earlier.toInt → earlier ≤ now →
        record.isFresh ttl now = true → record.isFresh ttl earlier = true) ∧
    (¬ record.Measurable now →
      record.checkedAge now = none ∧ record.age now = 0 ∧
      ∀ ttl : Nat, record.isFresh ttl now = true ↔ 0 < ttl) := by
  refine ⟨overflows_eq_false_iff clock, toInt_sub_eq_iff clock, fun measurable => ?_,
    fun immense => ?_⟩
  · refine ⟨checkedAge_of_measurable clock measurable, age_of_measurable clock measurable,
      fun ttl => isFresh_of_measurable clock measurable, fun nanoseconds => ?_,
      fun ttl younger stamped => ?_, fun ttl earlier started before => ?_⟩
    · rw [isFresh_millisecondsOf, ← age_of_measurable clock measurable]
      omega
    · apply isFresh_mono clock clock measurable
      exact Int.sub_le_sub_left (Int64.le_iff_toInt_le.mp stamped) _
    · apply isFresh_mono clock started measurable
      exact Int.sub_le_sub_right (Int64.le_iff_toInt_le.mp before) _
  · have age := age_of_not_measurable immense
    exact ⟨checkedAge_of_not_measurable clock immense, age,
      fun ttl => by rw [isFresh_iff_age, age]⟩

/-- A record that was stored an hour ago, another one a millisecond after it, and the clock a
millisecond before. -/
theorem freshness_exact_hour :
    0 ≤ (1760000000000 : Int64).toInt ∧ (stamped 1759996400000).Measurable 1760000000000 ∧
      (stamped 1759996400000).checkedAge 1760000000000 = some 3600000 ∧
      (stamped 1759996400000).isFresh 3600000 1760000000000 = false ∧
      (stamped 1759996400000).isFresh 3600001 1760000000000 = true ∧
      (stamped 1759996400001).isFresh 3600001 1760000000000 = true ∧
      (stamped 1759996400000).isFresh 3600001 1759999999999 = true := by
  have clock : 0 ≤ (1760000000000 : Int64).toInt := by decide
  have measurable : (stamped 1759996400000).Measurable 1760000000000 := by
    unfold Measurable
    decide
  obtain ⟨checked, age, isFresh, _, ofYounger, ofEarlier⟩ :=
    (freshness_exact clock).2.2.1 measurable
  have hour : max 0 ((stamped 1759996400000).elapsed 1760000000000) = 3600000 := by decide
  rw [hour] at age
  rw [Int.ofNat_inj.mp age] at checked
  have fresh : (stamped 1759996400000).isFresh 3600001 1760000000000 = true := by
    rw [isFresh, hour]
    decide
  have stale : (stamped 1759996400000).isFresh 3600000 1760000000000 = false := by
    rw [Bool.eq_false_iff, Ne, isFresh, hour]
    decide
  exact ⟨clock, measurable, checked, stale, fresh,
    ofYounger _ (stamped 1759996400001) (by decide) fresh,
    ofEarlier _ 1759999999999 (by decide) (by decide) fresh⟩

/-- The oldest record there can be is read back from its text.  A build that checks for overflow
stops at its age.  In any other it counts as new where one that was stored at the epoch is long out
of date, and the oldest but one is not fresh first, and is fresh a millisecond later. -/
theorem freshness_oldest :
    decode (stamped Int64.minValue).encode = some (stamped Int64.minValue) ∧
      3600000 ≤ (stamped Int64.minValue).elapsed 1760000000000 ∧
      (stamped Int64.minValue).checkedAge 1760000000000 = none ∧
      (1760000000000 - (stamped Int64.minValue).timestamp).toInt ≠
        (stamped Int64.minValue).elapsed 1760000000000 ∧
      (stamped Int64.minValue).age 1760000000000 = 0 ∧
      (stamped Int64.minValue).isFresh 3600000 1760000000000 = true ∧
      (stamped 0).isFresh 3600000 1760000000000 = false ∧
      (stamped (Int64.minValue + 1)).isFresh 3600000 0 = false ∧
      (stamped (Int64.minValue + 1)).isFresh 3600000 1 = true := by
  refine ⟨decode_encode_stamped _, ?_, rfl, ?_, rfl, rfl, rfl, rfl, rfl⟩
  · decide
  · decide

end Phrasebook.CacheRecord
