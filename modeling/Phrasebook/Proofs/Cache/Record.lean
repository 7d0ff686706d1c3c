import Phrasebook.Cache.Storage
import Phrasebook.Proofs.Keyed

namespace Phrasebook

namespace CacheRecord

variable {record : CacheRecord} {now : Int64}

/-- The record can be read back from its text. -/
def Lasting (record : CacheRecord) : Prop :=
  decode record.encode = some record

/-- The milliseconds that have passed are no more than a time can count. -/
def Measurable (record : CacheRecord) (now : Int64) : Prop :=
  record.elapsed now ≤ Int64.maxValue.toInt

theorem overflows_eq_false_iff (clock : 0 ≤ now.toInt) :
    record.overflows now = false ↔ record.Measurable now := by
  have stampUpper := record.timestamp.toInt_lt
  have ahead : Int64.minValue.toInt ≤ record.elapsed now := by
    rw [Int64.toInt_minValue, elapsed]
    omega
  rw [overflows, Measurable, Bool.or_eq_false_iff, decide_eq_false_iff_not,
    decide_eq_false_iff_not, Int.not_lt, Int.not_lt, and_iff_right ahead]

theorem toInt_sub_of_measurable (clock : 0 ≤ now.toInt) (measurable : record.Measurable now) :
    (now - record.timestamp).toInt = record.elapsed now := by
  have stampUpper := record.timestamp.toInt_lt
  unfold Measurable elapsed at *
  rw [Int64.toInt_maxValue] at measurable
  rw [Int64.toInt_sub]
  apply Int.bmod_eq_of_le
  · omega
  · omega

theorem age_of_measurable (clock : 0 ≤ now.toInt) (measurable : record.Measurable now) :
    (record.age now : Int) = max 0 (record.elapsed now) := by
  rw [age, toInt_sub_of_measurable clock measurable]
  omega

theorem measurable_of_nonneg (stamped : 0 ≤ record.timestamp.toInt) : record.Measurable now :=
  Int.le_trans (Int.sub_le_self _ stamped) now.toInt_le

theorem age_of_nonneg (stamped : 0 ≤ record.timestamp.toInt) (clock : 0 ≤ now.toInt) :
    record.age now = (now.toInt - record.timestamp.toInt).toNat := by
  have age := age_of_measurable clock (measurable_of_nonneg stamped)
  unfold elapsed at age
  omega

theorem isFresh_iff {ttl : Nat} (stamped : 0 ≤ record.timestamp.toInt) (clock : 0 ≤ now.toInt) :
    record.isFresh ttl now = true ↔ (now.toInt - record.timestamp.toInt).toNat < ttl := by
  rw [isFresh, age_of_nonneg stamped clock, decide_eq_true_iff]

end CacheRecord

namespace Storage

/-- `read` tells what a state of the storage holds. -/
structure Reliable (storage : Storage τ) (read : τ → String → Option CacheRecord) : Prop where
  get : ∀ key state, (storage.get key state).1 = .ok (read state key)
  read_get : ∀ key other state, read (storage.get key state).2 other = read state other
  set : ∀ key record state, (storage.set key record state).1 = .ok ()
  read_set : ∀ key other record state, record.Lasting →
    read (storage.set key record state).2 other =
      if other = key then some record else read state other

theorem memory_reliable :
    memory.Reliable fun table key => (Keyed.get? key table).bind CacheRecord.decode where
  get key table := rfl
  read_get key other table := rfl
  set key record table := rfl
  read_set key other record table lasting := by
    show (Keyed.get? other (Keyed.put key record.encode table)).bind CacheRecord.decode = _
    rw [Keyed.get?_put]
    split
    · exact lasting
    · rfl

end Storage

end Phrasebook
