import Phrasebook.Keyed

namespace Phrasebook

/-- A map of bounded size that forgets what has not been used for longest.  The entries stand in the
order of their last use, the latest first; asking whether a key is present is no use. -/
structure BoundedCache (κ : Type u) (α : Type v) where
  capacity : Nat
  positive : 0 < capacity
  entries : List (κ × α)
  distinct : Keyed.Distinct entries
  bounded : entries.length ≤ capacity

namespace BoundedCache

variable {κ : Type u} {α : Type v}

/-- A cache that holds at least one entry. -/
def empty (capacity : Nat) : BoundedCache κ α where
  capacity := max capacity 1
  positive := by omega
  entries := []
  distinct := List.nodup_nil
  bounded := Nat.zero_le _

variable [DecidableEq κ]

/-- The entries with one more in front, which replaces an entry of its key or else the last one
if there is no room. -/
def pushed (capacity : Nat) (key : κ) (value : α) (entries : List (κ × α)) : List (κ × α) :=
  (key, value) :: (Keyed.erase key entries).take (capacity - 1)

theorem pushed_distinct {entries : List (κ × α)} (distinct : Keyed.Distinct entries)
    (capacity : Nat) (key : κ) (value : α) :
    Keyed.Distinct (pushed capacity key value entries) := by
  unfold Keyed.Distinct Keyed.keys pushed Keyed.erase at *
  rw [List.map_cons, List.nodup_cons]
  constructor
  · intro member
    obtain ⟨entry, among, same⟩ := List.mem_map.mp member
    have kept := List.mem_filter.mp (List.mem_of_mem_take among)
    simp [same] at kept
  · exact ((List.take_sublist _ _).trans List.filter_sublist |>.map _).nodup distinct

theorem pushed_length (capacity : Nat) (positive : 0 < capacity) (key : κ) (value : α)
    (entries : List (κ × α)) : (pushed capacity key value entries).length ≤ capacity := by
  simp only [pushed, List.length_cons, List.length_take]
  omega

def set (cache : BoundedCache κ α) (key : κ) (value : α) : BoundedCache κ α :=
  { cache with
    entries := pushed cache.capacity key value cache.entries
    distinct := pushed_distinct cache.distinct _ _ _
    bounded := pushed_length _ cache.positive _ _ _ }

/-- The value of a key, which is used by this. -/
def get (cache : BoundedCache κ α) (key : κ) : Option α × BoundedCache κ α :=
  match Keyed.get? key cache.entries with
  | some value => (some value, cache.set key value)
  | none => (none, cache)

def has (cache : BoundedCache κ α) (key : κ) : Bool :=
  (Keyed.get? key cache.entries).isSome

def delete (cache : BoundedCache κ α) (key : κ) : Bool × BoundedCache κ α :=
  (cache.has key,
    { cache with
      entries := Keyed.erase key cache.entries
      distinct := (List.filter_sublist.map _).nodup cache.distinct
      bounded := Nat.le_trans (List.length_filter_le _ _) cache.bounded })

def clear (cache : BoundedCache κ α) : BoundedCache κ α :=
  { cache with
    entries := []
    distinct := List.nodup_nil
    bounded := Nat.zero_le _ }

def size (cache : BoundedCache κ α) : Nat :=
  cache.entries.length

end BoundedCache

end Phrasebook
