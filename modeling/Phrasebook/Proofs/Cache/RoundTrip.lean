import Phrasebook.Cache.Record
import Phrasebook.Proofs.Json.RoundTrip

namespace Phrasebook.CacheRecord

open Json (Readable Ends entryChars separated)

variable {key : String} {value : Json} {rest : List Char}

theorem readField_known (known : key = messagesField ∨ key = timestampField) :
    readField (entryChars (key, value) ++ rest) = (do
      let (value, rest) ← Json.readValue maxInnerLevels (value.chars ++ rest)
      .ok (some (key, value), rest)) := by
  rw [readField, entryChars, List.append_assoc, List.cons_append, Json.readKey_quoted, ok_bind]
  exact if_pos known

theorem readField_entryChars (known : key = messagesField ∨ key = timestampField)
    (readable : value.Readable maxInnerLevels) (integral : value.Integral) (ends : Ends rest) :
    readField (entryChars (key, value) ++ rest) = .ok (some (key, value), rest) := by
  rw [readField_known known, Json.readValue_chars readable integral ends]
  rfl

theorem readField_deep (readable : value.Readable Json.maxLevels) (integral : value.Integral)
    (deep : maxInnerLevels < value.levels) (ends : Ends rest) :
    ∃ error, readField (entryChars (messagesField, value) ++ rest) = .error error := by
  obtain ⟨error, fails⟩ :=
    @Json.readValue_deep maxInnerLevels value readable integral deep rest ends
  refine ⟨error, ?_⟩
  rw [readField_known (.inl rfl), fails]
  rfl

variable {record : CacheRecord}

/-- The text of a field that has been read. -/
def fieldChars (field : Option (String × Json)) : List Char :=
  field.elim [] entryChars

/-- The text of a record behind its opening brace. -/
def bodyChars (record : CacheRecord) : List Char :=
  fieldChars (some (messagesField, record.messages.toJson)) ++
    separated '\x7d' [fieldChars (some (timestampField, .integer record.timestamp.toInt))]

theorem encode_toList : record.encode.toList = '\x7b' :: record.bodyChars := by
  rw [encode, Json.render, String.toList_ofList, toJson, Json.chars, Json.entriesTail_eq]
  show _ = '\x7b' :: (entryChars _ ++ _)
  rw [entryChars, List.append_assoc, List.cons_append]
  rfl

theorem decode_encode_eq :
    decode record.encode =
      (whole (Json.readContainer '\x7d' readField) record.bodyChars).bind fun fields =>
        ofFields (fields.filterMap id) := by
  unfold decode
  rw [encode_toList]
  rfl

theorem timestamp?_toInt (timestamp : Int64) :
    timestamp? (.integer timestamp.toInt) = some timestamp := by
  have bounds : Int64.minValue.toInt ≤ timestamp.toInt ∧
      timestamp.toInt ≤ Int64.maxValue.toInt :=
    ⟨timestamp.minValue_le_toInt, timestamp.toInt_le⟩
  refine (if_pos bounds).trans ?_
  rw [Int64.ofInt_toInt]

theorem isInteger64_toInt (timestamp : Int64) : Json.isInteger64 timestamp.toInt = true := by
  have below : timestamp.toInt < UInt64.size :=
    Int.lt_of_lt_of_le timestamp.toInt_lt (by decide)
  simp only [Json.isInteger64, Bool.and_eq_true, decide_eq_true_eq]
  exact ⟨timestamp.minValue_le_toInt, below⟩

theorem decode_encode (readable : record.messages.toJson.Readable maxInnerLevels)
    (integral : record.messages.toJson.Integral) : decode record.encode = some record := by
  have stamp : Readable maxInnerLevels (.integer record.timestamp.toInt) :=
    .integer (isInteger64_toInt record.timestamp)
  have reads : ∀ field ∈ [some (messagesField, record.messages.toJson),
      some (timestampField, .integer record.timestamp.toInt)],
      Json.ReadsPiece '\x7d' readField fieldChars field := by
    intro field member c rest mark
    have ends := Json.ends_mark mark (.inr rfl) rest
    rcases List.mem_cons.mp member with rfl | member
    · exact readField_entryChars (.inl rfl) readable integral ends
    · cases List.mem_singleton.mp member
      exact readField_entryChars (.inr rfl) stamp (.integer _) ends
  have read : Json.readContainer '\x7d' readField record.bodyChars =
      .ok ([some (messagesField, record.messages.toJson),
        some (timestampField, .integer record.timestamp.toInt)], []) := by
    have read := Json.readContainer_separated (by decide) (by decide) reads
      ⟨'"', _, rfl, by decide, by decide⟩ []
    rw [List.append_nil] at read
    exact read
  rw [decode_encode_eq, whole, read]
  show ofValues record.messages.toJson (.integer record.timestamp.toInt) = some record
  rw [ofValues, Dictionary.ofJson_toJson, timestamp?_toInt]

/-- A record without messages. -/
def stamped (timestamp : Int64) : CacheRecord :=
  ⟨Dictionary.empty, timestamp⟩

theorem decode_encode_stamped (timestamp : Int64) :
    decode (stamped timestamp).encode = some (stamped timestamp) := by
  have nothing : ∀ entry, entry ∉ (stamped timestamp).messages.entries := by
    simp [stamped, Dictionary.empty]
  exact decode_encode (.object fun entry member => absurd member (nothing entry))
    (.object fun entry member => absurd member (nothing entry))

theorem decode_encode_deep (readable : record.messages.toJson.Readable Json.maxLevels)
    (integral : record.messages.toJson.Integral)
    (deep : maxInnerLevels < record.messages.toJson.levels) : decode record.encode = none := by
  obtain ⟨error, fails⟩ := readField_deep readable integral deep
    (Json.ends_mark (.inl rfl) (.inr rfl) (fieldChars _ ++ ['\x7d']))
  have refused : Json.readContainer '\x7d' readField record.bodyChars = .error error :=
    Json.readContainer_error (by decide) (by decide) fails
  rw [decode_encode_eq, whole, refused]
  rfl

/-- A dictionary of texts and integers that could be read from a text can be read back from a
record, unless it has as many levels as a reader takes: then its record has one too many. -/
theorem decode_encode_of_read {text : String} {dictionary : Dictionary}
    (read : Dictionary.read text = .ok dictionary) (integral : dictionary.toJson.Integral)
    (timestamp : Int64) :
    dictionary.toJson.levels ≤ Json.maxLevels ∧
      decode (encode ⟨dictionary, timestamp⟩) =
        if dictionary.toJson.levels < Json.maxLevels then some ⟨dictionary, timestamp⟩
        else none := by
  have readable := Dictionary.readable_of_read read
  refine ⟨readable.levels_le, ?_⟩
  split
  · next shallow =>
      exact @decode_encode ⟨dictionary, timestamp⟩
        (readable.of_levels_le (Nat.le_of_lt_succ shallow)) integral
  · next full =>
      exact @decode_encode_deep ⟨dictionary, timestamp⟩ readable integral (Nat.not_lt.mp full)

def guests : Dictionary :=
  ⟨[("none", .string "Niemand"), ("most", .integer 12)],
    by simp [Json.Distinct, Json.DistinctEntries, Keyed.Distinct, Keyed.keys]⟩

theorem decode_encode_guests :
    Dictionary.read guests.toJson.render = .ok guests ∧ guests.toJson.Integral ∧
      decode (encode ⟨guests, 1700000000000⟩) = some ⟨guests, 1700000000000⟩ := by
  have readable : guests.toJson.Readable Json.maxLevels := by
    refine .object fun entry member => ?_
    rcases List.mem_cons.mp member with rfl | member
    · exact .string "Niemand"
    · cases List.mem_singleton.mp member
      exact .integer (by decide)
  have integral : guests.toJson.Integral := by
    refine .object fun entry member => ?_
    rcases List.mem_cons.mp member with rfl | member
    · exact .string "Niemand"
    · cases List.mem_singleton.mp member
      exact .integer 12
  have read := Dictionary.read_render readable integral
  exact ⟨read, integral,
    (decode_encode_of_read read integral 1700000000000).2.trans (if_pos (by decide))⟩

def nest : Nat → Json
  | 0 => .string "inside"
  | depth + 1 => .object [("a", nest depth)]

theorem nest_levels (depth : Nat) : (nest depth).levels = depth := by
  induction depth with
  | zero => rfl
  | succ depth ih => simp only [nest, Json.levels, Json.entriesLevels, ih, Nat.max_zero]

theorem nest_readable (depth : Nat) : (nest depth).Readable depth := by
  induction depth with
  | zero => exact .string "inside"
  | succ depth ih =>
      refine .object fun entry member => ?_
      cases List.mem_singleton.mp member
      exact ih

theorem nest_integral (depth : Nat) : (nest depth).Integral := by
  induction depth with
  | zero => exact .string "inside"
  | succ depth ih =>
      refine .object fun entry member => ?_
      cases List.mem_singleton.mp member
      exact ih

theorem nest_distinct (depth : Nat) : (nest depth).Distinct := by
  induction depth with
  | zero => trivial
  | succ depth ih => exact ⟨List.pairwise_singleton _ "a", ih, trivial⟩

def deepest : Dictionary :=
  ⟨[("a", nest 126)], nest_distinct 127⟩

theorem deepest_readable : deepest.toJson.Readable Json.maxLevels :=
  nest_readable 127

theorem deepest_integral : deepest.toJson.Integral :=
  nest_integral 127

theorem read_deepest : Dictionary.read deepest.toJson.render = .ok deepest :=
  Dictionary.read_render deepest_readable deepest_integral

theorem decode_deepest : decode (encode ⟨deepest, 0⟩) = none := by
  have deep : maxInnerLevels < deepest.toJson.levels :=
    Nat.lt_of_lt_of_eq (Nat.lt_succ_self 126) (nest_levels 127).symm
  exact @decode_encode_deep ⟨deepest, 0⟩ deepest_readable deepest_integral deep

theorem decode_encode_deepest :
    Dictionary.read deepest.toJson.render = .ok deepest ∧ decode (encode ⟨deepest, 0⟩) = none :=
  ⟨read_deepest, decode_deepest⟩

end Phrasebook.CacheRecord
