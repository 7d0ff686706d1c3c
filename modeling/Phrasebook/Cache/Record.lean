import Phrasebook.Dictionary
import Phrasebook.Json.Skipping

namespace Phrasebook

/-! Records of the message cache: a dictionary and the time when it was stored.

A record is stored as JSON text.  It is read back from an object that has each of the two fields
once, among any others, or from an array of the two values.  Any other text is no record.
-/

structure CacheRecord where
  messages : Dictionary
  /-- Milliseconds since the epoch. -/
  timestamp : Int64

namespace CacheRecord

/-- The milliseconds from the time stamp to `now`, negative if it lies ahead. -/
def elapsed (record : CacheRecord) (now : Int64) : Int :=
  now.toInt - record.timestamp.toInt

/-- Whether 64 bits cannot count the milliseconds.  A build with checks of overflow stops there, and
one without them goes on with a count that has wrapped around. -/
def overflows (record : CacheRecord) (now : Int64) : Bool :=
  record.elapsed now < Int64.minValue.toInt || Int64.maxValue.toInt < record.elapsed now

/-- The age in a build without checks.  A record from the future has none. -/
def age (record : CacheRecord) (now : Int64) : Nat :=
  (now - record.timestamp).toInt.toNat

/-- The age in a build with checks, which may stop instead. -/
def checkedAge (record : CacheRecord) (now : Int64) : Option Nat :=
  if record.overflows now then none else some (record.age now)

def isFresh (record : CacheRecord) (ttl : Nat) (now : Int64) : Bool :=
  record.age now < ttl

def messagesField : String := "messages"

def timestampField : String := "timestamp"

def toJson (record : CacheRecord) : Json :=
  .object [(messagesField, record.messages.toJson),
    (timestampField, .integer record.timestamp.toInt)]

def encode (record : CacheRecord) : String :=
  record.toJson.render

def timestamp? : Json → Option Int64
  | .integer value =>
      if Int64.minValue.toInt ≤ value ∧ value ≤ Int64.maxValue.toInt then some (.ofInt value)
      else none
  | _ => none

def ofValues (messages timestamp : Json) : Option CacheRecord :=
  match Dictionary.ofJson messages, timestamp? timestamp with
  | .ok messages, some timestamp => some ⟨messages, timestamp⟩
  | _, _ => none

/-- The record of an object's own fields: the two of them in either order, none of them twice. -/
def ofFields : List (String × Json) → Option CacheRecord
  | [(first, left), (second, right)] =>
      if first = messagesField ∧ second = timestampField then ofValues left right
      else if first = timestampField ∧ second = messagesField then ofValues right left
      else none
  | _ => none

/-- The levels that a value of the record may have, which is one level itself. -/
def maxInnerLevels : Nat := Json.maxLevels - 1

def readField (cs : List Char) :
    Except Json.SyntaxError (Option (String × Json) × List Char) := do
  let (key, rest) ← Json.readKey cs
  if key = messagesField ∨ key = timestampField then do
    let (value, rest) ← Json.readValue maxInnerLevels rest
    .ok (some (key, value), rest)
  else do
    let (_, rest) ← Json.skipValue rest.length rest
    .ok (none, rest)

def whole (read : Json.Reader α) (cs : List Char) : Option α :=
  match read cs with
  | .ok (value, rest) => if (Json.skipSpace rest).isEmpty then some value else none
  | .error _ => none

def decode (text : String) : Option CacheRecord :=
  match Json.skipSpace text.toList with
  | '\x7b' :: rest =>
      (whole (Json.readContainer '\x7d' readField) rest).bind fun fields =>
        ofFields (fields.filterMap id)
  | '[' :: rest =>
      match whole (Json.readContainer ']' (Json.readValue maxInnerLevels)) rest with
      | some [messages, timestamp] => ofValues messages timestamp
      | _ => none
  | _ => none

end CacheRecord

end Phrasebook
