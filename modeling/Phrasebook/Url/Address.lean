import Phrasebook.Text.Basic

namespace Phrasebook

namespace Ipv4

/-- A part of an address: hexadecimal after `0x`, octal after `0`, and else decimal. -/
def readPart? : List Char → Option Nat
  | [] => none
  | '0' :: 'x' :: digits => Text.digitsIn? 16 digits
  | '0' :: 'X' :: digits => Text.digitsIn? 16 digits
  | '0' :: c :: digits => Text.digitsIn? 8 (c :: digits)
  | digits => Text.digitsIn? 10 digits

/-- The parts between points, of which the last may be empty. -/
def parts (cs : List Char) : List (List Char) :=
  let parts := Text.segments '.' cs
  if parts.getLast? = some [] then parts.dropLast else parts

/-- The name of a host that ends in a number can only be an address. -/
def isNumeric (cs : List Char) : Bool :=
  match (parts cs).getLast? with
  | some last => !last.isEmpty && (last.all Char.isDigit || (readPart? last).isSome)
  | none => false

def placeValue (place : Nat) : Nat :=
  Nat.pow 256 place

/-- The value of an address of up to four parts, of which the last fills the rest. -/
def read? (cs : List Char) : Option Nat := do
  let numbers ← (parts cs).mapM readPart?
  let last ← numbers.getLast?
  let leading := numbers.dropLast
  if 4 < numbers.length || leading.any (255 < ·) || placeValue (4 - leading.length) ≤ last then
    none
  else
    let high := leading.foldl (fun value part => value * 256 + part) 0
    some (high * placeValue (4 - leading.length) + last)

def text (address : Nat) : String :=
  ".".intercalate ([3, 2, 1, 0].map fun place => toString (address / placeValue place % 256))

end Ipv4

namespace Ipv6

def readGroup? (cs : List Char) : Option Nat :=
  if cs.isEmpty || 4 < cs.length then none else Text.digitsIn? 16 cs

def readByte? (cs : List Char) : Option Nat :=
  if cs.isEmpty || (1 < cs.length && cs.head? == some '0') then
    none
  else
    (Text.digitsIn? 10 cs).filter (· ≤ 255)

/-- The groups of a row.  Four bytes between points may stand for the last two of them. -/
def readGroups? : List (List Char) → Option (List Nat)
  | [] => some []
  | [last] =>
      match Text.segments '.' last with
      | [a, b, c, d] => do
          let a ← readByte? a
          let b ← readByte? b
          let c ← readByte? c
          let d ← readByte? d
          some [a * 256 + b, c * 256 + d]
      | _ => (readGroup? last).map ([·])
  | first :: rest => do
      let first ← readGroup? first
      let rest ← readGroups? rest
      some (first :: rest)

def cutGap : List Char → List Char × Option (List Char)
  | ':' :: ':' :: rest => ([], some rest)
  | c :: rest =>
      let (before, after) := cutGap rest
      (c :: before, after)
  | [] => ([], none)

def row (cs : List Char) : List (List Char) :=
  if cs.isEmpty then [] else Text.segments ':' cs

/-- The eight groups of an address.  A double colon stands for one zero group or more. -/
def read? (cs : List Char) : Option (List Nat) :=
  match cutGap cs with
  | (groups, none) => (readGroups? (row groups)).filter (·.length = 8)
  | (before, some after) => do
      let before ← if '.' ∈ before then none else readGroups? (row before)
      let after ← readGroups? (row after)
      let given := before.length + after.length
      if given ≤ 7 then some (before ++ List.replicate (8 - given) 0 ++ after) else none

def zeros (groups : List Nat) : Nat :=
  (groups.takeWhile (· = 0)).length

/-- Where the longest row of zero groups starts, and its length; the first of equal ones. -/
def longestGap : List Nat → Nat × Nat
  | [] => (0, 0)
  | group :: groups =>
      let (start, length) := longestGap groups
      let here := zeros (group :: groups)
      if length ≤ here then (0, here) else (start + 1, length)

def rowText (groups : List Nat) : String :=
  ":".intercalate (groups.map fun group => String.ofList (Nat.toDigits 16 group))

def text (groups : List Nat) : String :=
  let (start, length) := longestGap groups
  if length < 2 then rowText groups
  else rowText (groups.take start) ++ "::" ++ rowText (groups.drop (start + length))

end Ipv6

end Phrasebook
