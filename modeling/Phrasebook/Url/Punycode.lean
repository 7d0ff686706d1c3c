namespace Phrasebook.Punycode

/-! Names of any characters in ASCII letters, digits and hyphens.

The ASCII characters of a name come first.  The others follow in ascending order, each as a number
that tells how far it is from the one before it, in value and in place.  These numbers have digits
to the base 36, the least one first, and a threshold for each place of a digit tells the last digit
from the others.
-/

def digitChar (digit : Nat) : Char :=
  if digit < 26 then Char.ofNat (97 + digit) else Char.ofNat (22 + digit)

def digitOf? (c : Char) : Option Nat :=
  if 'a' ≤ c ∧ c ≤ 'z' then some (c.toNat - 97)
  else if 'A' ≤ c ∧ c ≤ 'Z' then some (c.toNat - 65)
  else if '0' ≤ c ∧ c ≤ '9' then some (c.toNat - 22)
  else none

/-- The threshold of a place, where the first place is 36 and each next one 36 more. -/
def threshold (bias place : Nat) : Nat :=
  min (max (place - bias) 1) 26

theorem threshold_pos (bias place : Nat) : 1 ≤ threshold bias place := by
  unfold threshold
  omega

/-- A number divided by 35 until it is at most 455, and 36 for each division. -/
def scaleDown (number divisions : Nat) : Nat × Nat :=
  if 455 < number then scaleDown (number / 35) (divisions + 36) else (number, divisions)
termination_by number
decreasing_by omega

def adapt (number count : Nat) (isFirst : Bool) : Nat :=
  let damped := if isFirst then number / 700 else number / 2
  let (rest, divisions) := scaleDown (damped + damped / count) 0
  divisions + 36 * rest / (rest + 38)

def digits (bias place number : Nat) : List Char :=
  let least := threshold bias place
  if number < least then
    [digitChar number]
  else
    digitChar (least + (number - least) % (36 - least)) ::
      digits bias (place + 36) ((number - least) / (36 - least))
termination_by number
decreasing_by
  have positive := threshold_pos bias place
  exact Nat.lt_of_le_of_lt (Nat.div_le_self _ _) (by omega)

structure Encoder where
  distance : Nat
  bias : Nat
  placed : Nat
  output : List Char

namespace Encoder

/-- Pass by a character of the name on the way to the next one of value `point`. -/
def step (basic point : Nat) (encoder : Encoder) (c : Char) : Encoder :=
  if c.toNat < point then
    { encoder with distance := encoder.distance + 1 }
  else if c.toNat = point then
    { distance := 0
      bias := adapt encoder.distance (encoder.placed + 1) (encoder.placed = basic)
      placed := encoder.placed + 1
      output := encoder.output ++ digits encoder.bias 36 encoder.distance }
  else
    encoder

/-- Place the characters of the given values, where `next` is the least value that is left. -/
def place (name : List Char) (basic : Nat) : Nat → List Nat → Encoder → Encoder
  | _, [], encoder => encoder
  | next, point :: points, encoder =>
      let reached := { encoder with
        distance := encoder.distance + (point - next) * (encoder.placed + 1) }
      let passed := name.foldl (step basic point) reached
      place name basic (point + 1) points { passed with distance := passed.distance + 1 }

end Encoder

def isBasic (c : Char) : Bool :=
  c.toNat < 0x80

def encode (name : List Char) : List Char :=
  let basic := name.filter isBasic
  let points := ((name.filter (!isBasic ·)).map Char.toNat).mergeSort.eraseDups
  let start : Encoder := ⟨0, 72, basic.length, []⟩
  (if basic.isEmpty then [] else basic ++ ['-']) ++
    (Encoder.place name basic.length 0x80 points start).output

structure Decoder where
  name : List Char
  point : Nat
  start : Nat
  bias : Nat
  place : Nat
  weight : Nat
  sum : Nat

namespace Decoder

def insert (decoder : Decoder) (number : Nat) : Option Decoder :=
  let count := decoder.name.length + 1
  let reached := decoder.start + number
  let point := decoder.point + reached / count
  let index := reached % count
  if point.isValidChar then
    some {
      name := decoder.name.take index ++ Char.ofNat point :: decoder.name.drop index
      point
      start := index + 1
      bias := adapt number count (decoder.start = 0)
      place := 36
      weight := 1
      sum := 0 }
  else
    none

def step (decoder : Decoder) (c : Char) : Option Decoder := do
  let digit ← digitOf? c
  let least := threshold decoder.bias decoder.place
  let sum := decoder.sum + digit * decoder.weight
  if digit < least then
    decoder.insert sum
  else
    some { decoder with
      place := decoder.place + 36
      weight := decoder.weight * (36 - least)
      sum }

end Decoder

def decode? (cs : List Char) : Option (List Char) := do
  let backward := cs.reverse
  let numbers := (backward.takeWhile (· ≠ '-')).reverse
  let basic := ((backward.dropWhile (· ≠ '-')).drop 1).reverse
  let start : Decoder := ⟨basic, 0x80, 0, 72, 36, 1, 0⟩
  let decoder ← numbers.foldlM Decoder.step start
  if basic.all isBasic && decoder.place = 36 then some decoder.name else none

end Phrasebook.Punycode
