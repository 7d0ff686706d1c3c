import Phrasebook.Json.Basic
import Phrasebook.Text.Basic

namespace Phrasebook.Json

/-! Reading JSON text.

Every function takes the characters that are left and gives back those that it has not used.
Arrays and objects count levels of nesting, and a text with more than 127 of them is refused.
-/

inductive SyntaxFault where
  | unexpectedEnd
  | expectedValue
  | expectedKey
  | expectedColon
  | expectedCommaOrEnd
  | controlCharacter
  | badEscape
  | loneSurrogate
  | badNumber
  | numberOutOfRange
  | tooDeep
  | trailingCharacters
deriving DecidableEq

namespace SyntaxFault

def reason : SyntaxFault → String
  | .unexpectedEnd => "unexpected end of text"
  | .expectedValue => "expected a value"
  | .expectedKey => "expected a key in quotes"
  | .expectedColon => "expected a colon"
  | .expectedCommaOrEnd => "expected a comma or the end of the container"
  | .controlCharacter => "control character in a string"
  | .badEscape => "unknown escape"
  | .loneSurrogate => "lone surrogate in an escape"
  | .badNumber => "malformed number"
  | .numberOutOfRange => "number out of range"
  | .tooDeep => "nested too deeply"
  | .trailingCharacters => "trailing characters"

end SyntaxFault

/-- A fault and the number of characters that were left when it was met. -/
structure SyntaxError where
  fault : SyntaxFault
  left : Nat

/-- The fault with its place in the text, lines and columns counted from one. -/
def SyntaxError.message (error : SyntaxError) (text : List Char) : String :=
  let read := text.take (text.length - error.left)
  let line := read.count '\n' + 1
  let column := (read.reverse.takeWhile (· ≠ '\n')).length + 1
  s!"{error.fault.reason} at line {line} column {column}"

abbrev Reader (α : Type) := List Char → Except SyntaxError (α × List Char)

def refuse (fault : SyntaxFault) (rest : List Char) : Except SyntaxError α :=
  .error ⟨fault, rest.length⟩

def isSpace (c : Char) : Bool :=
  c = ' ' || c = '\n' || c = '\t' || c = '\r'

def skipSpace (cs : List Char) : List Char :=
  cs.dropWhile isSpace

def readHex : Reader Nat
  | a :: b :: c :: d :: rest =>
      match Text.digitsIn? 16 [a, b, c, d] with
      | some value => .ok (value, rest)
      | none => refuse .badEscape rest
  | rest => refuse .unexpectedEnd rest

/-- A character by its number: one escape, or two that name a pair of surrogates. -/
def readUnicode (cs : List Char) : Except SyntaxError (Char × List Char) := do
  let (first, rest) ← readHex cs
  if 0xDC00 ≤ first && first ≤ 0xDFFF then
    refuse .loneSurrogate rest
  else if 0xD800 ≤ first && first ≤ 0xDBFF then
    match rest with
    | '\\' :: 'u' :: rest =>
        let (second, rest) ← readHex rest
        if 0xDC00 ≤ second && second ≤ 0xDFFF then
          .ok (Char.ofNat (0x10000 + (first - 0xD800) * 0x400 + (second - 0xDC00)), rest)
        else
          refuse .loneSurrogate rest
    | rest => refuse .loneSurrogate rest
  else
    .ok (Char.ofNat first, rest)

def readEscape : Reader Char
  | '"' :: rest => .ok ('"', rest)
  | '\\' :: rest => .ok ('\\', rest)
  | '/' :: rest => .ok ('/', rest)
  | 'b' :: rest => .ok ('\x08', rest)
  | 'f' :: rest => .ok ('\x0c', rest)
  | 'n' :: rest => .ok ('\n', rest)
  | 'r' :: rest => .ok ('\r', rest)
  | 't' :: rest => .ok ('\t', rest)
  | 'u' :: rest => readUnicode rest
  | [] => refuse .unexpectedEnd []
  | rest => refuse .badEscape rest

def readQuoted : Nat → Reader (List Char)
  | 0, rest => refuse .unexpectedEnd rest
  | _ + 1, [] => refuse .unexpectedEnd []
  | _ + 1, '"' :: rest => .ok ([], rest)
  | fuel + 1, '\\' :: rest => do
      let (c, rest) ← readEscape rest
      let (cs, rest) ← readQuoted fuel rest
      .ok (c :: cs, rest)
  | fuel + 1, c :: rest =>
      if c.toNat < 0x20 then
        refuse .controlCharacter (c :: rest)
      else do
        let (cs, rest) ← readQuoted fuel rest
        .ok (c :: cs, rest)

def readString (cs : List Char) : Except SyntaxError (String × List Char) := do
  let (text, rest) ← readQuoted cs.length cs
  .ok (String.ofList text, rest)

def isInteger64 (value : Int) : Bool :=
  Int64.minValue.toInt ≤ value && value < UInt64.size

/-- The value of digits that come after `value`, and those that 64 bits have no room for. -/
def takeDigits (value : Nat) : List Char → Nat × List Char
  | [] => (value, [])
  | digit :: digits =>
      let longer := 10 * value + (digit.toNat - 48)
      if longer < UInt64.size then takeDigits longer digits else (value, digit :: digits)

def maxPower : Nat := 308

def powerOfTen (n : Nat) : Binary64 :=
  .ofDecimal false ⟨1, n⟩

def lowered (number : Binary64) (places : Nat) : Binary64 :=
  if places ≤ maxPower then number.div (powerOfTen places)
  else if number = .zero then number
  else lowered (number.div (powerOfTen maxPower)) (places - maxPower)
termination_by places
decreasing_by
  unfold maxPower at *
  omega

def scaled (number : Binary64) (exponent : Int) : Binary64 :=
  if exponent < 0 then lowered number exponent.natAbs
  else if number = .zero then number
  else if exponent ≤ maxPower then number.mul (powerOfTen exponent.toNat)
  else .infinite false

/-- A double is made of the digits that 64 bits have room for, and rounded at every step: it need
not be the one that is nearest to the number in the text. -/
def doubleOf (negative : Bool) (whole fraction : List Char) (exponent : Int) (rest : List Char) :
    Except SyntaxError (Json × List Char) :=
  let (value, dropped) := takeDigits 0 whole
  let (significand, left) := takeDigits value fraction
  let places : Int := fraction.length - left.length
  match scaled (.ofInt significand) (exponent + dropped.length - places) with
  | .finite _ magnitude => .ok (.double (.finite negative magnitude), rest)
  | _ => refuse .numberOutOfRange rest

def readExponent : Reader Int
  | '-' :: rest => unsigned rest fun value => -value
  | '+' :: rest => unsigned rest id
  | rest => unsigned rest id
where
  unsigned (rest : List Char) (sign : Int → Int) : Except SyntaxError (Int × List Char) :=
    let digits := rest.takeWhile Char.isDigit
    if digits.isEmpty then refuse .badNumber rest
    else .ok (sign (digitsValue digits), rest.dropWhile Char.isDigit)

def finishDouble (negative : Bool) (whole fraction : List Char) : Reader Json
  | 'e' :: rest => do
      let (exponent, rest) ← readExponent rest
      doubleOf negative whole fraction exponent rest
  | 'E' :: rest => do
      let (exponent, rest) ← readExponent rest
      doubleOf negative whole fraction exponent rest
  | rest => doubleOf negative whole fraction 0 rest

/-- A number whose sign has been read.  Without a point and an exponent it is an integer, unless it
is `-0` or too large. -/
def readNumber (negative : Bool) (cs : List Char) : Except SyntaxError (Json × List Char) :=
  let whole := cs.takeWhile Char.isDigit
  let rest := cs.dropWhile Char.isDigit
  if whole.isEmpty || (whole.length ≠ 1 && whole.head? == some '0') then
    refuse .badNumber cs
  else
    match rest with
    | '.' :: rest =>
        let fraction := rest.takeWhile Char.isDigit
        if fraction.isEmpty then refuse .badNumber rest
        else finishDouble negative whole fraction (rest.dropWhile Char.isDigit)
    | 'e' :: _ => finishDouble negative whole [] rest
    | 'E' :: _ => finishDouble negative whole [] rest
    | rest =>
        let value : Int := if negative then -digitsValue whole else digitsValue whole
        if isInteger64 value && !(negative && value == 0) then .ok (.integer value, rest)
        else finishDouble negative whole [] rest

def readSeparated (closing : Char) (item : Reader α) : Nat → Reader (List α)
  | 0, rest => refuse .unexpectedEnd rest
  | fuel + 1, rest => do
      let (first, rest) ← item rest
      match skipSpace rest with
      | [] => refuse .unexpectedEnd []
      | c :: rest =>
          if c = ',' then do
            let (items, rest) ← readSeparated closing item fuel rest
            .ok (first :: items, rest)
          else if c = closing then .ok ([first], rest)
          else refuse .expectedCommaOrEnd (c :: rest)

def readContainer (closing : Char) (item : Reader α) (cs : List Char) :
    Except SyntaxError (List α × List Char) :=
  match skipSpace cs with
  | [] => refuse .unexpectedEnd []
  | c :: rest =>
      if c = closing then .ok ([], rest)
      else readSeparated closing item (rest.length + 1) (c :: rest)

def openKey (cs : List Char) : Except SyntaxError (List Char) :=
  match skipSpace cs with
  | '"' :: rest => .ok rest
  | [] => refuse .unexpectedEnd []
  | rest => refuse .expectedKey rest

def readColon (cs : List Char) : Except SyntaxError (List Char) :=
  match skipSpace cs with
  | ':' :: rest => .ok rest
  | [] => refuse .unexpectedEnd []
  | rest => refuse .expectedColon rest

def readKey (cs : List Char) : Except SyntaxError (String × List Char) := do
  let rest ← openKey cs
  let (key, rest) ← readString rest
  let rest ← readColon rest
  .ok (key, rest)

def readEntry (value : Reader Json) (cs : List Char) :
    Except SyntaxError ((String × Json) × List Char) := do
  let (key, rest) ← readKey cs
  let (value, rest) ← value rest
  .ok ((key, value), rest)

def readArray (value : Reader Json) (cs : List Char) : Except SyntaxError (Json × List Char) := do
  let (items, rest) ← readContainer ']' value cs
  .ok (.array items, rest)

def readEntries (value : Reader Json) (cs : List Char) :
    Except SyntaxError (List (String × Json) × List Char) :=
  readContainer '\x7d' (readEntry value) cs

def readObject (value : Reader Json) (cs : List Char) : Except SyntaxError (Json × List Char) := do
  let (entries, rest) ← readEntries value cs
  .ok (.object entries, rest)

def readScalar : Reader Json
  | 'n' :: 'u' :: 'l' :: 'l' :: rest => .ok (.null, rest)
  | 't' :: 'r' :: 'u' :: 'e' :: rest => .ok (.bool true, rest)
  | 'f' :: 'a' :: 'l' :: 's' :: 'e' :: rest => .ok (.bool false, rest)
  | '"' :: rest => do
      let (text, rest) ← readString rest
      .ok (.string text, rest)
  | '-' :: rest => readNumber true rest
  | [] => refuse .unexpectedEnd []
  | c :: rest =>
      if c.isDigit then readNumber false (c :: rest) else refuse .expectedValue (c :: rest)

/-- A value with at most `levels` arrays and objects inside each other. -/
def readValue : Nat → Reader Json
  | 0, cs =>
      match skipSpace cs with
      | '[' :: rest => refuse .tooDeep rest
      | '\x7b' :: rest => refuse .tooDeep rest
      | rest => readScalar rest
  | levels + 1, cs =>
      match skipSpace cs with
      | '[' :: rest => readArray (readValue levels) rest
      | '\x7b' :: rest => readObject (readValue levels) rest
      | rest => readScalar rest

def maxLevels : Nat := 127

def readDocument (text : List Char) : Except SyntaxError Json := do
  let (value, rest) ← readValue maxLevels text
  match skipSpace rest with
  | [] => .ok value
  | rest => refuse .trailingCharacters rest

/-- The value of a text, with each key of an object once. -/
def readText (text : List Char) : Except SyntaxError Json :=
  return (← readDocument text).collapse

def read (text : String) : Except SyntaxError Json :=
  readText text.toList

end Phrasebook.Json
