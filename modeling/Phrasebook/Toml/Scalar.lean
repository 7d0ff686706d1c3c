import Phrasebook.Number.Decimal
import Phrasebook.Text.Basic
import Phrasebook.Toml.Basic

namespace Phrasebook.Toml

abbrev Reader (α : Type) := List Char → Option (α × List Char)

def isSpace (c : Char) : Bool :=
  c = ' ' || c = '\t'

def skipSpace (cs : List Char) : List Char :=
  cs.dropWhile isSpace

/-- A character that may stand in comments and strings; no control character but a tab. -/
def isPlain (c : Char) : Bool :=
  c = '\t' || (0x20 ≤ c.toNat && c.toNat ≠ 0x7F)

def newline? : List Char → Option (List Char)
  | '\n' :: rest => some rest
  | '\r' :: '\n' :: rest => some rest
  | _ => none

def skipBlankLines : List Char → List Char
  | '\r' :: '\n' :: rest => skipBlankLines rest
  | c :: rest => if isSpace c || c = '\n' then skipBlankLines rest else c :: rest
  | [] => []

def readCharacter (count : Nat) (cs : List Char) : Option (Char × List Char) := do
  let digits := cs.take count
  let value ← Text.digitsIn? 16 digits
  if digits.length = count ∧ value.isValidChar then some (Char.ofNat value, cs.drop count)
  else none

def readEscape : Reader Char
  | 'b' :: rest => some ('\x08', rest)
  | 't' :: rest => some ('\t', rest)
  | 'n' :: rest => some ('\n', rest)
  | 'f' :: rest => some ('\x0c', rest)
  | 'r' :: rest => some ('\r', rest)
  | '"' :: rest => some ('"', rest)
  | '\\' :: rest => some ('\\', rest)
  | 'u' :: rest => readCharacter 4 rest
  | 'U' :: rest => readCharacter 8 rest
  | _ => none

def readLine (quote : Char) (escapes : Bool) : Nat → Reader (List Char)
  | fuel + 1, c :: rest =>
      if c = quote then
        some ([], rest)
      else if c = '\\' && escapes then do
        let (c, rest) ← readEscape rest
        let (cs, rest) ← readLine quote escapes fuel rest
        some (c :: cs, rest)
      else if isPlain c then do
        let (cs, rest) ← readLine quote escapes fuel rest
        some (c :: cs, rest)
      else
        none
  | _, _ => none

/-- The characters up to three closing quotes.  One or two quotes stand for themselves, also right
before the closing ones.  A backslash at the end of a line takes away all blanks that follow. -/
def readLines (quote : Char) (escapes : Bool) : Nat → Reader (List Char)
  | fuel + 1, c :: rest =>
      let quotes := (c :: rest).takeWhile (· = quote)
      if 3 ≤ quotes.length then
        let own := min (quotes.length - 3) 2
        some (quotes.take own, (c :: rest).drop (own + 3))
      else if c = quote then
        andThen c fuel rest
      else if c = '\\' && escapes then
        match newline? (skipSpace rest) with
        | some rest => readLines quote escapes fuel (skipBlankLines rest)
        | none => do
            let (c, rest) ← readEscape rest
            andThen c fuel rest
      else
        match newline? (c :: rest) with
        | some rest => andThen '\n' fuel rest
        | none => if isPlain c then andThen c fuel rest else none
  | _, _ => none
where
  andThen (c : Char) (fuel : Nat) (rest : List Char) : Option (List Char × List Char) := do
    let (cs, rest) ← readLines quote escapes fuel rest
    some (c :: cs, rest)

def dropNewline (cs : List Char) : List Char :=
  (newline? cs).getD cs

def readShortString : Reader String
  | '"' :: rest => asString (readLine '"' true rest.length rest)
  | '\'' :: rest => asString (readLine '\'' false rest.length rest)
  | _ => none
where
  asString (result : Option (List Char × List Char)) : Option (String × List Char) :=
    result.map fun (cs, rest) => (String.ofList cs, rest)

def readString : Reader String
  | '"' :: '"' :: '"' :: rest =>
      readShortString.asString (readLines '"' true rest.length (dropNewline rest))
  | '\'' :: '\'' :: '\'' :: rest =>
      readShortString.asString (readLines '\'' false rest.length (dropNewline rest))
  | cs => readShortString cs

/-- More digits.  An underscore has to stand between two of them. -/
def moreDigits (isDigit : Char → Bool) : Reader (List Char)
  | '_' :: c :: rest =>
      if isDigit c then do
        let (digits, rest) ← moreDigits isDigit rest
        some (c :: digits, rest)
      else
        none
  | c :: rest =>
      if isDigit c then do
        let (digits, rest) ← moreDigits isDigit rest
        some (c :: digits, rest)
      else if c = '_' then none
      else some ([], c :: rest)
  | [] => some ([], [])

def readDigits (isDigit : Char → Bool) : Reader (List Char)
  | c :: rest =>
      if isDigit c then do
        let (digits, rest) ← moreDigits isDigit rest
        some (c :: digits, rest)
      else
        none
  | [] => none

/-- A row of decimal digits without needless zeros in front. -/
def readWhole : Reader (List Char)
  | '0' :: rest => some (['0'], rest)
  | cs => readDigits Char.isDigit cs

def readSign : List Char → Bool × List Char
  | '-' :: rest => (true, rest)
  | '+' :: rest => (false, rest)
  | rest => (false, rest)

def ofInteger (value : Int) (rest : List Char) : Option (Toml × List Char) :=
  if Int64.minValue.toInt ≤ value ∧ value ≤ Int64.maxValue.toInt then some (.integer value, rest)
  else none

def readBased (base : Nat) (cs : List Char) : Option (Toml × List Char) := do
  let (digits, rest) ← readDigits (fun c => (Text.digitIn? base c).isSome) cs
  ofInteger ((Text.digitsIn? base digits).getD 0) rest

def readFraction : Reader (List Char)
  | '.' :: rest => readDigits Char.isDigit rest
  | rest => some ([], rest)

def readExponent : Reader Int
  | c :: rest =>
      if c = 'e' || c = 'E' then do
        let (negative, rest) := readSign rest
        let (digits, rest) ← readDigits Char.isDigit rest
        let value : Int := digitsValue digits
        some (if negative then -value else value, rest)
      else
        some (0, c :: rest)
  | [] => some (0, [])

/-- A number that is too large counts as malformed, but only above zero. -/
def ofFloat (value : Binary64) (rest : List Char) : Option (Toml × List Char) :=
  match value with
  | .infinite false => none
  | value => some (.float value, rest)

def readDecimal (cs : List Char) : Option (Toml × List Char) := do
  let (negative, cs) := readSign cs
  let (whole, afterWhole) ← readWhole cs
  let (fraction, rest) ← readFraction afterWhole
  let (exponent, rest) ← readExponent rest
  if rest.length = afterWhole.length then
    let value : Int := digitsValue whole
    ofInteger (if negative then -value else value) rest
  else
    ofFloat (.ofDecimal negative (.ofParts whole fraction exponent)) rest

def readNumber (cs : List Char) : Option (Toml × List Char) :=
  let (negative, unsigned) := readSign cs
  match unsigned with
  | 'i' :: 'n' :: 'f' :: rest => some (.float (.infinite negative), rest)
  | 'n' :: 'a' :: 'n' :: rest => some (.float .nan, rest)
  | _ =>
      match cs with
      | '0' :: 'x' :: rest => readBased 16 rest
      | '0' :: 'o' :: rest => readBased 8 rest
      | '0' :: 'b' :: rest => readBased 2 rest
      | cs => readDecimal cs

def readPair (low high : Nat) : Reader Nat
  | a :: b :: rest =>
      let value := digitsValue [a, b]
      if a.isDigit && b.isDigit && low ≤ value && value ≤ high then some (value, rest) else none
  | _ => none

def expect (wanted : Char) : List Char → Option (List Char)
  | c :: rest => if c = wanted then some rest else none
  | [] => none

def isLeapYear (year : Nat) : Bool :=
  year % 4 = 0 && (year % 100 ≠ 0 || year % 400 = 0)

def daysIn (year month : Nat) : Nat :=
  if month = 2 then (if isLeapYear year then 29 else 28)
  else if month ∈ [4, 6, 9, 11] then 30
  else 31

def readDate (year : Nat) : Reader Date := fun cs => do
  let (month, rest) ← readPair 1 12 cs
  let rest ← expect '-' rest
  let (day, rest) ← readPair 1 (daysIn year month) rest
  some (⟨year, month, day⟩, rest)

/-- The nanoseconds after a point, if there is one.  Digits after the ninth do not count. -/
def readSecondFraction : Reader Nat
  | '.' :: rest =>
      let digits := rest.takeWhile Char.isDigit
      let counted := digits.take 9
      if digits.isEmpty then none
      else
        some (digitsValue counted * Nat.pow 10 (9 - counted.length), rest.dropWhile Char.isDigit)
  | rest => some (0, rest)

def readHour : Reader Nat := fun cs => do
  let (hour, rest) ← readPair 0 23 cs
  return (hour, ← expect ':' rest)

def readTime (hour : Nat) : Reader TimeOfDay := fun cs => do
  let (minute, rest) ← readPair 0 59 cs
  let rest ← expect ':' rest
  let (second, rest) ← readPair 0 60 rest
  let (nanosecond, rest) ← readSecondFraction rest
  some (⟨hour, minute, second, nanosecond⟩, rest)

def readOffset : Reader (Option TimeOffset)
  | c :: rest =>
      if c = 'Z' || c = 'z' then
        some (some .zero, rest)
      else if c = '+' || c = '-' then do
        let (hour, rest) ← readHour rest
        let (minute, rest) ← readPair 0 59 rest
        some (some (.minutes (c = '-') (hour * 60 + minute)), rest)
      else
        some (none, c :: rest)
  | [] => some (none, [])

def readMoment (date : Date) : Reader DateTime
  | c :: rest =>
      match if c = 'T' || c = 't' || c = ' ' then readHour rest else none with
      | some (hour, rest) => do
          let (time, rest) ← readTime hour rest
          let (offset, rest) ← readOffset rest
          some (.moment date time offset, rest)
      | none => some (.day date, c :: rest)
  | [] => some (.day date, [])

def readDateTime? (cs : List Char) : Option (Option (DateTime × List Char)) :=
  let year := cs.take 4
  if year.length = 4 && year.all Char.isDigit && (cs.drop 4).head? = some '-' then
    some (do
      let (date, rest) ← readDate (digitsValue year) (cs.drop 5)
      readMoment date rest)
  else
    (readHour cs).map fun (hour, rest) => do
      let (time, rest) ← readTime hour rest
      some (.clock time, rest)

def readNumeral (cs : List Char) : Option (Toml × List Char) :=
  match readDateTime? cs with
  | some found => found.map fun (value, rest) => (.dateTime value, rest)
  | none => readNumber cs

end Phrasebook.Toml
