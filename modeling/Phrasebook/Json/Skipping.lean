import Phrasebook.Json.Reader

namespace Phrasebook.Json

/-! Passing over a JSON value that is not needed.

Only its form is looked at: numbers may have any size, escapes may name lone surrogates, and there
may be any number of levels.
-/

def skipEscape : Reader Unit
  | 'u' :: rest => do
      let (_, rest) ← readHex rest
      .ok ((), rest)
  | rest => do
      let (_, rest) ← readEscape rest
      .ok ((), rest)

def skipQuoted : Nat → Reader Unit
  | 0, rest => refuse .unexpectedEnd rest
  | _ + 1, [] => refuse .unexpectedEnd []
  | _ + 1, '"' :: rest => .ok ((), rest)
  | fuel + 1, '\\' :: rest => do
      let (_, rest) ← skipEscape rest
      skipQuoted fuel rest
  | fuel + 1, c :: rest =>
      if c.toNat < 0x20 then refuse .controlCharacter (c :: rest) else skipQuoted fuel rest

def skipDigits (cs : List Char) : Except SyntaxError (Unit × List Char) :=
  let rest := cs.dropWhile Char.isDigit
  if rest.length = cs.length then refuse .badNumber cs else .ok ((), rest)

def skipExponent : Reader Unit
  | c :: rest =>
      if c = 'e' || c = 'E' then
        match rest with
        | '+' :: rest => skipDigits rest
        | '-' :: rest => skipDigits rest
        | rest => skipDigits rest
      else
        .ok ((), c :: rest)
  | [] => .ok ((), [])

def skipNumber (cs : List Char) : Except SyntaxError (Unit × List Char) := do
  let (_, rest) ← skipDigits cs
  if cs.head? == some '0' && rest.length + 1 ≠ cs.length then
    refuse .badNumber cs
  else
    match rest with
    | '.' :: rest => do
        let (_, rest) ← skipDigits rest
        skipExponent rest
    | rest => skipExponent rest

def skipScalar : Reader Unit
  | 'n' :: 'u' :: 'l' :: 'l' :: rest => .ok ((), rest)
  | 't' :: 'r' :: 'u' :: 'e' :: rest => .ok ((), rest)
  | 'f' :: 'a' :: 'l' :: 's' :: 'e' :: rest => .ok ((), rest)
  | '"' :: rest => skipQuoted rest.length rest
  | '-' :: rest => skipNumber rest
  | [] => refuse .unexpectedEnd []
  | c :: rest => if c.isDigit then skipNumber (c :: rest) else refuse .expectedValue (c :: rest)

def skipEntry (value : Reader Unit) (cs : List Char) : Except SyntaxError (Unit × List Char) := do
  let rest ← openKey cs
  let (_, rest) ← skipQuoted rest.length rest
  let rest ← readColon rest
  value rest

def skipContainer (closing : Char) (item : Reader Unit) (cs : List Char) :
    Except SyntaxError (Unit × List Char) := do
  let (_, rest) ← readContainer closing item cs
  .ok ((), rest)

/-- Pass over a value with at most `levels` containers inside each other. -/
def skipValue : Nat → Reader Unit
  | 0, cs => skipScalar (skipSpace cs)
  | levels + 1, cs =>
      match skipSpace cs with
      | '[' :: rest => skipContainer ']' (skipValue levels) rest
      | '\x7b' :: rest => skipContainer '\x7d' (skipEntry (skipValue levels)) rest
      | rest => skipScalar rest

end Phrasebook.Json
