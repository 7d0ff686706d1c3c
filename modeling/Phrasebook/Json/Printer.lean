import Phrasebook.Json.Basic

namespace Phrasebook.Json

def hexDigit (n : Nat) : Char :=
  Nat.digitChar (n % 16)

def escaped (c : Char) : List Char :=
  if c = '"' then ['\\', '"']
  else if c = '\\' then ['\\', '\\']
  else if c = '\x08' then ['\\', 'b']
  else if c = '\x0c' then ['\\', 'f']
  else if c = '\n' then ['\\', 'n']
  else if c = '\r' then ['\\', 'r']
  else if c = '\t' then ['\\', 't']
  else if c.toNat < 0x20 then
    ['\\', 'u', '0', '0', hexDigit (c.toNat / 16), hexDigit c.toNat]
  else [c]

def quoted (text : String) : List Char :=
  '"' :: (text.toList.flatMap escaped ++ ['"'])

def integerText (value : Int) : List Char :=
  Binary64.signed (decide (value < 0)) (Nat.toDigits 10 value.natAbs)

/-- A double always shows a point or an exponent; one without a decimal text is `null`. -/
def doubleText : Binary64 → List Char
  | .finite negative magnitude =>
      Binary64.signed negative (Binary64.pointedText (magnitude.shortest .even))
  | _ => ['n', 'u', 'l', 'l']

mutual

def chars : Json → List Char
  | .null => ['n', 'u', 'l', 'l']
  | .bool true => ['t', 'r', 'u', 'e']
  | .bool false => ['f', 'a', 'l', 's', 'e']
  | .integer value => integerText value
  | .double value => doubleText value
  | .string value => quoted value
  | .array [] => ['[', ']']
  | .array (item :: items) => '[' :: (item.chars ++ itemsTail items)
  | .object [] => ['\x7b', '\x7d']
  | .object ((key, value) :: entries) =>
      '\x7b' :: (quoted key ++ ':' :: (value.chars ++ entriesTail entries))

def itemsTail : List Json → List Char
  | [] => [']']
  | item :: items => ',' :: (item.chars ++ itemsTail items)

def entriesTail : List (String × Json) → List Char
  | [] => ['\x7d']
  | (key, value) :: entries => ',' :: (quoted key ++ ':' :: (value.chars ++ entriesTail entries))

end

/-- The compact text of a value: no blanks, entries in order, and no escapes but the needed ones. -/
def render (value : Json) : String :=
  String.ofList value.chars

end Phrasebook.Json
