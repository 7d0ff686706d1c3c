import Phrasebook.Text.Basic
import Phrasebook.Toml.Scalar

namespace Phrasebook.Toml

/-- The levels of values inside each other, and the segments of a key. -/
def maxLevels : Nat := 79

def skipFiller : Bool → List Char → List Char
  | _, '\r' :: '\n' :: rest => skipFiller false rest
  | inComment, c :: rest =>
      if c = '\n' then skipFiller false rest
      else if inComment && isPlain c then skipFiller true rest
      else if isSpace c then skipFiller false rest
      else if c = '#' then skipFiller true rest
      else c :: rest
  | _, [] => []

def isBareChar (c : Char) : Bool :=
  c.isAlphanum || c = '_' || c = '-'

def readSegment (cs : List Char) : Option (String × List Char) :=
  match cs.takeWhile isBareChar with
  | [] => readShortString cs
  | bare => some (String.ofList bare, cs.dropWhile isBareChar)

def readKey : Nat → Reader (List String)
  | 0, _ => none
  | fuel + 1, cs => do
      let (segment, rest) ← readSegment (skipSpace cs)
      match skipSpace rest with
      | '.' :: rest => do
          let (path, rest) ← readKey fuel rest
          some (segment :: path, rest)
      | rest => some ([segment], rest)

def splitKey (key : List String) : List String × String :=
  (key.dropLast, key.getLast?.getD "")

def readEntry (value : Reader Toml) (cs : List Char) : Option ((List String × Toml) × List Char) :=
    do
  let (key, rest) ← readKey maxLevels cs
  let rest ← expect '=' rest
  let (value, rest) ← value (skipSpace rest)
  some ((key, value), rest)

def readItems (value : Reader Toml) : Nat → Reader (List Toml)
  | 0, _ => none
  | fuel + 1, cs =>
      match skipFiller false cs with
      | ']' :: rest => some ([], rest)
      | cs => do
          let (item, rest) ← value cs
          match skipFiller false rest with
          | ',' :: rest => do
              let (items, rest) ← readItems value fuel rest
              some (item :: items, rest)
          | ']' :: rest => some ([item], rest)
          | _ => none

def readEntries (value : Reader Toml) : Nat → Entries → Reader Entries
  | 0, _, _ => none
  | fuel + 1, entries, cs => do
      let ((key, item), rest) ← readEntry value cs
      let (path, last) := splitKey key
      let entries ← addValue path last item .header entries
      match skipSpace rest with
      | ',' :: rest => readEntries value fuel entries rest
      | '\x7d' :: rest => some (entries, rest)
      | _ => none

def readInlineTable (value : Reader Toml) (cs : List Char) : Option (Toml × List Char) :=
  match skipSpace cs with
  | '\x7d' :: rest => some (.table .closed [], rest)
  | cs => do
      let (entries, rest) ← readEntries value cs.length [] cs
      some (.table .closed entries, rest)

def readScalar : Reader Toml
  | 't' :: 'r' :: 'u' :: 'e' :: rest => some (.boolean true, rest)
  | 'f' :: 'a' :: 'l' :: 's' :: 'e' :: rest => some (.boolean false, rest)
  | c :: rest =>
      if c = '"' || c = '\'' then do
        let (text, rest) ← readString (c :: rest)
        some (.string text, rest)
      else
        readNumeral (c :: rest)
  | [] => none

/-- A value with at most `levels` arrays and inline tables inside each other. -/
def readValue : Nat → Reader Toml
  | 0, cs => readScalar cs
  | levels + 1, cs =>
      match cs with
      | '[' :: rest => do
          let (items, rest) ← readItems (readValue levels) (rest.length + 1) rest
          some (.array false items, rest)
      | '\x7b' :: rest => readInlineTable (readValue levels) rest
      | cs => readScalar cs

inductive Statement where
  | header (key : List String)
  | arrayHeader (key : List String)
  | entry (key : List String) (value : Toml)

def readStatement : Reader Statement
  | '[' :: '[' :: rest => do
      let (key, rest) ← readKey maxLevels rest
      let rest ← expect ']' rest
      let rest ← expect ']' rest
      some (.arrayHeader key, rest)
  | '[' :: rest => do
      let (key, rest) ← readKey maxLevels rest
      let rest ← expect ']' rest
      some (.header key, rest)
  | cs => do
      let ((key, value), rest) ← readEntry (readValue maxLevels) cs
      some (.entry key value, rest)

def skipComment : List Char → List Char
  | '#' :: rest => rest.dropWhile isPlain
  | rest => rest

def endLine (cs : List Char) : Option (List Char) :=
  match skipComment (skipSpace cs) with
  | [] => some []
  | rest => newline? rest

/-- The document so far, and the key of the header that entries stand under. -/
structure Draft where
  entries : Entries
  current : List String

namespace Draft

def add (draft : Draft) : Statement → Option Draft
  | .header key => do
      let (path, last) := splitKey key
      let entries ← descend false (fun _ => openTable last) path .header draft.entries
      some ⟨entries, key⟩
  | .arrayHeader key => do
      let (path, last) := splitKey key
      let entries ← descend false (fun _ => openItem last) path .header draft.entries
      some ⟨entries, key⟩
  | .entry key value => do
      let (path, last) := splitKey key
      let entries ←
        descend false (addValue path last value) draft.current .header draft.entries
      some { draft with entries }

end Draft

/-- A document that cannot be read, and the line of the first statement that is wrong. -/
structure SyntaxError where
  line : Nat

def SyntaxError.message (error : SyntaxError) : String :=
  s!"TOML parse error at line {error.line}"

def lineOf (text rest : List Char) : Nat :=
  (text.take (text.length - rest.length)).count '\n' + 1

def readLineOf (draft : Draft) (cs : List Char) : Option (Draft × List Char) :=
  match endLine cs with
  | some rest => some (draft, rest)
  | none => do
      let (statement, rest) ← readStatement (skipSpace cs)
      let draft ← draft.add statement
      let rest ← endLine rest
      some (draft, rest)

def readDraft (text : List Char) : Nat → Draft → List Char → Except SyntaxError Draft
  | _, draft, [] => .ok draft
  | 0, _, rest => .error ⟨lineOf text rest⟩
  | fuel + 1, draft, cs =>
      match readLineOf draft cs with
      | some (draft, rest) => readDraft text fuel draft rest
      | none => .error ⟨lineOf text cs⟩

def read (text : String) : Except SyntaxError Entries := do
  let cs := Text.dropEncodingMark text.toList
  return (← readDraft cs cs.length ⟨[], []⟩ cs).entries

end Phrasebook.Toml
