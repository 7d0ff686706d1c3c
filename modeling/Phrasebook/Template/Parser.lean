import Phrasebook.Template.Basic
import Phrasebook.Template.Fault
import Phrasebook.Text.Basic

namespace Phrasebook.Template

/-! Reading templates.

Every function takes the characters that are left and gives back those that it has not used;
`length` is the length of the whole template, from which offsets are told.  Arguments stand inside
at most 31 options, which is what the recursion runs on.
-/

inductive Context where
  | top
  | pluralOption
  | selectOption
deriving DecidableEq

abbrev Parser (α : Type) := List Char → Except TemplateFault (α × List Char)

/-- The levels of arguments inside each other. -/
def maxLevels : Nat := 32

def isNameChar (c : Char) : Bool :=
  !Text.isBlank c && c != '\x7b' && c != '\x7d' && c != ',' && c != '#' && c != '\''

def nameOf (cs : List Char) : String :=
  String.ofList (cs.takeWhile isNameChar)

def afterName (cs : List Char) : List Char :=
  cs.dropWhile isNameChar

def expect (length : Nat) (wanted : Char) : List Char → Except TemplateFault (List Char)
  | [] => .error (.expectedAtEnd wanted)
  | c :: rest =>
      if c = wanted then .ok rest
      else .error (.expected wanted (length - (rest.length + 1)) c)

/-- The literal text up to the next lone apostrophe or the end; a doubled apostrophe is one. -/
def quotedText : List Char → List Char × List Char
  | [] => ([], [])
  | '\'' :: '\'' :: rest =>
      let (text, rest) := quotedText rest
      ('\'' :: text, rest)
  | '\'' :: rest => ([], rest)
  | c :: rest =>
      let (text, rest) := quotedText rest
      (c :: text, rest)

def opensQuote (context : Context) (c : Char) : Bool :=
  c == '\x7b' || c == '\x7d' || (c == '#' && context == .pluralOption)

/-- The text that an apostrophe stands for, given what follows it: one apostrophe, unless it opens
a quoted text. -/
def apostropheText (context : Context) : List Char → List Char × List Char
  | [] => (['\''], [])
  | c :: rest =>
      if c = '\'' then (['\''], rest)
      else if opensQuote context c then quotedText (c :: rest)
      else (['\''], c :: rest)

/-- The node of the text that was read, last character first, before other nodes. -/
def flush (pending : List Char) (nodes : List Node) : List Node :=
  match pending with
  | [] => nodes
  | _ => .text (String.ofList pending.reverse) :: nodes

/-- The nodes up to the end, or up to a closing brace that belongs to an argument around them.
`pending` is the text read since the last node, last character first. -/
def readNodes (length : Nat) (argument : Parser Node) (context : Context) :
    Nat → List Char → Parser (List Node)
  | 0, pending, cs => .ok (flush pending [], cs)
  | _ + 1, pending, [] => .ok (flush pending [], [])
  | fuel + 1, pending, c :: cs =>
      if c = '\x7b' then do
        let (node, rest) ← argument cs
        let (nodes, rest) ← readNodes length argument context fuel [] rest
        .ok (flush pending (node :: nodes), rest)
      else if c = '\x7d' then
        if context = .top then .error (.unmatchedBrace (length - (cs.length + 1)))
        else .ok (flush pending [], c :: cs)
      else if c = '#' ∧ context = .pluralOption then do
        let (nodes, rest) ← readNodes length argument context fuel [] cs
        .ok (flush pending (.pound :: nodes), rest)
      else if c = '\'' then
        let (text, rest) := apostropheText context cs
        readNodes length argument context fuel (text.reverse ++ pending) rest
      else
        readNodes length argument context fuel (c :: pending) cs

def readMessage (length : Nat) (argument : Parser Node) (context : Context) :
    Parser (List Node) :=
  fun cs => readNodes length argument context cs.length [] cs

/-- What stands after the style of an argument: its closing brace, which `nested` braces opened
within the style do not hide. -/
def skipStyle : Nat → List Char → Except TemplateFault (List Char)
  | _, [] => .error .unterminatedStyle
  | nested, c :: rest =>
      if c = '\x7b' then skipStyle (nested + 1) rest
      else if c = '\x7d' then
        match nested with
        | 0 => .ok (c :: rest)
        | nested + 1 => skipStyle nested rest
      else skipStyle nested rest

def offsetMark : List Char := "offset:".toList

/-- The offset of a plural argument, zero if none is announced. -/
def readOffset : Parser Binary64 := fun cs =>
  let cs := Text.dropBlanks cs
  if cs.take offsetMark.length = offsetMark then
    let cs := Text.dropBlanks (cs.drop offsetMark.length)
    let token := nameOf cs
    match Binary64.read? token.toList with
    | some offset => .ok (offset, afterName cs)
    | none => .error (.invalidOffset token)
  else
    .ok (.zero, cs)

def pluralSelector (token : String) : Except TemplateFault Selector :=
  match token.toList with
  | [] => .error .missingSelector
  | '=' :: number =>
      match Binary64.read? number with
      | some number => .ok (.exact number)
      | none => .error (.invalidExact token)
  | _ =>
      match PluralCategory.ofKeyword? token with
      | some category => .ok (.category category)
      | none => .error (.unknownCategory token)

/-- The selector of a select option: any word, but no exact match. -/
def selectSelector (token : String) : Except TemplateFault String :=
  match token.toList with
  | [] => .error .missingSelector
  | '=' :: _ => .error (.exactInSelect token)
  | _ => .ok token

structure OptionStyle (κ : Type) where
  selector : String → Except TemplateFault κ
  same : κ → κ → Bool
  isOther : κ → Bool

def pluralStyle : OptionStyle Selector :=
  ⟨pluralSelector, Selector.same, (· == .category .other)⟩

def selectStyle : OptionStyle String :=
  ⟨selectSelector, (· == ·), (· == "other")⟩

/-- The options up to and with the closing brace of their argument.  `taken` are the selectors of
the options before them. -/
def readOptions {κ : Type} (length : Nat) (style : OptionStyle κ) (body : Parser (List Node)) :
    Nat → List κ → Parser (List (κ × List Node))
  | 0, _, _ => .error .unterminatedOptions
  | fuel + 1, taken, cs =>
      match Text.dropBlanks cs with
      | [] => .error .unterminatedOptions
      | '\x7d' :: rest => .ok ([], rest)
      | start => do
          let token := nameOf start
          let selector ← style.selector token
          if taken.any (style.same · selector) then
            .error (.duplicateOption token)
          else
            let rest ← expect length '\x7b' (Text.dropBlanks (afterName start))
            let (nodes, rest) ← body rest
            let rest ← expect length '\x7d' rest
            let (options, rest) ←
              readOptions length style body fuel (taken ++ [selector]) rest
            .ok ((selector, nodes) :: options, rest)

/-- All options of an argument, among which there must be the one for all other cases. -/
def readAllOptions {κ : Type} (length : Nat) (style : OptionStyle κ)
    (body : Parser (List Node)) : Parser (List (κ × List Node)) := fun cs => do
  let (options, rest) ← readOptions length style body (cs.length + 1) [] cs
  if options.any (style.isOther ·.1) then .ok (options, rest) else .error .missingOther

def readPlural (length : Nat) (body : Parser (List Node)) (name : String) (kind : PluralKind) :
    Parser Node := fun cs => do
  let rest ← expect length ',' cs
  let (offset, rest) ← readOffset rest
  let (options, rest) ← readAllOptions length pluralStyle body rest
  .ok (.plural name kind offset options, rest)

def readSelect (length : Nat) (body : Parser (List Node)) (name : String) : Parser Node :=
  fun cs => do
    let rest ← expect length ',' cs
    let (options, rest) ← readAllOptions length selectStyle body rest
    .ok (.select name options, rest)

def readStyled (length : Nat) (node : Node) : Parser Node := fun cs => do
  let rest ←
    match cs with
    | ',' :: rest => skipStyle 0 rest
    | rest => .ok rest
  let rest ← expect length '\x7d' (Text.dropBlanks rest)
  .ok (node, rest)

def readKind (length : Nat) (body : Context → Parser (List Node)) (name : String) :
    Parser Node := fun cs =>
  let start := Text.dropBlanks cs
  let kind := nameOf start
  let rest := Text.dropBlanks (afterName start)
  if kind = "number" then readStyled length (.number name) rest
  else if kind = "date" ∨ kind = "time" then readStyled length (.argument name) rest
  else if kind = "plural" then readPlural length (body .pluralOption) name .cardinal rest
  else if kind = "selectordinal" then readPlural length (body .pluralOption) name .ordinal rest
  else if kind = "select" then readSelect length (body .selectOption) name rest
  else if kind = "" then .error (.missingKind name)
  else .error (.unknownKind kind)

/-- An argument whose opening brace has been read, with at most `levels` arguments inside each
other. -/
def readArgument (length : Nat) : Nat → Parser Node
  | 0, _ => .error .nestedTooDeeply
  | levels + 1, cs =>
      let start := Text.dropBlanks cs
      let name := nameOf start
      if name = "" then
        .error (.emptyName (length - (afterName start).length))
      else
        match Text.dropBlanks (afterName start) with
        | '\x7d' :: rest => .ok (.argument name, rest)
        | ',' :: rest =>
            readKind length (readMessage length (readArgument length levels)) name rest
        | _ => .error (.malformedArgument name)

def parse (template : String) : Except TemplateFault (List Node) := do
  let length := template.toList.length
  let (nodes, _) ←
    readMessage length (readArgument length maxLevels) .top template.toList
  return nodes

end Phrasebook.Template
