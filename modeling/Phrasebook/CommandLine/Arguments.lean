import Phrasebook.Json.Reader
import Phrasebook.Params

namespace Phrasebook.CommandLine

/-! The words of a command line.

Options that hold for every command may stand before the command or after it; what is given after
it wins.  Each may be given once in either place.  A word that starts with a hyphen is never the
value of the option before it, and after two hyphens all words are taken as they are.
-/

inductive OptionName where
  | config
  | locale
  | messagesDirectory
  | remote
  | logFormat
  | verbose
  | param
deriving DecidableEq

namespace OptionName

def long : OptionName → String
  | .config => "config"
  | .locale => "locale"
  | .messagesDirectory => "messages-dir"
  | .remote => "remote"
  | .logFormat => "log-format"
  | .verbose => "verbose"
  | .param => "param"

def short? : OptionName → Option Char
  | .config => some 'c'
  | .locale => some 'l'
  | .verbose => some 'v'
  | .param => some 'p'
  | _ => none

def takesValue : OptionName → Bool
  | .verbose => false
  | _ => true

def acceptsEmpty : OptionName → Bool
  | .config => false
  | .messagesDirectory => false
  | _ => true

def global : List OptionName :=
  [.config, .locale, .messagesDirectory, .remote, .logFormat, .verbose]

end OptionName

inductive Refusal where
  | misuse
  | help
  | version
deriving DecidableEq

def cutAtEquals (cs : List Char) : List Char × Option (List Char) :=
  (cs.takeWhile (· ≠ '='), (cs.dropWhile (· ≠ '=')).tail?)

/-- A parameter `name=value`.  The value is JSON if it reads as such, and else a string. -/
def readParam (text : String) : Except Refusal (String × Json) :=
  match cutAtEquals text.toList with
  | (name, some value) =>
      let text := String.ofList value
      let value :=
        match Json.read text with
        | .ok value => value
        | .error _ => .string text
      .ok (String.ofList name, value)
  | (_, none) => .error .misuse

inductive Operand where
  | text
  /-- A path cannot be empty. -/
  | path

/-- What can be said in one place, before the command or after it. -/
structure Expectation where
  options : List OptionName
  operands : List Operand
  hasVersion : Bool

/-- What was found among some words: the options with their values, the last one first, the
parameters of a template, and all other words. -/
structure Findings where
  options : List (OptionName × String)
  params : List (String × Json)
  operands : List String

namespace Findings

def empty : Findings := ⟨[], [], []⟩

def value? (findings : Findings) (name : OptionName) : Option String :=
  Keyed.get? name findings.options

/-- Note an option.  Nothing but a parameter can be given twice, and no path is empty. -/
def withOption (findings : Findings) (name : OptionName) (value : String) :
    Except Refusal Findings :=
  if name = .param then do
    let param ← readParam value
    .ok { findings with params := findings.params ++ [param] }
  else if (findings.value? name).isSome || (value.isEmpty && !name.acceptsEmpty) then
    .error .misuse
  else
    .ok { findings with options := (name, value) :: findings.options }

def withOperand (expected : Expectation) (findings : Findings) (word : String) :
    Except Refusal Findings :=
  let noted : Findings := { findings with operands := findings.operands ++ [word] }
  match expected.operands[findings.operands.length]? with
  | some .text => .ok noted
  | some .path => if word.isEmpty then .error .misuse else .ok noted
  | none => .error .misuse

end Findings

inductive Mention where
  | given (name : OptionName) (value : String)
  | awaited (name : OptionName)
  | refused (reason : Refusal)

def mentionOfLong (expected : Expectation) (cs : List Char) : Mention :=
  let (name, value) := cutAtEquals cs
  let name := String.ofList name
  match expected.options.find? (·.long = name), value with
  | some option, some value =>
      if option.takesValue then .given option (String.ofList value) else .refused .misuse
  | some option, none => if option.takesValue then .awaited option else .given option ""
  | none, some _ => .refused .misuse
  | none, none =>
      if name = "help" then .refused .help
      else if name = "version" && expected.hasVersion then .refused .version
      else .refused .misuse

def attached (cs : List Char) : String :=
  match cs with
  | '=' :: value => String.ofList value
  | value => String.ofList value

/-- What a word says that is made of letters after one hyphen, letter by letter. -/
def mentionsOfShort (expected : Expectation) : List Char → List Mention
  | [] => []
  | c :: rest =>
      match expected.options.find? (·.short? = some c) with
      | some option =>
          if !option.takesValue then .given option "" :: mentionsOfShort expected rest
          else if rest.isEmpty then [.awaited option]
          else [.given option (attached rest)]
      | none =>
          if c = 'h' then [.refused .help]
          else if c = 'V' && expected.hasVersion then [.refused .version]
          else [.refused .misuse]

def mentions (expected : Expectation) (word : String) : List Mention :=
  match word.toList with
  | '-' :: '-' :: cs => [mentionOfLong expected cs]
  | cs => mentionsOfShort expected (cs.drop 1)

def noteMentions (findings : Findings) :
    List Mention → Except Refusal (Findings × Option OptionName)
  | [] => .ok (findings, none)
  | .given name value :: rest => do noteMentions (← findings.withOption name value) rest
  | .awaited name :: _ => .ok (findings, some name)
  | .refused reason :: _ => .error reason

def looksLikeOption (word : String) : Bool :=
  word.startsWith "-" && word ≠ "-"

def scan (expected : Expectation) (findings : Findings) :
    Option OptionName → List String → Except Refusal Findings
  | none, [] => .ok findings
  | some _, [] => .error .misuse
  | some option, word :: words =>
      if looksLikeOption word then .error .misuse
      else do scan expected (← findings.withOption option word) none words
  | none, word :: words =>
      if word = "--" then
        words.foldlM (Findings.withOperand expected) findings
      else if looksLikeOption word then do
        let (findings, awaiting) ← noteMentions findings (mentions expected word)
        scan expected findings awaiting words
      else do
        scan expected (← findings.withOperand expected word) none words

def scanToCommand (expected : Expectation) (findings : Findings) :
    Option OptionName → List String → Except Refusal (Findings × String × List String)
  | _, [] => .error .misuse
  | some option, word :: words =>
      if looksLikeOption word then .error .misuse
      else do scanToCommand expected (← findings.withOption option word) none words
  | none, word :: words =>
      if word = "--" then
        .error .misuse
      else if looksLikeOption word then do
        let (findings, awaiting) ← noteMentions findings (mentions expected word)
        scanToCommand expected findings awaiting words
      else
        .ok (findings, word, words)

structure Options where
  config : Option String
  locale : Option String
  messagesDirectory : Option String
  remote : Option String
  logFormat : Option String
  verbose : Bool

inductive Command where
  | translate (key : String) (params : List (String × Json))
  | chain (requested fallback : String)
  | keys (file : String)
  | clearCache

structure Invocation where
  options : Options
  command : Command

def beforeCommand : Expectation := ⟨OptionName.global, [], true⟩

def afterCommand? : String → Option Expectation
  | "translate" => some ⟨.param :: OptionName.global, [.text], false⟩
  | "chain" => some ⟨OptionName.global, [.text, .text], false⟩
  | "keys" => some ⟨OptionName.global, [.path], false⟩
  | "clear-cache" => some ⟨OptionName.global, [], false⟩
  | _ => none

def readCommand (name : String) (findings : Findings) : Except Refusal Command :=
  match name, findings.operands with
  | "translate", [key] => .ok (.translate key findings.params)
  | "chain", [requested, fallback] => .ok (.chain requested fallback)
  | "keys", [file] => .ok (.keys file)
  | "clear-cache", [] => .ok .clearCache
  | _, _ => .error .misuse

def readHelpTopic : List String → Refusal
  | [] => .help
  | [topic] => if topic = "help" || (afterCommand? topic).isSome then .help else .misuse
  | _ => .misuse

/-- The options of both places, those after the command first. -/
def mergeOptions (before after : Findings) : Options :=
  let value? (name : OptionName) := (after.value? name).or (before.value? name)
  { config := value? .config
    locale := value? .locale
    messagesDirectory := value? .messagesDirectory
    remote := value? .remote
    logFormat := value? .logFormat
    verbose := (value? .verbose).isSome }

/-- Read the words in their order.  The first one that cannot be meant, or that asks for help or
for the version, decides. -/
def parse (words : List String) : Except Refusal Invocation := do
  let (before, name, words) ← scanToCommand beforeCommand .empty none words
  if name = "help" then
    .error (readHelpTopic words)
  else
    match afterCommand? name with
    | none => .error .misuse
    | some expected => do
        let after ← scan expected .empty none words
        let command ← readCommand name after
        .ok ⟨mergeOptions before after, command⟩

end Phrasebook.CommandLine
