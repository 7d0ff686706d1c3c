import Phrasebook.CommandLine.Arguments
import Phrasebook.Config.Reading
import Phrasebook.Translator.Configured
import Phrasebook.Translator.Loading

namespace Phrasebook.CommandLine

structure Failure where
  message : String
  cause : Option String

namespace Failure

def ofError (error : Error) : Failure :=
  ⟨error.message, none⟩

def text (failure : Failure) : String :=
  match failure.cause with
  | none => s!"Error: {failure.message}\n"
  | some cause => s!"Error: {failure.message}\n\nCaused by:\n    {cause}\n"

end Failure

structure Report where
  exitCode : Nat
  output : String
  errors : String

namespace Report

def success (output : String) : Report := ⟨0, output, ""⟩

def failure (failure : Failure) : Report := ⟨1, "", failure.text⟩

def ofResult : Except Failure String → Report
  | .ok output => success output
  | .error failure => .failure failure

end Report

variable {ε ρ : Type}

def loadConfig (tree : FileTree) (environment : Config.Environment) (options : Options) :
    Except Error Config := do
  let config ←
    match options.config with
    | some path => Config.ofFile tree path
    | none => Config.ofEnvironment environment
  let config : Config := { config with
    locale := { config.locale with
      locale := options.locale.getD config.locale.locale
      messagesDirectory := options.messagesDirectory.or config.locale.messagesDirectory }
    remote := (options.remote.map fun baseUrl => { baseUrl }).or config.remote }
  config.validate
  .ok config

/-- The text of a key.  Where there is a remote source, the locales of the chain are loaded first,
as far as they can be. -/
def runTranslate (network : Network ε ρ) (now : Int64) (config : Config) (key : String)
    (params : List (String × Json)) (world : World ε ρ) : Except Error String × World ε ρ :=
  match Translator.ofConfig network config world with
  | .error error => (.error error, world)
  | .ok translator =>
      let translator :=
        if config.remote.isSome then (translator.loadChain now).2 else translator
      let (text, translator) :=
        if params.isEmpty then translator.translate key
        else translator.translateWith key (.ofList params)
      (.ok (text ++ "\n"), translator.world)

def runClearCache (network : Network ε ρ) (config : Config) (world : World ε ρ) :
    Except Error String × World ε ρ :=
  match config.cache.openStorage network.redis world with
  | (.error error, world) => (.error error, world)
  | (.ok opened, world) =>
      let (result, world) := opened.storage.clear world
      (result.map fun _ => s!"Cache cleared ({config.cache.backend.name})\n", world)

def runKeys (tree : FileTree) (file : String) : Except Failure String :=
  match Dictionary.ofFile tree file with
  | .ok dictionary =>
      .ok (String.join (dictionary.flatten.map fun (key, message) => s!"{key}\t{message}\n"))
  | .error error => .error ⟨s!"Failed to read messages from {file}", some error.message⟩

def withConfig (config : Except Error Config) (world : World ε ρ)
    (run : Config → Except Error String × World ε ρ) : Report × World ε ρ :=
  let (result, world) :=
    match config with
    | .ok config => run config
    | .error error => (.error error, world)
  (.ofResult (result.mapError Failure.ofError), world)

def runInvocation (network : Network ε ρ) (now : Int64) (environment : Config.Environment)
    (invocation : Invocation) (world : World ε ρ) : Report × World ε ρ :=
  let config := loadConfig world.files environment invocation.options
  match invocation.command with
  | .translate key params =>
      withConfig config world fun config => runTranslate network now config key params world
  | .chain requested fallback =>
      (.success (" -> ".intercalate (Locale.fallbackChain requested fallback) ++ "\n"), world)
  | .keys file => (.ofResult (runKeys world.files file), world)
  | .clearCache => withConfig config world fun config => runClearCache network config world

def neededPaths (environment : Config.Environment) (tree : FileTree) (invocation : Invocation) :
    List String :=
  match invocation.command, loadConfig tree environment invocation.options with
  | .keys file, _ => [file]
  | _, .ok config => config.locale.messagesDirectory.toList ++ config.cache.directory.toList
  | _, .error _ => []

def usage : String :=
  "Usage: tercume [OPTIONS] <COMMAND>\n"

def helpText : String :=
  "Message resolution and formatting engine for translated UI strings\n\n" ++ usage ++ "
Commands:
  translate KEY            Resolve a key in the current locale
  chain LOCALE FALLBACK    Print the fallback chain for a locale
  keys FILE                List every key in a message file
  clear-cache              Empty the offline message cache

Options:
  -c, --config FILE        Configuration file (TOML); environment variables are used otherwise
  -l, --locale LOCALE      Override the current locale
      --messages-dir DIR   Override the static messages directory
      --remote URL         Override the remote base URL
  -v, --verbose            Enable verbose logging
      --log-format FORMAT  Log format (text, json); overrides logging.format
  -p, --param NAME=VALUE   Parameter of translate; values parse as JSON when possible
  -h, --help               Print help
  -V, --version            Print version
"

def versionText : String := "tercume 0.1.0\n"

def run (network : Network ε ρ) (now : Int64) (environment : Config.Environment)
    (words : List String) (world : World ε ρ) : Report × World ε ρ :=
  match parse words with
  | .ok invocation => runInvocation network now environment invocation world
  | .error .help => (.success helpText, world)
  | .error .version => (.success versionText, world)
  | .error .misuse => (⟨2, "", "error: unusable arguments\n\n" ++ usage⟩, world)

end Phrasebook.CommandLine
