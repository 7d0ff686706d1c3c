import Phrasebook.Config.Basic
import Phrasebook.Toml.Reader

namespace Phrasebook.Config

def malformed (place : String) : Error :=
  .configuration s!"TOML parse error: wrong value of {place}"

def asString? : Toml → Option String
  | .string value => some value
  | _ => none

def asBool? : Toml → Option Bool
  | .boolean value => some value
  | _ => none

def asNat? (bound : Nat) : Toml → Option Nat
  | .integer value => if 0 ≤ value ∧ value < bound then some value.toNat else none
  | _ => none

def asStrings? : Toml → Option (List String)
  | .array _ items => items.mapM asString?
  | _ => none

/-- The name under which the text of a date stands when a date is taken for a table. -/
def dateTimeKey : String := "$__toml_private_datetime"

/-- The entries of a table.  A date counts as a table of one entry, its text. -/
def asEntries? : Toml → Option Toml.Entries
  | .table _ entries => some entries
  | .dateTime value => some [(dateTimeKey, .string value.text)]
  | _ => none

def asHeaders? (value : Toml) : Option (List (String × String)) := do
  (← asEntries? value).mapM fun entry => do return (entry.1, ← asString? entry.2)

/-- A backend by its name, or by a table with this name as its only key and nothing under it. -/
def asBackend? : Toml → Option CacheBackend
  | .string name => CacheBackend.ofName? name
  | .table _ [(name, .table _ [])] => CacheBackend.ofName? name
  | .table _ [(name, .array _ [])] => CacheBackend.ofName? name
  | _ => none

/-- The entries of a section.  An array gives the fields in their order. -/
def sectionEntries (fields : List String) : Toml → Option Toml.Entries
  | .array _ items => some (fields.zip items)
  | value => asEntries? value

def fieldOr (entries : Toml.Entries) (name : String) (read : Toml → Option α) (default : α) :
    Except Error α :=
  match Keyed.get? name entries with
  | none => .ok default
  | some value =>
      match read value with
      | some value => .ok value
      | none => .error (malformed name)

def field? (entries : Toml.Entries) (name : String) (read : Toml → Option α)
    (default : Option α) : Except Error (Option α) :=
  fieldOr entries name (fun value => (read value).map some) default

def readLocale (entries : Toml.Entries) : Except Error LocaleSettings := do
  let default : LocaleSettings := {}
  return {
    locale := ← fieldOr entries "locale" asString? default.locale
    fallback := ← fieldOr entries "fallback_locale" asString? default.fallback
    templateCapacity :=
      ← fieldOr entries "template_cache_capacity" (asNat? UInt64.size) default.templateCapacity
    messagesDirectory := ← field? entries "messages_dir" asString? default.messagesDirectory }

def readRemote (entries : Toml.Entries) : Except Error RemoteSettings := do
  let some baseUrl ← field? entries "base_url" asString? none | .error (malformed "base_url")
  let default : RemoteSettings := { baseUrl }
  return {
    baseUrl
    extension := ← fieldOr entries "extension" asString? default.extension
    timeout := ← fieldOr entries "timeout_secs" (asNat? UInt64.size) default.timeout
    maxRetries := ← fieldOr entries "max_retries" (asNat? UInt32.size) default.maxRetries
    headers := ← fieldOr entries "headers" asHeaders? default.headers
    locales := ← fieldOr entries "locales" asStrings? default.locales }

def readCache (entries : Toml.Entries) : Except Error CacheSettings := do
  let default : CacheSettings := {}
  return {
    enabled := ← fieldOr entries "enabled" asBool? default.enabled
    ttl := ← fieldOr entries "ttl_ms" (asNat? UInt64.size) default.ttl
    keyLead := ← fieldOr entries "key_prefix" asString? default.keyLead
    backend := ← fieldOr entries "backend" asBackend? default.backend
    directory := ← field? entries "dir" asString? default.directory
    redisUrl := ← field? entries "redis_url" asString? default.redisUrl }

def readLogging (entries : Toml.Entries) : Except Error LoggingSettings := do
  let default : LoggingSettings := {}
  return {
    level := ← fieldOr entries "level" asString? default.level
    format := ← fieldOr entries "format" asString? default.format }

def sectionOr (entries : Toml.Entries) (name : String) (fields : List String)
    (read : Toml.Entries → Except Error α) (default : α) : Except Error α :=
  match Keyed.get? name entries with
  | none => .ok default
  | some value =>
      match sectionEntries fields value with
      | some entries => read entries
      | none => .error (malformed name)

def ofEntries (entries : Toml.Entries) : Except Error Config := do
  return {
    locale := ← sectionOr entries "i18n"
      ["locale", "fallback_locale", "template_cache_capacity", "messages_dir"] readLocale {}
    remote := ← sectionOr entries "remote"
      ["base_url", "extension", "timeout_secs", "max_retries", "headers", "locales"]
      (fun entries => return some (← readRemote entries)) none
    cache := ← sectionOr entries "cache"
      ["enabled", "ttl_ms", "key_prefix", "backend", "dir", "redis_url"] readCache {}
    logging := ← sectionOr entries "logging" ["level", "format"] readLogging {} }

def ofToml (text : String) : Except Error Config :=
  match Toml.read text with
  | .ok entries => ofEntries entries
  | .error error => .error (.configuration error.message)

def ofFile (tree : FileTree) (path : String) : Except Error Config :=
  match tree.readText path with
  | .error fault =>
      let reason := fault.message
      .error (.configuration s!"Failed to read config file {path}: {reason}")
  | .ok text =>
      (ofToml text).mapError fun error =>
        let reason := error.message
        .configuration s!"Failed to parse TOML config file {path}: {reason}"

abbrev Environment := List (String × String)

def variableNames : List String :=
  ["TERCUME_LOCALE", "TERCUME_FALLBACK_LOCALE", "TERCUME_MESSAGES_DIR", "TERCUME_REMOTE_URL",
    "TERCUME_CACHE_BACKEND", "TERCUME_CACHE_TTL_MS", "TERCUME_CACHE_DIR", "REDIS_URL",
    "TERCUME_LOG_LEVEL", "TERCUME_LOG_FORMAT"]

/-- A natural number below a bound, in decimal digits after an optional plus sign. -/
def readNat? (bound : Nat) (text : String) : Option Nat :=
  let digits :=
    match text.toList with
    | '+' :: rest => rest
    | cs => cs
  if !digits.isEmpty && digits.all Char.isDigit && digitsValue digits < bound then
    some (digitsValue digits)
  else
    none

/-- The configuration of the environment.  A time to live that is no number is passed over. -/
def ofEnvironment (environment : Environment) : Except Error Config := do
  let value? (name : String) := Keyed.get? name environment
  let default : Config := {}
  let backend ←
    match value? "TERCUME_CACHE_BACKEND" with
    | some text => CacheBackend.parse text
    | none => .ok default.cache.backend
  let ttl := (value? "TERCUME_CACHE_TTL_MS").bind (readNat? UInt64.size)
  return {
    locale := {
      locale := (value? "TERCUME_LOCALE").getD default.locale.locale
      fallback := (value? "TERCUME_FALLBACK_LOCALE").getD default.locale.fallback
      messagesDirectory := value? "TERCUME_MESSAGES_DIR" }
    remote := (value? "TERCUME_REMOTE_URL").map fun baseUrl => { baseUrl }
    cache := {
      ttl := ttl.getD default.cache.ttl
      backend
      directory := (value? "TERCUME_CACHE_DIR").or default.cache.directory
      redisUrl := value? "REDIS_URL" }
    logging := {
      level := (value? "TERCUME_LOG_LEVEL").getD default.logging.level
      format := (value? "TERCUME_LOG_FORMAT").getD default.logging.format } }

end Phrasebook.Config
