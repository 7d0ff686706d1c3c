import Phrasebook.Source.Remote
import Phrasebook.Template.Formatter
import Phrasebook.Text.Basic
import Phrasebook.Text.CaseMap
import Phrasebook.World

namespace Phrasebook

inductive CacheBackend where
  | memory
  | file
  | redis
deriving DecidableEq

namespace CacheBackend

def name : CacheBackend → String
  | .memory => "memory"
  | .file => "file"
  | .redis => "redis"

def ofName? (name : String) : Option CacheBackend :=
  [CacheBackend.memory, .file, .redis].find? (·.name = name)

/-- The backend of a name, in which case and surrounding blanks do not count. -/
def parse (text : String) : Except Error CacheBackend :=
  let name := Text.toLower (Text.trim text)
  match ofName? name with
  | some backend => .ok backend
  | none => .error (.configuration s!"unknown cache backend '{name}'")

end CacheBackend

structure LocaleSettings where
  locale : String := "en"
  fallback : String := "en"
  templateCapacity : Nat := TemplateFormatter.defaultCapacity
  messagesDirectory : Option String := none

structure RemoteSettings where
  baseUrl : String
  extension : String := Remote.defaultExtension
  /-- Seconds until a request is given up. -/
  timeout : Nat := 10
  maxRetries : Nat := 2
  headers : List (String × String) := []
  locales : List String := []

structure CacheSettings where
  enabled : Bool := true
  /-- Milliseconds for which a record is fresh. -/
  ttl : Nat := CachingPolicy.defaultTtl
  keyLead : String := CachingPolicy.defaultKeyLead
  backend : CacheBackend := .file
  directory : Option String := some ".cache/tercume"
  redisUrl : Option String := none

structure LoggingSettings where
  level : String := "info"
  format : String := "text"

structure Config where
  locale : LocaleSettings := {}
  remote : Option RemoteSettings := none
  cache : CacheSettings := {}
  logging : LoggingSettings := {}

namespace RemoteSettings

def remote (settings : RemoteSettings) : Remote where
  baseUrl := Remote.trimmedUrl settings.baseUrl
  extension := settings.extension
  timeout := settings.timeout * 1000
  headers := settings.headers
  locales := settings.locales
  retry := .standard settings.maxRetries

end RemoteSettings

namespace LoggingSettings

def levels : List String := ["trace", "debug", "info", "warn", "error"]

def lowerLevel (settings : LoggingSettings) : String :=
  String.ofList (settings.level.toList.map Char.toLower)

def filterDirective (settings : LoggingSettings) (verbose : Bool) : String :=
  if verbose then "tercume=debug,info" else s!"tercume={settings.lowerLevel},warn"

def formatOr (settings : LoggingSettings) (format : Option String) : String :=
  format.getD settings.format

end LoggingSettings

namespace CacheSettings

def policy (settings : CacheSettings) : CachingPolicy :=
  ⟨settings.ttl, settings.keyLead⟩

def missingDirectory : Error :=
  .configuration "file cache backend requires cache.dir"

def missingRedisUrl : Error :=
  .configuration "redis cache backend requires cache.redis_url"

def openStorage (settings : CacheSettings) (connect : String → Except String (RedisConnection ρ))
    (world : World ε ρ) : Except Error (OpenStorage ρ) × World ε ρ :=
  match settings.backend, settings.directory, settings.redisUrl with
  | .memory, _, _ => (.ok .memory, world)
  | .file, some directory, _ => (.ok (.files directory), world)
  | .file, none, _ => (.error missingDirectory, world)
  | .redis, _, some url =>
      let (result, world) :=
        World.redisPart.lift (RedisStorage.connected (connect url)) world
      (result.map OpenStorage.redis, world)
  | .redis, _, none => (.error missingRedisUrl, world)

end CacheSettings

namespace Config

def isBlank (text : String) : Bool :=
  (Text.trim text).isEmpty

def require (condition : Bool) (error : Error) : Except Error Unit :=
  if condition then .ok () else .error error

def checkRemote (remote : RemoteSettings) : Except Error Unit :=
  match Url.read remote.baseUrl with
  | .ok _ => .ok ()
  | .error fault =>
      let reason := fault.message
      .error (.configuration s!"invalid remote.base_url '{remote.baseUrl}': {reason}")

def checkCache (cache : CacheSettings) : Except Error Unit :=
  match cache.backend with
  | .memory => .ok ()
  | .file => require cache.directory.isSome CacheSettings.missingDirectory
  | .redis => require cache.redisUrl.isSome CacheSettings.missingRedisUrl

def checkLogging (logging : LoggingSettings) : Except Error Unit := do
  let levels := ", ".intercalate LoggingSettings.levels
  require (logging.lowerLevel ∈ LoggingSettings.levels)
    (.configuration s!"invalid logging.level '{logging.level}', expected one of {levels}")
  require (logging.format = "text" || logging.format = "json")
    (.configuration s!"invalid logging.format '{logging.format}', expected text or json")

def validate (config : Config) : Except Error Unit := do
  require (!isBlank config.locale.locale) (.configuration "i18n.locale must not be empty")
  require (!isBlank config.locale.fallback)
    (.configuration "i18n.fallback_locale must not be empty")
  require (config.locale.templateCapacity ≠ 0)
    (.configuration "template_cache_capacity must be greater than 0")
  match config.remote with
  | some remote => checkRemote remote
  | none => .ok ()
  checkCache config.cache
  checkLogging config.logging

end Config

end Phrasebook
