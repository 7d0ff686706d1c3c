import Phrasebook.Http
import Phrasebook.Retry
import Phrasebook.Source.Basic
import Phrasebook.Text.Basic

namespace Phrasebook

/-! A source that requests dictionaries over HTTP.

The dictionary of a locale is at `base/locale.ext`, that of a namespace at
`base/locale/namespace.ext`.  An endpoint that cannot be reached, a server that fails and one that
is busy are asked again, and so is one whose answer is no JSON object; every other answer ends the
load.
-/

structure Remote where
  baseUrl : String
  extension : String
  /-- Milliseconds until a request is given up. -/
  timeout : Nat
  headers : List (String × String)
  /-- The locales that are known to be there. -/
  locales : List String
  retry : RetryPolicy

namespace Remote

def defaultExtension : String := ".json"

def trimmedUrl (url : String) : String :=
  String.ofList (url.toList.reverse.dropWhile (· = '/')).reverse

def ofUrl (url : String) : Remote where
  baseUrl := trimmedUrl url
  extension := defaultExtension
  timeout := 10000
  headers := []
  locales := []
  retry := .standard 2

def localeUrl (remote : Remote) (locale : String) : String :=
  s!"{remote.baseUrl}/{locale}{remote.extension}"

def namespaceUrl (remote : Remote) (name : FragmentName) : String :=
  s!"{remote.baseUrl}/{name.1}/{name.2}{remote.extension}"

def requestHeader (header : String × String) : Except Error (String × String) :=
  match Http.headerName? header.1 with
  | none =>
      .error (.configuration s!"invalid header name '{header.1}': invalid HTTP header name")
  | some name =>
      if Http.isHeaderValue header.2 then
        .ok (name, header.2)
      else
        .error (.configuration
          s!"invalid header value for '{name}': failed to parse header value")

/-- The headers of each request, those of the settings after the default one. -/
def requestHeaders (remote : Remote) : Except Error (List (String × String)) := do
  let headers ← remote.headers.mapM requestHeader
  .ok (headers.foldl (fun headers header => Keyed.put header.1 header.2 headers)
    [("accept", "application/json")])

end Remote

abbrev PayloadReader := Json → String → Except Error Dictionary

/-- A place whose headers have been checked, and the endpoint that is asked. -/
structure RemoteSource (σ : Type) where
  remote : Remote
  headers : List (String × String)
  endpoint : Endpoint σ
  transform : Option PayloadReader

namespace RemoteSource

def create (remote : Remote) (endpoint : Endpoint σ) : Except Error (RemoteSource σ) := do
  .ok ⟨remote, ← remote.requestHeaders, endpoint, none⟩

def failure (label reason : String) : Error :=
  .source label none reason

def readPayload (source : RemoteSource σ) (label locale : String) (payload : Json) :
    LoadOutcome :=
  match source.transform with
  | some transform => transform payload locale
  | none => (Dictionary.ofJson payload).mapError fun error => failure label error.message

def readReply (source : RemoteSource σ) (url label locale : String) (reply : HttpReply) :
    LoadOutcome :=
  if reply.status = 404 then
    .error (.localeUnavailable label)
  else if Http.isSuccess reply.status then
    let body := Text.dropEncodingMark reply.body.toList
    match Json.readText body with
    | .ok payload => source.readPayload label locale payload
    | .error fault => .error (failure label s!"invalid JSON: {fault.message body}")
  else
    .error (.source label (some reply.status)
      s!"HTTP {Http.statusText reply.status} from {url}")

def fetchOnce (source : RemoteSource σ) (url label locale : String) (state : σ) :
    LoadOutcome × σ :=
  match Http.requestFault? url with
  | some reason => (.error (failure label reason), state)
  | none =>
      match source.endpoint.send ⟨url, source.headers⟩ state with
      | (some reply, state) => (source.readReply url label locale reply, state)
      | (none, state) => (.error (failure label (Http.sendFault url)), state)

/-- Send requests until one is answered for good or no retry is left. -/
def fetch (source : RemoteSource σ) (url label locale : String) : σ → LoadOutcome × σ :=
  source.remote.retry.run source.endpoint.wait (source.fetchOnce url label locale)
    Error.isRecoverable

def load (source : RemoteSource σ) : Loader String σ :=
  fun _ locale state =>
    (.awaiting fun _ => source.fetch (source.remote.localeUrl locale) locale locale, state)

def namespaces (source : RemoteSource σ) : NamespaceSource σ :=
  fun _ name state =>
    (.awaiting fun _ => source.fetch (source.remote.namespaceUrl name) name.label name.1, state)

def messages (source : RemoteSource σ) : MessageSource σ where
  load := source.load
  offers locale _ := locale ∈ source.remote.locales
  available _ := source.remote.locales

end RemoteSource

end Phrasebook
