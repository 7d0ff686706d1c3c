import Phrasebook.Keyed
import Phrasebook.Url.Reader

namespace Phrasebook

structure HttpRequest where
  url : String
  headers : List (String × String)

structure HttpReply where
  status : Nat
  body : String

/-- What answers requests.  Nothing comes back if it cannot be reached. -/
structure Endpoint (σ : Type) where
  send : HttpRequest → σ → Option HttpReply × σ
  wait : Nat → σ → σ

namespace Endpoint

def unreachable : Endpoint σ where
  send _ state := (none, state)
  wait _ state := state

end Endpoint

namespace Http

def isSuccess (status : Nat) : Bool :=
  200 ≤ status && status < 300

def reasons : List (Nat × String) :=
  [(100, "Continue"), (101, "Switching Protocols"), (102, "Processing"), (300, "Multiple Choices"),
    (301, "Moved Permanently"), (302, "Found"), (303, "See Other"), (304, "Not Modified"),
    (305, "Use Proxy"), (307, "Temporary Redirect"), (308, "Permanent Redirect"),
    (400, "Bad Request"), (401, "Unauthorized"), (402, "Payment Required"), (403, "Forbidden"),
    (404, "Not Found"), (405, "Method Not Allowed"), (406, "Not Acceptable"),
    (407, "Proxy Authentication Required"), (408, "Request Timeout"), (409, "Conflict"),
    (410, "Gone"), (411, "Length Required"), (412, "Precondition Failed"),
    (413, "Payload Too Large"), (414, "URI Too Long"), (415, "Unsupported Media Type"),
    (416, "Range Not Satisfiable"), (417, "Expectation Failed"), (418, "I'm a teapot"),
    (421, "Misdirected Request"), (422, "Unprocessable Entity"), (423, "Locked"),
    (424, "Failed Dependency"), (425, "Too Early"), (426, "Upgrade Required"),
    (428, "Precondition Required"), (429, "Too Many Requests"),
    (431, "Request Header Fields Too Large"), (451, "Unavailable For Legal Reasons"),
    (500, "Internal Server Error"), (501, "Not Implemented"), (502, "Bad Gateway"),
    (503, "Service Unavailable"), (504, "Gateway Timeout"), (505, "HTTP Version Not Supported"),
    (506, "Variant Also Negotiates"), (507, "Insufficient Storage"), (508, "Loop Detected"),
    (510, "Not Extended"), (511, "Network Authentication Required")]

def statusText (status : Nat) : String :=
  let reason := (Keyed.get? status reasons).getD "<unknown status code>"
  s!"{status} {reason}"

def isTokenChar (c : Char) : Bool :=
  c.isAlphanum || c ∈ ['!', '#', '$', '%', '&', '\x27', '*', '+', '-', '.', '^', '_', '\x60', '|',
    '~']

def headerName? (name : String) : Option String :=
  if !name.isEmpty && name.toList.all isTokenChar then
    some (String.ofList (name.toList.map Char.toLower))
  else
    none

def isHeaderValue (value : String) : Bool :=
  value.toList.all fun c => c = '\t' || (0x20 ≤ c.toNat && c.toNat ≠ 0x7F)

/-- The URL of a request.  A user's name and password do not belong to it as far as they are text:
they are sent as a header. -/
def requestUrl (url : Url) : Url :=
  match url.credentials with
  | none => url
  | some credentials =>
      let password := credentials.password.bind fun password => Url.percentDecode? password.toList
      match Url.percentDecode? credentials.user.toList with
      | none => url
      | some user =>
          if user.isEmpty && password.isNone then url else { url with credentials := none }

/-- The longest text of a URL that can be sent, in bytes. -/
def longestUrl : Nat := 65534

def unsendable : List Char := ['"', '\x60', '\x7b', '\x7d']

def isSendable (url : Url) : Bool :=
  url.isHttp && (url.host.getD "").toList.all (· ∉ unsendable) &&
    url.text.utf8ByteSize ≤ longestUrl

def requestFault? (url : String) : Option String :=
  match Url.read url with
  | .error _ => some "builder error"
  | .ok url =>
      let url := requestUrl url
      if isSendable url then none else some s!"builder error for url ({url.text})"

def sendFault (url : String) : String :=
  match Url.read url with
  | .ok url =>
      let url := requestUrl url
      s!"error sending request for url ({url.text})"
  | .error _ => "error sending request"

end Http

end Phrasebook
