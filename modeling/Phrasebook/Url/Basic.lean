import Phrasebook.Keyed

namespace Phrasebook

inductive UrlFault where
  | relative
  | emptyHost
  | invalidPort
  | invalidIpv4
  | invalidIpv6
  | invalidDomain
  | invalidHostCharacter
deriving DecidableEq

namespace UrlFault

def message : UrlFault → String
  | .relative => "relative URL without a base"
  | .emptyHost => "empty host"
  | .invalidPort => "invalid port number"
  | .invalidIpv4 => "invalid IPv4 address"
  | .invalidIpv6 => "invalid IPv6 address"
  | .invalidDomain => "invalid international domain name"
  | .invalidHostCharacter => "invalid domain character"

end UrlFault

structure Credentials where
  user : String
  password : Option String

structure Url where
  scheme : String
  credentials : Option Credentials
  host : Option String
  port : Option Nat
  path : String
  query : Option String
  fragment : Option String

namespace Credentials

def text (credentials : Credentials) : String :=
  credentials.user ++ (credentials.password.map (":" ++ ·)).getD "" ++ "@"

end Credentials

namespace Url

def authorityText (url : Url) : String :=
  match url.host with
  | some host =>
      let credentials := (url.credentials.map Credentials.text).getD ""
      "//" ++ credentials ++ host ++ (url.port.map fun port => s!":{port}").getD ""
  | none => if url.path.startsWith "//" then "/." else ""

/-- The text of a URL.  A path is not taken for a host when the text is read again. -/
def text (url : Url) : String :=
  url.scheme ++ ":" ++ url.authorityText ++ url.path ++ (url.query.map ("?" ++ ·)).getD "" ++
    (url.fragment.map ("#" ++ ·)).getD ""

def isHttp (url : Url) : Bool :=
  url.host.isSome && (url.scheme = "http" || url.scheme = "https")

inductive SchemeKind where
  | file
  /-- Hosts are domains or addresses, and a backslash is taken for a slash. -/
  | network
  | other
deriving DecidableEq

def schemeKind (scheme : String) : SchemeKind :=
  if scheme = "file" then .file
  else if scheme ∈ ["http", "https", "ws", "wss", "ftp"] then .network
  else .other

def defaultPort (scheme : String) : Option Nat :=
  Keyed.get? scheme [("http", 80), ("https", 443), ("ws", 80), ("wss", 443), ("ftp", 21)]

end Url

end Phrasebook
