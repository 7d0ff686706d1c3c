import Phrasebook.Text.Basic
import Phrasebook.Text.CaseMap
import Phrasebook.Url.Address
import Phrasebook.Url.Basic
import Phrasebook.Url.HostCharacter
import Phrasebook.Url.Percent
import Phrasebook.Url.Punycode

namespace Phrasebook.Url

/-! Hosts of URLs: addresses in brackets or of four parts, and names.

Names of the network are domains.  A domain is put into small letters, and its labels of other than
ASCII characters are written in Punycode.  The names that other schemes give to hosts stay as they
are.
-/

def readBracketed (cs : List Char) : Except UrlFault String :=
  if cs.getLast? = some ']' then
    match Ipv6.read? cs.dropLast with
    | some groups => .ok ("[" ++ Ipv6.text groups ++ "]")
    | none => .error .invalidIpv6
  else
    .error .invalidIpv6

/-- The ASCII character that a full-width form or an ideographic full stop stands for. -/
def narrow (c : Char) : Char :=
  if 0xFF01 ≤ c.toNat ∧ c.toNat ≤ 0xFF5E then Char.ofNat (c.toNat - 0xFEE0)
  else if c = '\u3002' || c = '\uFF61' then '.'
  else c

def domainCharacters (c : Char) : List Char :=
  if isIgnoredInHost c then []
  else if c = '\u0130' then ['i', '\u0307']
  else [Text.mapCase Text.lowerRuns (narrow c)]

def isForbiddenInDomain (c : Char) : Bool :=
  c.toNat ≤ 0x20 || c.toNat = 0x7F || Text.isBlank c || isRefusedInHost c ||
    c ∈ ['%', '#', '/', ':', '<', '>', '?', '@', '[', '\\', ']', '^', '|']

def joiners : List Char := ['\u200C', '\u200D']

def isLabel (label : List Char) : Bool :=
  !label.any isForbiddenInDomain && !label.head?.any (· ∈ joiners)

def encodedMark : List Char := ['x', 'n', '-', '-']

/-- The label needs Punycode, and is what it stands for itself. -/
def isEncodable (label : List Char) : Bool :=
  isLabel label && !label.all Punycode.isBasic && label.flatMap domainCharacters = label

/-- A label in ASCII.  One that is given in Punycode must stand for one that needs it. -/
def asciiLabel? (label : List Char) : Option (List Char) :=
  if !isLabel label then
    none
  else if encodedMark.isPrefixOf label then
    if (Punycode.decode? (label.drop encodedMark.length)).any isEncodable then some label else none
  else if label.all Punycode.isBasic then
    some label
  else
    some (encodedMark ++ Punycode.encode label)

def asciiDomain? (cs : List Char) : Option (List Char) := do
  let labels ← (Text.segments '.' (cs.flatMap domainCharacters)).mapM asciiLabel?
  some (['.'].intercalate labels)

def readDomain (cs : List Char) : Except UrlFault String :=
  match (percentDecode? cs).bind fun text => asciiDomain? text.toList with
  | none => .error .invalidDomain
  | some [] => .error .emptyHost
  | some domain =>
      if Ipv4.isNumeric domain then
        match Ipv4.read? domain with
        | some address => .ok (Ipv4.text address)
        | none => .error .invalidIpv4
      else
        .ok (String.ofList domain)

def isForbiddenInHost (c : Char) : Bool :=
  c ∈ ['\x00', '\t', '\n', '\r', ' ', '#', '/', ':', '<', '>', '?', '@', '[', '\\', ']', '^', '|']

def readOpaque (cs : List Char) : Except UrlFault String :=
  if cs.any isForbiddenInHost then .error .invalidHostCharacter
  else .ok (percentEncode [] cs)

def readHost (kind : SchemeKind) : List Char → Except UrlFault String
  | '[' :: cs => readBracketed cs
  | cs => if kind = .other then readOpaque cs else readDomain cs

end Phrasebook.Url
