import Phrasebook.Text.Basic

namespace Phrasebook.Url

def encodeByte (byte : UInt8) : List Char :=
  ['%', Nat.digitChar (byte.toNat / 16) |>.toUpper, Nat.digitChar (byte.toNat % 16) |>.toUpper]

def bytesOf (c : Char) : List UInt8 :=
  (String.singleton c).toUTF8.toList

/-- Control characters and those beyond ASCII are encoded everywhere, others in some parts of a
URL. -/
def isEncoded (unsafeHere : List Char) (c : Char) : Bool :=
  c.toNat < 0x20 || 0x7E < c.toNat || c ∈ unsafeHere

def percentEncode (unsafeHere cs : List Char) : String :=
  String.ofList (cs.flatMap fun c =>
    if isEncoded unsafeHere c then (bytesOf c).flatMap encodeByte else [c])

def encodedByte? : List Char → Option UInt8
  | '%' :: high :: low :: _ => (Text.digitsIn? 16 [high, low]).map Nat.toUInt8
  | _ => none

/-- The bytes of a text.  A percent sign without two digits after it stands for itself.  `skipped`
characters have been read already. -/
def percentDecodeFrom : Nat → List Char → List UInt8
  | _, [] => []
  | skipped + 1, _ :: cs => percentDecodeFrom skipped cs
  | 0, c :: cs =>
      match encodedByte? (c :: cs) with
      | some byte => byte :: percentDecodeFrom 2 cs
      | none => bytesOf c ++ percentDecodeFrom 0 cs

/-- The text whose bytes are given partly percent-encoded; none if they are not UTF-8. -/
def percentDecode? (cs : List Char) : Option String :=
  String.fromUTF8? ⟨(percentDecodeFrom 0 cs).toArray⟩

end Phrasebook.Url
