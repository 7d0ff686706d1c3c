namespace Phrasebook.Text

/-! Texts and their characters.

A class of characters is given by a table of code points, a list of closed ranges in ascending
order.  The tables of this folder are those of the Unicode character database: version 17 for cases,
version 16 for word characters.
-/

def inRanges (ranges : List (Nat × Nat)) (c : Char) : Bool :=
  ranges.any fun range => range.1 ≤ c.toNat && c.toNat ≤ range.2

theorem inRanges_iff {ranges : List (Nat × Nat)} {c : Char} :
    inRanges ranges c = true ↔ ∃ range ∈ ranges, range.1 ≤ c.toNat ∧ c.toNat ≤ range.2 := by
  simp [inRanges]

/-- The ranges of the property `White_Space`. -/
def blankRanges : List (Nat × Nat) :=
  [(0x9, 0xD), (0x20, 0x20), (0x85, 0x85), (0xA0, 0xA0), (0x1680, 0x1680), (0x2000, 0x200A),
   (0x2028, 0x2029), (0x202F, 0x202F), (0x205F, 0x205F), (0x3000, 0x3000)]

def isBlank (c : Char) : Bool :=
  inRanges blankRanges c

def dropBlanks (cs : List Char) : List Char :=
  cs.dropWhile isBlank

def trim (text : String) : String :=
  String.ofList (dropBlanks (dropBlanks text.toList).reverse).reverse

/-- The text without the mark of its encoding, which may stand in front of it once. -/
def dropEncodingMark : List Char → List Char
  | '\uFEFF' :: rest => rest
  | cs => cs

/-- A digit to any base up to 36, where letters of either case follow the ten figures. -/
def digitOf? (c : Char) : Option Nat :=
  if '0' ≤ c ∧ c ≤ '9' then some (c.toNat - 48)
  else if 'a' ≤ c ∧ c ≤ 'z' then some (c.toNat - 87)
  else if 'A' ≤ c ∧ c ≤ 'Z' then some (c.toNat - 55)
  else none

def digitIn? (base : Nat) (c : Char) : Option Nat :=
  (digitOf? c).filter (· < base)

/-- The value of a row of digits; none if a character is no digit of the base. -/
def digitsIn? (base : Nat) (cs : List Char) : Option Nat :=
  cs.foldl (fun value c => do return (← value) * base + (← digitIn? base c)) (some 0)

/-- The pieces between separators, one more than there are separators. -/
def segments (separator : Char) : List Char → List (List Char)
  | [] => [[]]
  | c :: cs =>
      if c = separator then
        [] :: segments separator cs
      else
        match segments separator cs with
        | first :: rest => (c :: first) :: rest
        | [] => [[c]]

/-- The text itself if it has at most `limit` characters, and else its start with three dots, which
count toward the limit. -/
def shortened (limit : Nat) (text : String) : String :=
  if text.toList.length ≤ limit then text
  else String.ofList (text.toList.take (limit - 3)) ++ "..."

def sorted (texts : List String) : List String :=
  texts.mergeSort fun left right => decide (left ≤ right)

theorem sorted_perm (texts : List String) : (sorted texts).Perm texts :=
  List.mergeSort_perm texts _

end Phrasebook.Text
