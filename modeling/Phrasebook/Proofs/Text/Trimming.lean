import Phrasebook.Text.Basic

namespace Phrasebook.Text

variable {cs : List Char} {c : Char}

/-- No blank stands at either end. -/
structure Trimmed (cs : List Char) : Prop where
  head : ∀ c, cs.head? = some c → isBlank c = false
  last : ∀ c, cs.getLast? = some c → isBlank c = false

theorem isBlank_of_dropBlanks (head : (dropBlanks cs).head? = some c) : isBlank c = false := by
  have first := List.head?_dropWhile_not isBlank cs
  unfold dropBlanks at head
  rwa [head] at first

theorem dropBlanks_of_head (head : ∀ c, cs.head? = some c → isBlank c = false) :
    dropBlanks cs = cs := by
  cases cs with
  | nil => rfl
  | cons c cs => exact List.dropWhile_cons_of_neg (Bool.eq_false_iff.mp (head c rfl))

theorem toList_trim (text : String) :
    (trim text).toList = (dropBlanks (dropBlanks text.toList).reverse).reverse :=
  String.toList_ofList

theorem trim_prefix_dropBlanks (text : String) : (trim text).toList <+: dropBlanks text.toList := by
  rw [toList_trim, ← List.reverse_suffix, List.reverse_reverse]
  exact List.dropWhile_suffix isBlank

theorem mem_of_mem_trim {text : String} (member : c ∈ (trim text).toList) : c ∈ text.toList :=
  (List.dropWhile_suffix isBlank).subset ((trim_prefix_dropBlanks text).subset member)

theorem trimmed_trim (text : String) : Trimmed (trim text).toList where
  head c head := by
    obtain ⟨after, whole⟩ := trim_prefix_dropBlanks text
    have first : (dropBlanks text.toList).head? = some c := by
      rw [← whole, List.head?_append, head, Option.some_or]
    exact isBlank_of_dropBlanks first
  last c last := by
    rw [toList_trim, List.getLast?_reverse] at last
    exact isBlank_of_dropBlanks last

theorem trim_of_trimmed {text : String} (trimmed : Trimmed text.toList) : trim text = text := by
  have fromLast : dropBlanks text.toList.reverse = text.toList.reverse :=
    dropBlanks_of_head fun c last => trimmed.last c (by rwa [List.head?_reverse] at last)
  rw [trim, dropBlanks_of_head trimmed.head, fromLast, List.reverse_reverse, String.ofList_toList]

theorem trim_eq_self_iff {text : String} : trim text = text ↔ Trimmed text.toList :=
  ⟨fun same => same ▸ trimmed_trim text, trim_of_trimmed⟩

theorem trim_trim (text : String) : trim (trim text) = trim text :=
  trim_of_trimmed (trimmed_trim text)

end Phrasebook.Text
