import Phrasebook.Text.Basic

namespace Phrasebook.Text

theorem segments_ne_nil (separator : Char) (cs : List Char) : segments separator cs ≠ [] := by
  cases cs with
  | nil => simp [segments]
  | cons c cs =>
      unfold segments
      split
      · simp
      · split <;> simp

theorem segments_append (separator : Char) (before after : List Char) :
    segments separator (before ++ separator :: after) =
      segments separator before ++ segments separator after := by
  induction before with
  | nil => simp [segments]
  | cons c cs ih =>
      by_cases same : c = separator
      · simp [segments, same, ih]
      · cases pieces : segments separator cs with
        | nil => exact absurd pieces (segments_ne_nil separator cs)
        | cons first rest => simp [segments, same, ih, pieces]

theorem segments_of_notMem {separator : Char} {piece : List Char} (free : separator ∉ piece) :
    segments separator piece = [piece] := by
  induction piece with
  | nil => rfl
  | cons c cs ih =>
      obtain ⟨different, free⟩ := List.ne_and_not_mem_of_not_mem_cons free
      rw [segments, if_neg (Ne.symm different), ih free]

theorem segments_append_cons {separator : Char} {piece : List Char} (free : separator ∉ piece)
    (rest : List Char) :
    segments separator (piece ++ separator :: rest) = piece :: segments separator rest := by
  rw [segments_append, segments_of_notMem free, List.singleton_append]

theorem segments_eq_splitOn (separator : Char) (cs : List Char) :
    segments separator cs = cs.splitOn separator := by
  unfold List.splitOn
  induction cs with
  | nil => rfl
  | cons c cs ih =>
      rw [segments, List.splitOnP_cons_eq_if_modifyHead, ← ih]
      by_cases same : c = separator
      · simp [same]
      · cases pieces : segments separator cs with
        | nil => exact absurd pieces (segments_ne_nil separator cs)
        | cons first rest => simp [same]

theorem intercalate_segments (separator : Char) (cs : List Char) :
    [separator].intercalate (segments separator cs) = cs := by
  rw [segments_eq_splitOn, List.intercalate_splitOn]

theorem segments_intercalate {separator : Char} {pieces : List (List Char)}
    (free : ∀ piece ∈ pieces, separator ∉ piece) (nonempty : pieces ≠ []) :
    segments separator ([separator].intercalate pieces) = pieces := by
  rw [segments_eq_splitOn, List.splitOn_intercalate separator free nonempty]

end Phrasebook.Text
