import Phrasebook.Proofs.Interpolation
import Phrasebook.Proofs.Template.Detection
import Phrasebook.Proofs.Template.RoundTrip
import Phrasebook.Template.Rendering

namespace Phrasebook

namespace Piece

/-- A placeholder, or text without braces and apostrophes. -/
def IsPlain : Piece → Prop
  | .literal text => ∀ c ∈ text, c ∉ ['\x7b', '\x7d', '\'']
  | .placeholder name => IsWordName name

instance (piece : Piece) : Decidable piece.IsPlain :=
  match piece with
  -- The text is looked through, not all characters that there are.
  | .literal text => List.decidableBAll _ text
  | .placeholder name => inferInstanceAs (Decidable (IsWordName name))

def message (pieces : List Piece) : String :=
  String.ofList (pieces.flatMap Piece.source)

end Piece

theorem Partition.of_plain {pieces : List Piece} (plain : ∀ piece ∈ pieces, piece.IsPlain) :
    Partition (pieces.flatMap Piece.source) pieces := by
  induction pieces with
  | nil => exact .nil
  | cons piece pieces ih =>
      obtain ⟨first, others⟩ := List.forall_mem_cons.mp plain
      rw [List.flatMap_cons]
      cases piece with
      | literal text =>
          refine (ih others).literal fun start within name occurs => ?_
          have opens := occurs.opens
          rw [List.getElem?_append_left within] at opens
          exact first _ (List.mem_of_getElem? opens) (by simp)
      | placeholder name => exact (ih others).placeholder first

namespace Template

theorem isName_of_isWordName {name : List Char} (isWordName : IsWordName name) :
    IsName (String.ofList name) :=
  isName_ofList isWordName.nonempty fun c member => isNameChar_of_isWord (isWordName.words c member)

variable {length levels fuel : Nat} {argument : Parser Node} {pending text rest : List Char}
  {pieces : List Piece}

theorem readNodes_literal (plain : (Piece.literal text).IsPlain) :
    readNodes length argument .top (text.length + fuel) pending (text ++ rest) =
      readNodes length argument .top fuel (text.reverse ++ pending) rest := by
  induction text generalizing pending with
  | nil => rw [List.length_nil, Nat.zero_add, List.nil_append, List.reverse_nil, List.nil_append]
  | cons c text ih =>
      obtain ⟨first, others⟩ := List.forall_mem_cons.mp plain
      simp only [List.mem_cons, List.not_mem_nil, or_false, not_or] at first
      have unquoted : opensQuote .top c = false := by simp [opensQuote, first]
      rw [List.length_cons, Nat.add_right_comm, List.cons_append,
        readNodes_plain unquoted first.2.2, ih others, List.reverse_cons, List.append_assoc]
      rfl

theorem readNodes_placeholder {name : List Char} {nodes : List Node} (isName : IsWordName name)
    (more : readNodes length (readArgument length (levels + 1)) .top fuel [] rest =
      .ok (nodes, [])) :
    readNodes length (readArgument length (levels + 1)) .top (fuel + 1) pending
        ((Piece.placeholder name).source ++ rest) =
      .ok (flush pending (.argument (String.ofList name) :: nodes), []) := by
  have written : (Piece.placeholder name).source =
      nodeSource .top (.argument (String.ofList name)) := by
    rw [nodeSource, String.toList_ofList, Piece.source]
  rw [written]
  exact readNodes_argument (argumentReadable_argument (isName_of_isWordName isName)) more

end Template

namespace CompiledTemplate

variable {template : CompiledTemplate} {params : Params} {pound : Option Binary64}
  {nodes : List Node} {text : String}

theorem renderNodes_flush (pending : List Char)
    (rendered : renderNodes template params nodes pound = .ok text) :
    renderNodes template params (Template.flush pending nodes) pound =
      .ok (String.ofList pending.reverse ++ text) := by
  cases pending with
  | nil => simpa [Template.flush] using rendered
  | cons c pending => simp only [Template.flush, renderNodes, renderNode, rendered]

theorem renderNodes_argument {name : List Char} {value : Json}
    (bound : params.get? (String.ofList name) = some value)
    (rendered : renderNodes template params nodes pound = .ok text) :
    renderNodes template params (.argument (String.ofList name) :: nodes) pound =
      .ok (String.ofList ((Piece.placeholder name).shown params) ++ text) := by
  simp only [renderNodes, renderNode, bound, rendered, Piece.shown, String.ofList_toList]

end CompiledTemplate

namespace Template

open CompiledTemplate (renderNodes renderNodes_flush renderNodes_argument)

/-- All placeholders among the parts have values. -/
def Bound (params : Params) (pieces : List Piece) : Prop :=
  ∀ name, .placeholder name ∈ pieces → ∃ value, params.get? (String.ofList name) = some value

/-- What the parts are read as is shown as they are, after the text that is pending. -/
theorem readNodes_plainPieces {length levels fuel : Nat} {pending : List Char}
    {pieces : List Piece} (plain : ∀ piece ∈ pieces, piece.IsPlain)
    (room : (pieces.flatMap Piece.source).length ≤ fuel) :
    ∃ nodes, readNodes length (readArgument length (levels + 1)) .top fuel pending
        (pieces.flatMap Piece.source) = .ok (nodes, []) ∧
      ∀ (template : CompiledTemplate) (params : Params), Bound params pieces →
        renderNodes template params nodes none =
          .ok (String.ofList (pending.reverse ++ pieces.flatMap (Piece.shown params))) := by
  induction pieces generalizing pending fuel with
  | nil =>
      refine ⟨flush pending [], readNodes_end .top, fun template params _ => ?_⟩
      rw [renderNodes_flush pending rfl, List.flatMap_nil, List.append_nil, String.append_empty]
  | cons piece pieces ih =>
      obtain ⟨first, others⟩ := List.forall_mem_cons.mp plain
      rw [List.flatMap_cons, List.length_append] at room
      rw [List.flatMap_cons]
      have later : ∀ params, Bound params (piece :: pieces) → Bound params pieces :=
        fun params bound name member => bound name (List.mem_cons_of_mem _ member)
      cases piece with
      | literal text =>
          obtain ⟨left, rfl⟩ := Nat.exists_eq_add_of_le (Nat.le_of_add_right_le room)
          obtain ⟨nodes, read, rendered⟩ := ih others (Nat.le_of_add_le_add_left room)
          refine ⟨nodes, (readNodes_literal first).trans read, fun template params bound => ?_⟩
          rw [rendered template params (later params bound), List.reverse_append,
            List.reverse_reverse, List.append_assoc]
          rfl
      | placeholder name =>
          rw [Piece.length_source_placeholder] at room
          obtain ⟨left, rfl⟩ := Nat.exists_eq_add_of_le' (show 1 ≤ fuel by omega)
          obtain ⟨nodes, read, rendered⟩ := @ih left [] others (by omega)
          refine ⟨_, readNodes_placeholder first read, fun template params bound => ?_⟩
          obtain ⟨value, found⟩ := bound name List.mem_cons_self
          have shown := renderNodes_argument found (rendered template params (later params bound))
          rw [renderNodes_flush pending shown]
          simp only [List.flatMap_cons, String.ofList_append, List.reverse_nil, List.nil_append]

/-- A plain message is accepted as a template, and with values for all its placeholders it is
rendered as it is interpolated, in every locale. -/
theorem evaluate_plainMessage {pieces : List Piece} (plain : ∀ piece ∈ pieces, piece.IsPlain)
    {params : Params} (bound : Bound params pieces) :
    ∃ nodes, parse (Piece.message pieces) = .ok nodes ∧
      ∀ locale, ∃ compiled,
        CompiledTemplate.compile (Piece.message pieces) locale = .ok compiled ∧
          compiled.evaluate params = .ok (interpolate (Piece.message pieces) params) := by
  have written : (Piece.message pieces).toList = pieces.flatMap Piece.source :=
    String.toList_ofList
  have read : ∀ length, ∃ nodes, readMessage length (readArgument length maxLevels) .top
      (pieces.flatMap Piece.source) = .ok (nodes, []) ∧
        ∀ (template : CompiledTemplate) (params : Params), Bound params pieces →
          renderNodes template params nodes none =
            .ok (String.ofList (pieces.flatMap (Piece.shown params))) :=
    fun length => readNodes_plainPieces plain (Nat.le_refl _)
  obtain ⟨nodes, read, rendered⟩ := read (Piece.message pieces).toList.length
  have parsed : parse (Piece.message pieces) = .ok nodes := by
    rw [← written] at read
    simp only [parse, read, ok_bind]
    rfl
  have interpolated : interpolate (Piece.message pieces) params =
      String.ofList (pieces.flatMap (Piece.shown params)) :=
    (written ▸ Partition.of_plain plain).interpolate params
  refine ⟨nodes, parsed, fun locale => ⟨⟨nodes, .ofLocale locale, .ofLocale locale⟩, ?_, ?_⟩⟩
  · simp only [CompiledTemplate.compile, parsed, ok_bind]
    rfl
  · rw [interpolated]
    exact rendered _ params bound

def greeting : List Piece :=
  [.literal "Dear ".toList, .placeholder "name".toList, .literal ", you are #".toList,
    .placeholder "rank".toList, .placeholder "note".toList, .literal "!".toList]

def greetingParams : Params :=
  .ofList [("name", .string "\x7brank\x7d"), ("note", .null), ("rank", .integer 7)]

theorem greeting_plain : ∀ piece ∈ greeting, piece.IsPlain := by
  decide +kernel

theorem greeting_bound : Bound greetingParams greeting := by
  intro name member
  simp only [greeting, List.mem_cons, List.not_mem_nil, or_false, reduceCtorEq, false_or,
    Piece.placeholder.injEq] at member
  rcases member with rfl | rfl | rfl
  · exact ⟨.string "\x7brank\x7d", by rfl⟩
  · exact ⟨.integer 7, by rfl⟩
  · exact ⟨.null, by rfl⟩

theorem evaluate_plainMessage_greeting :
    (∀ piece ∈ greeting, piece.IsPlain) ∧ Bound greetingParams greeting ∧
      interpolate (Piece.message greeting) greetingParams = "Dear \x7brank\x7d, you are #7!" ∧
      ∃ compiled, CompiledTemplate.compile (Piece.message greeting) "fr" = .ok compiled ∧
        compiled.evaluate greetingParams = .ok "Dear \x7brank\x7d, you are #7!" := by
  have shown : interpolate (Piece.message greeting) greetingParams =
      "Dear \x7brank\x7d, you are #7!" := by decide +kernel
  obtain ⟨nodes, parsed, rendered⟩ := evaluate_plainMessage greeting_plain greeting_bound
  rw [shown] at rendered
  exact ⟨greeting_plain, greeting_bound, shown, rendered "fr"⟩

end Template

end Phrasebook
