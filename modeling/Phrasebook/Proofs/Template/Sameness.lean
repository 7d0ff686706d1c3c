import Phrasebook.Proofs.Number.Equality
import Phrasebook.Proofs.Template.WellFormed

namespace Phrasebook

namespace Selector

theorem same_self {selector : Selector} (isNumber : selector ≠ .exact .nan) :
    selector.same selector = true := by
  cases selector with
  | category name => exact beq_self_eq_true name
  | exact number =>
      have notNan : number ≠ .nan := mt (congrArg exact) isNumber
      exact Binary64.equals_self notNan

end Selector

namespace Template

mutual

/-- Equality of nodes, where numbers are compared by value. -/
def sameNode : Node → Node → Bool
  | .text left, .text right => left == right
  | .argument left, .argument right => left == right
  | .number left, .number right => left == right
  | .pound, .pound => true
  | .plural left leftKind leftOffset leftOptions, .plural right rightKind rightOffset rightOptions =>
      left == right && leftKind == rightKind && leftOffset.equals rightOffset &&
        samePlural leftOptions rightOptions
  | .select left leftOptions, .select right rightOptions =>
      left == right && sameSelect leftOptions rightOptions
  | _, _ => false
termination_by structural left => left

def sameMessage : List Node → List Node → Bool
  | [], [] => true
  | left :: lefts, right :: rights => sameNode left right && sameMessage lefts rights
  | _, _ => false
termination_by structural left => left

def samePlural : List (Selector × List Node) → List (Selector × List Node) → Bool
  | [], [] => true
  | (left, leftBody) :: lefts, (right, rightBody) :: rights =>
      left.same right && sameMessage leftBody rightBody && samePlural lefts rights
  | _, _ => false
termination_by structural left => left

def sameSelect : List (String × List Node) → List (String × List Node) → Bool
  | [], [] => true
  | (left, leftBody) :: lefts, (right, rightBody) :: rights =>
      left == right && sameMessage leftBody rightBody && sameSelect lefts rights
  | _, _ => false
termination_by structural left => left

end

mutual

/-- A node with the one zero for both as an offset. -/
def unsignedNode : Node → Node
  | .plural name kind offset options =>
      .plural name kind offset.unsignedZero (unsignedPlural options)
  | .select name options => .select name (unsignedSelect options)
  | node => node

def unsignedMessage : List Node → List Node
  | [] => []
  | node :: nodes => unsignedNode node :: unsignedMessage nodes

def unsignedPlural : List (Selector × List Node) → List (Selector × List Node)
  | [] => []
  | (selector, body) :: options => (selector, unsignedMessage body) :: unsignedPlural options

def unsignedSelect : List (String × List Node) → List (String × List Node)
  | [] => []
  | (key, body) :: options => (key, unsignedMessage body) :: unsignedSelect options

end

theorem unsignedPlural_eq_map (options : List (Selector × List Node)) :
    unsignedPlural options = options.map fun option => (option.1, unsignedMessage option.2) := by
  induction options with
  | nil => rfl
  | cons option options ih => rw [List.map_cons, ← ih, unsignedPlural]

theorem unsignedSelect_eq_map (options : List (String × List Node)) :
    unsignedSelect options = options.map fun option => (option.1, unsignedMessage option.2) := by
  induction options with
  | nil => rfl
  | cons option options ih => rw [List.map_cons, ← ih, unsignedSelect]

theorem unsignedMessage_eq_map (nodes : List Node) :
    unsignedMessage nodes = nodes.map unsignedNode := by
  induction nodes with
  | nil => rfl
  | cons node nodes ih => rw [List.map_cons, ← ih, unsignedMessage]

/-- No offset and no selector of a template is `nan`. -/
def NanFree (template : List Node) : Prop :=
  ∀ {context around nodes}, Message template context around nodes →
    ∀ name kind offset options, .plural name kind offset options ∈ nodes →
      offset ≠ .nan ∧ ∀ option ∈ options, option.1 ≠ .exact .nan

/-- No offset of a template is the negative zero. -/
def PlainOffsets (template : List Node) : Prop :=
  ∀ {context around nodes}, Message template context around nodes →
    ∀ name kind offset options, .plural name kind offset options ∈ nodes →
      offset ≠ .finite true .zero

theorem sameMessage_map {change : Node → Node} {nodes : List Node}
    (same : ∀ node ∈ nodes, sameNode (change node) node = true) :
    sameMessage (nodes.map change) nodes = true := by
  induction nodes with
  | nil => rfl
  | cons node nodes ih =>
      obtain ⟨first, others⟩ := List.forall_mem_cons.mp same
      rw [List.map_cons, sameMessage, first, ih others]
      rfl

theorem samePlural_map {change : List Node → List Node} {options : List (Selector × List Node)}
    (selectors : ∀ option ∈ options, option.1.same option.1 = true)
    (bodies : ∀ option ∈ options, sameMessage (change option.2) option.2 = true) :
    samePlural (options.map fun option => (option.1, change option.2)) options = true := by
  induction options with
  | nil => rfl
  | cons option options ih =>
      obtain ⟨selector, otherSelectors⟩ := List.forall_mem_cons.mp selectors
      obtain ⟨body, otherBodies⟩ := List.forall_mem_cons.mp bodies
      rw [List.map_cons, samePlural, selector, body, ih otherSelectors otherBodies]
      rfl

theorem sameSelect_map {change : List Node → List Node} {options : List (String × List Node)}
    (bodies : ∀ option ∈ options, sameMessage (change option.2) option.2 = true) :
    sameSelect (options.map fun option => (option.1, change option.2)) options = true := by
  induction options with
  | nil => rfl
  | cons option options ih =>
      obtain ⟨body, otherBodies⟩ := List.forall_mem_cons.mp bodies
      rw [List.map_cons, sameSelect, body, ih otherBodies, beq_self_eq_true]
      rfl

theorem map_snd_eq_self {κ α : Type} {change : α → α} {options : List (κ × α)}
    (same : ∀ option ∈ options, change option.2 = option.2) :
    (options.map fun option => (option.1, change option.2)) = options := by
  have each : ∀ option ∈ options, (option.1, change option.2) = id option := by
    intro option among
    rw [same option among, id]
  rw [List.map_congr_left each, List.map_id]

variable {template nodes : List Node} {context : Context} {around : Nat}

theorem sameMessage_unsigned (wellFormed : WellFormed template) (nanFree : NanFree template)
    (message : Message template context around nodes) :
    sameMessage (unsignedMessage nodes) nodes = true := by
  induction message using wellFormed.inward with
  | step message plurals selects =>
      rw [unsignedMessage_eq_map]
      refine sameMessage_map fun node member => ?_
      cases node with
      | text text => exact beq_self_eq_true text
      | argument name => exact beq_self_eq_true name
      | number name => exact beq_self_eq_true name
      | pound => rfl
      | plural name kind offset options =>
          obtain ⟨isNumber, selectors⟩ := nanFree message name kind offset options member
          have sameOffset := Binary64.unsignedZero_equals isNumber
          have sameOptions := samePlural_map
            (fun option among => Selector.same_self (selectors option among))
            (plurals name kind offset options member)
          rw [unsignedNode, sameNode, sameOffset, unsignedPlural_eq_map, sameOptions]
          simp
      | select name options =>
          have sameOptions := sameSelect_map (selects name options member)
          rw [unsignedNode, sameNode, unsignedSelect_eq_map, sameOptions]
          simp

theorem unsignedMessage_eq_self (wellFormed : WellFormed template)
    (plain : PlainOffsets template) (message : Message template context around nodes) :
    unsignedMessage nodes = nodes := by
  induction message using wellFormed.inward with
  | @step context around nodes message plurals selects =>
      have same : ∀ node ∈ nodes, unsignedNode node = id node := by
        intro node member
        cases node with
        | plural name kind offset options =>
            have sameOffset := Binary64.unsignedZero_eq_self
              (plain message name kind offset options member)
            have sameOptions : unsignedPlural options = options := by
              rw [unsignedPlural_eq_map]
              exact map_snd_eq_self (plurals name kind offset options member)
            rw [unsignedNode, sameOffset, sameOptions, id]
        | select name options =>
            have sameOptions : unsignedSelect options = options := by
              rw [unsignedSelect_eq_map]
              exact map_snd_eq_self (selects name options member)
            rw [unsignedNode, sameOptions, id]
        | _ => rfl
      rw [unsignedMessage_eq_map, List.map_congr_left same, List.map_id]

end Template

end Phrasebook
