import DartTree.Interchange.Json
import DartTree.Proofs.Json.Grammar
import Mathlib.Logic.Relation

/-! The object of a node, in whatever order and however often its members come.
It is described by what its members say; how they may be spelled is a relation
to texts, and what they come to is given by the last of each field. -/
namespace DartTree
open Json

def nodeFields : List String := ["type","text","startIndex","endIndex","children"]

inductive NodeMember (ν : Type) where
  | type (name : String)
  | text (content : Option String)
  | start (offset : Offset)
  | stop (offset : Offset)
  | children (nodes : List ν)
  | other (key : String) (unknown : key ∉ nodeFields)

inductive NodeObject where
  | mk (members : List (NodeMember NodeObject))

namespace NodeMember
variable {ν α : Type}

def key : NodeMember ν → String
  | .type _ => "type"
  | .text _ => "text"
  | .start _ => "startIndex"
  | .stop _ => "endIndex"
  | .children _ => "children"
  | .other key _ => key

def type? : NodeMember ν → Option String
  | .type name => some name
  | _ => none

def text? : NodeMember ν → Option (Option String)
  | .text content => some content
  | _ => none

def start? : NodeMember ν → Option Offset
  | .start offset => some offset
  | _ => none

def stop? : NodeMember ν → Option Offset
  | .stop offset => some offset
  | _ => none

def children? : NodeMember ν → Option (List ν)
  | .children nodes => some nodes
  | _ => none

def lastOf (pick : NodeMember ν → Option α) (members : List (NodeMember ν)) : Option α :=
  members.reverse.findSome? pick

def missing? (members : List (NodeMember ν)) : Option String :=
  ["type","startIndex","endIndex"].find? fun field => members.all (·.key ≠ field)

def collect (members : List (NodeMember RawNode)) : RawNode where
  type := (lastOf type? members).getD default
  text := (lastOf text? members).join
  start := (lastOf start? members).getD default
  stop := (lastOf stop? members).getD default
  children := (lastOf children? members).getD []

end NodeMember

namespace NodeObject

def members : NodeObject → List (NodeMember NodeObject)
  | ⟨members⟩ => members

mutual

def node : NodeObject → RawNode
  | ⟨members⟩ => NodeMember.collect (saidAll members)

def saidAll : List (NodeMember NodeObject) → List (NodeMember RawNode)
  | [] => []
  | member :: rest => said member :: saidAll rest

def said : NodeMember NodeObject → NodeMember RawNode
  | .type name => .type name
  | .text content => .text content
  | .start offset => .start offset
  | .stop offset => .stop offset
  | .children objects => .children (nodes objects)
  | .other key unknown => .other key unknown

def nodes : List NodeObject → List RawNode
  | [] => []
  | object :: rest => object.node :: nodes rest

end

mutual

/-- The object with all that stand under it, in the order in which they close.
Those of a `children` member that does not count are among them. -/
def closing : NodeObject → List NodeObject
  | ⟨members⟩ => closingWithin members ++ [⟨members⟩]

def closingWithin : List (NodeMember NodeObject) → List NodeObject
  | [] => []
  | member :: rest => closingUnder member ++ closingWithin rest

def closingUnder : NodeMember NodeObject → List NodeObject
  | .children objects => closingAll objects
  | .type _ | .text _ | .start _ | .stop _ | .other _ _ => []

def closingAll : List NodeObject → List NodeObject
  | [] => []
  | object :: rest => object.closing ++ closingAll rest

end

def missing? (object : NodeObject) : Option String := NodeMember.missing? object.members

def verdict {α : Type} (missing : Option String) (result : α) : Read α :=
  match missing with
  | some field => refuse (.missingField field)
  | none => pure result

/-- What the object is read as: its node, or the first field missing from the
first incomplete object to close. -/
def outcome (object : NodeObject) : Read RawNode :=
  verdict (object.closing.findSome? missing?) object.node

mutual

/-- The texts of an object. Blanks may stand between any two parts, keys and
texts may be spelled with any escapes, and whatever is a value may stand under
an unknown key. -/
def Spelled : NodeObject → List Char → Prop
  | ⟨members⟩, text => ∃ entries, SpelledWithin members entries ∧
      Enclosed '{' '}' (entries.map Entry.text) text

def SpelledWithin : List (NodeMember NodeObject) → List Entry → Prop
  | [], entries => entries = []
  | member :: rest, entries => ∃ entry others, entries = entry :: others ∧
      Quoted member.key entry.key ∧ Holds member entry.item.value ∧ SpelledWithin rest others

def Holds : NodeMember NodeObject → List Char → Prop
  | .type name, text => Quoted name text
  | .text (some content), text => Quoted content text
  | .text none, text => text = ['n','u','l','l']
  | .start offset, text | .stop offset, text => text = Nat.toDigits 10 offset.toNat
  | .children objects, text => ∃ items, SpelledAll objects items ∧
      Enclosed '[' ']' (items.map Item.text) text
  | .other _ _, text => AnyValue text

def SpelledAll : List NodeObject → List Item → Prop
  | [], items => items = []
  | object :: rest, items => ∃ item others, items = item :: others ∧
      object.Spelled item.value ∧ SpelledAll rest others

end

def SpelledIn (object : NodeObject) (text : String) : Prop :=
  ∃ item : Item, object.Spelled item.value ∧ text = .ofList item.text

/-- One change that the node does not depend on, at any depth: members change
places with others of other keys, an unknown member is left out, or a child is
changed in the same way. -/
inductive Rearranged : NodeObject → NodeObject → Prop
  | permute (members others : List (NodeMember NodeObject))
      (order : ∀ key, members.filter (·.key = key) = others.filter (·.key = key)) :
      Rearranged ⟨members⟩ ⟨others⟩
  | leaveOut (before after : List (NodeMember NodeObject)) (key : String)
      (unknown : key ∉ nodeFields) :
      Rearranged ⟨before ++ .other key unknown :: after⟩ ⟨before ++ after⟩
  | inside (before after : List (NodeMember NodeObject)) (earlier later : List NodeObject)
      (child changed : NodeObject) (step : Rearranged child changed) :
      Rearranged ⟨before ++ .children (earlier ++ child :: later) :: after⟩
        ⟨before ++ .children (earlier ++ changed :: later) :: after⟩

end NodeObject

namespace NodeMember
variable {ν α : Type}

theorem lastOf_append (pick : NodeMember ν → Option α) (first second : List (NodeMember ν)) :
    lastOf pick (first ++ second) = (lastOf pick second).or (lastOf pick first) := by
  rw [lastOf,List.reverse_append,List.findSome?_append,lastOf,lastOf]

theorem lastOf_singleton (pick : NodeMember ν → Option α) (member : NodeMember ν) :
    lastOf pick [member] = pick member := by
  simp [lastOf]

private theorem lastOf_cons (pick : NodeMember ν → Option α) (member : NodeMember ν)
    (members : List (NodeMember ν)) :
    lastOf pick (member :: members) = (lastOf pick members).or (pick member) := by
  rw [← List.singleton_append,lastOf_append,lastOf_singleton]

def Picks (pick : NodeMember ν → Option α) (field : String) : Prop :=
  ∀ member, (pick member).isSome = true ↔ member.key = field

theorem picks_fields : Picks (@type? ν) "type" ∧ Picks (@text? ν) "text" ∧
    Picks (@start? ν) "startIndex" ∧ Picks (@stop? ν) "endIndex" ∧
    Picks (@children? ν) "children" := by
  refine ⟨?_,?_,?_,?_,?_⟩
  all_goals
    intro member
    cases member with
    | other name unknown =>
      simp only [nodeFields,List.mem_cons,List.not_mem_nil,or_false,not_or] at unknown
      simp [type?,text?,start?,stop?,children?,key,unknown]
    | _ => simp [type?,text?,start?,stop?,children?,key]

theorem lastOf_isNone (pick : NodeMember ν → Option α) (field : String) (picks : Picks pick field)
    (members : List (NodeMember ν)) :
    members.all (·.key ≠ field) = (lastOf pick members).isNone := by
  induction members with
  | nil => rfl
  | cons member rest ih =>
    rw [List.all_cons,ih,lastOf_cons,Option.isNone_or,Bool.and_comm]
    congr 1
    rw [← Option.not_isSome,Bool.eq_iff_iff]
    simpa using not_congr (picks member).symm

private theorem lastOf_filter (pick : NodeMember ν → Option α) (field : String)
    (picks : Picks pick field) (members : List (NodeMember ν)) :
    lastOf pick (members.filter (·.key = field)) = lastOf pick members := by
  induction members with
  | nil => rfl
  | cons member rest ih =>
    by_cases named : member.key = field
    · rw [List.filter_cons_of_pos (by simpa using named),lastOf_cons,lastOf_cons,ih]
    · have silent : pick member = none := by
        rw [← Option.not_isSome_iff_eq_none,picks member]
        exact named
      rw [List.filter_cons_of_neg (by simpa using named),lastOf_cons,silent,Option.or_none,ih]

def SameFields (left right : List (NodeMember ν)) : Prop :=
  ∀ field ∈ nodeFields, left.filter (·.key = field) = right.filter (·.key = field)

/-- The node depends on nothing but the members of each field and their order. -/
private theorem collect_congr (left right : List (NodeMember RawNode))
    (same : SameFields left right) :
    collect left = collect right := by
  obtain ⟨types,texts,starts,stops,lists⟩ := @picks_fields RawNode
  have last {α : Type} (pick : NodeMember RawNode → Option α) (field : String)
      (picks : Picks pick field) (known : field ∈ nodeFields) :
      lastOf pick left = lastOf pick right := by
    rw [← lastOf_filter pick field picks left,same field known,lastOf_filter pick field picks]
  rw [collect,collect,last type? "type" types (by decide),last text? "text" texts (by decide),
    last start? "startIndex" starts (by decide),last stop? "endIndex" stops (by decide),
    last children? "children" lists (by decide)]

private theorem missing?_of_present {μ : Type} (left : List (NodeMember ν))
    (right : List (NodeMember μ))
    (same : ∀ field ∈ nodeFields, left.all (·.key ≠ field) = right.all (·.key ≠ field)) :
    missing? left = missing? right := by
  rw [missing?,missing?]
  simp only [List.find?_cons,List.find?_nil]
  rw [same "type" (by decide),same "startIndex" (by decide),same "endIndex" (by decide)]

theorem missing?_of_keys {μ : Type} (left : List (NodeMember ν)) (right : List (NodeMember μ))
    (same : left.map key = right.map key) : missing? left = missing? right := by
  apply missing?_of_present
  intro field _
  have keys := congrArg (List.all · (· ≠ field)) same
  simpa only [List.all_map,Function.comp_def] using keys

private theorem missing?_congr (left right : List (NodeMember ν)) (same : SameFields left right) :
    missing? left = missing? right := by
  apply missing?_of_present
  intro field known
  have empty : left.filter (·.key = field) = [] ↔ right.filter (·.key = field) = [] := by
    rw [same field known]
  simp only [List.filter_eq_nil_iff,decide_eq_true_eq] at empty
  rw [Bool.eq_iff_iff,List.all_eq_true,List.all_eq_true]
  simpa only [ne_eq,decide_eq_true_eq] using empty

private theorem mem_congr (left right : List (NodeMember ν)) (same : SameFields left right)
    (member : NodeMember ν) (known : member.key ∈ nodeFields) : member ∈ left ↔ member ∈ right := by
  have listed := congrArg (member ∈ ·) (same member.key known)
  simpa using listed

end NodeMember

namespace NodeObject

theorem said_key (member : NodeMember NodeObject) : (said member).key = member.key := by
  cases member <;> rfl

theorem saidAll_eq_map (members : List (NodeMember NodeObject)) :
    saidAll members = members.map said := by
  induction members with
  | nil => rfl
  | cons member rest ih => rw [saidAll,ih,List.map_cons]

def Complete (object : NodeObject) : Prop := ∀ inner ∈ object.closing, inner.missing? = none

theorem outcome_eq_ok_iff (object : NodeObject) (node : RawNode) :
    object.outcome = .ok node ↔ object.Complete ∧ object.node = node := by
  rw [Complete,← List.findSome?_eq_none_iff,outcome]
  cases object.closing.findSome? missing? with
  | none => simp [verdict,pure,Except.pure]
  | some field => simp [verdict,refuse]

private theorem nodes_eq_map (objects : List NodeObject) : nodes objects = objects.map node := by
  induction objects with
  | nil => rfl
  | cons object rest ih => rw [nodes,ih,List.map_cons]

private theorem complete_iff (members : List (NodeMember NodeObject)) :
    Complete ⟨members⟩ ↔
      (∀ member ∈ members, ∀ inner ∈ closingUnder member, inner.missing? = none) ∧
        NodeMember.missing? members = none := by
  have within : (∀ inner ∈ closingWithin members, inner.missing? = none) ↔
      ∀ member ∈ members, ∀ inner ∈ closingUnder member, inner.missing? = none := by
    induction members with
    | nil => simp [closingWithin]
    | cons member rest ih => rw [closingWithin,List.forall_mem_append,List.forall_mem_cons,ih]
  rw [Complete,closing,List.forall_mem_append,List.forall_mem_singleton,within]
  rfl

private theorem complete_children (objects : List NodeObject) :
    (∀ inner ∈ closingUnder (.children objects), inner.missing? = none) ↔
      ∀ object ∈ objects, object.Complete := by
  rw [closingUnder]
  induction objects with
  | nil => simp [closingAll]
  | cons object rest ih =>
    rw [closingAll,List.forall_mem_append,List.forall_mem_cons,ih,Complete]

private theorem closing_key (member : NodeMember NodeObject) (inner : NodeObject)
    (under : inner ∈ closingUnder member) : member.key ∈ nodeFields := by
  cases member with
  | children objects => rw [NodeMember.key]; decide
  | _ => cases under

/-- Objects with the same members of each field, in the same order, are read
alike. -/
private theorem alike_of_fields (left right : List (NodeMember NodeObject))
    (same : NodeMember.SameFields left right) :
    node ⟨left⟩ = node ⟨right⟩ ∧ (Complete ⟨left⟩ ↔ Complete ⟨right⟩) := by
  constructor
  · rw [node,node,saidAll_eq_map,saidAll_eq_map]
    apply NodeMember.collect_congr
    intro field known
    simp only [List.filter_map,Function.comp_def,said_key,same field known]
  · have listed (member : NodeMember NodeObject) (inner : NodeObject)
        (under : inner ∈ closingUnder member) : member ∈ left ↔ member ∈ right :=
      NodeMember.mem_congr left right same member (closing_key member inner under)
    rw [complete_iff,complete_iff,NodeMember.missing?_congr left right same]
    -- Only members with objects under them matter here, and these have a known key.
    refine and_congr_left fun _ => forall_congr' fun member => ?_
    constructor
    · intro each within inner under
      exact each ((listed member inner under).mpr within) inner under
    · intro each within inner under
      exact each ((listed member inner under).mp within) inner under

private theorem alike_of_child (before after : List (NodeMember NodeObject))
    (earlier later : List NodeObject) (child changed : NodeObject)
    (same : child.node = changed.node) (complete : child.Complete ↔ changed.Complete) :
    node ⟨before ++ .children (earlier ++ child :: later) :: after⟩ =
        node ⟨before ++ .children (earlier ++ changed :: later) :: after⟩ ∧
      (Complete ⟨before ++ .children (earlier ++ child :: later) :: after⟩ ↔
        Complete ⟨before ++ .children (earlier ++ changed :: later) :: after⟩) := by
  constructor
  · simp only [node,saidAll_eq_map,List.map_append,List.map_cons,said,nodes_eq_map,same]
  · have keys : NodeMember.missing?
          (before ++ .children (earlier ++ child :: later) :: after) =
        NodeMember.missing? (before ++ .children (earlier ++ changed :: later) :: after) := by
      apply NodeMember.missing?_of_keys
      simp only [List.map_append,List.map_cons]
      rfl
    simp only [complete_iff,List.forall_mem_append,List.forall_mem_cons,complete_children,complete,
      keys]

/-- One change keeps the node and whether it is complete, but not which of several
missing fields is met first. -/
private theorem rearranged_alike (object other : NodeObject) (step : Rearranged object other) :
    object.node = other.node ∧ (object.Complete ↔ other.Complete) := by
  induction step with
  | permute members others order =>
    exact alike_of_fields members others fun field _ => order field
  | leaveOut before after key unknown =>
    apply alike_of_fields
    intro field known
    have apart : (NodeMember.other key unknown : NodeMember NodeObject).key ≠ field := by
      rintro rfl
      exact unknown known
    rw [List.filter_append,List.filter_append,List.filter_cons_of_neg (by simpa using apart)]
  | inside before after earlier later child changed step ih =>
    exact alike_of_child before after earlier later child changed ih.1 ih.2

/-- Any number of changes, back or forth, keep the result if there is one. -/
theorem outcome_rearranged (object other : NodeObject) (node : RawNode)
    (changes : Relation.EqvGen Rearranged object other) :
    object.outcome = .ok node ↔ other.outcome = .ok node := by
  induction changes with
  | rel object other step =>
    obtain ⟨same,complete⟩ := rearranged_alike object other step
    rw [outcome_eq_ok_iff,outcome_eq_ok_iff,same,complete]
  | refl object => rfl
  | symm object other changes ih => exact ih.symm
  | trans object middle other first second ih ih' => exact ih.trans ih'

end NodeObject
end DartTree
