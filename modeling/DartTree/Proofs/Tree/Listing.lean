import DartTree.Proofs.Tree.Walk
import Mathlib.Data.List.Sort

/-! What a walk lists, from every state of it. Asked again and again a cursor
gives the preorder of all that is on its stack and then nothing for ever. A node
may look like another in the same tree, so that the listing is compared with the
places of the nodes: the way down to each from the top, by number of child. -/
namespace DartTree

/-- The way down to a node: the number of the child that is taken at each level. -/
abbrev Place := List Nat

namespace Node

def at? (node : Node) : Place → Option Node
  | [] => some node
  | index :: below => node.children[index]?.bind fun child => child.at? below

mutual

def places : Node → List Place
  | ⟨_,_,_,children⟩ => [] :: placesFrom 0 children

def placesFrom (index : Nat) : List Node → List Place
  | [] => []
  | node :: rest => node.places.map (index :: ·) ++ placesFrom (index + 1) rest

end

private theorem places_eq (node : Node) : node.places = [] :: placesFrom 0 node.children := by
  cases node
  rfl

private theorem mem_placesFrom (index : Nat) (nodes : List Node) (place : Place) :
    place ∈ placesFrom index nodes ↔
      ∃ offset child below, nodes[offset]? = some child ∧ below ∈ child.places ∧
        place = (index + offset) :: below := by
  induction nodes generalizing index with
  | nil => simp [placesFrom]
  | cons node rest ih =>
    rw [placesFrom,List.mem_append,List.mem_map,ih]
    constructor
    · rintro (⟨below,member,rfl⟩ | ⟨offset,child,below,found,member,rfl⟩)
      · exact ⟨0,node,below,rfl,member,rfl⟩
      · exact ⟨offset + 1,child,below,found,member,by rw [Nat.add_right_comm,Nat.add_assoc]⟩
    · rintro ⟨_ | offset,child,below,found,member,rfl⟩
      · cases found
        exact .inl ⟨below,member,rfl⟩
      · exact .inr ⟨offset,child,below,found,member,by rw [Nat.add_right_comm,Nat.add_assoc]⟩

theorem mem_places_iff (node : Node) (place : Place) :
    place ∈ node.places ↔ (node.at? place).isSome = true := by
  induction place generalizing node with
  | nil => simp [places_eq,at?]
  | cons index below ih =>
    rw [places_eq,List.mem_cons,mem_placesFrom,at?]
    simp only [reduceCtorEq,false_or,Nat.zero_add,List.cons.injEq]
    constructor
    · rintro ⟨_,child,_,found,member,rfl,rfl⟩
      rw [found,Option.bind_some]
      exact (ih child).mp member
    · intro present
      obtain ⟨child,found⟩ := Option.isSome_iff_exists.mp (Option.isSome_of_isSome_bind present)
      rw [found,Option.bind_some] at present
      exact ⟨index,child,below,found,(ih child).mpr present,rfl,rfl⟩

mutual

private theorem map_at_places (node : Node) :
    node.places.map node.at? = node.preorder.map some := by
  obtain ⟨kind,span,text,children⟩ := node
  have below := map_at_placesFrom ⟨kind,span,text,children⟩ [] children rfl
  rw [places,preorder,List.map_cons,List.map_cons]
  exact congrArg (List.cons _) below

private theorem map_at_placesFrom (node : Node) (before after : List Node)
    (split : node.children = before ++ after) :
    (placesFrom before.length after).map node.at? = (preorderAll after).map some := by
  cases after with
  | nil => rfl
  | cons child rest =>
    have taken : node.children[before.length]? = some child := by
      rw [split,List.getElem?_append_right (Nat.le_refl _),Nat.sub_self]
      rfl
    have inside (below : Place) : node.at? (before.length :: below) = child.at? below := by
      rw [at?,taken,Option.bind_some]
    have first := map_at_places child
    have others := map_at_placesFrom node (before ++ [child]) rest
      (by rw [split,List.append_assoc,List.singleton_append])
    rw [List.length_append,List.length_singleton] at others
    rw [placesFrom,preorderAll,List.map_append,List.map_append,others,List.map_map,← first]
    congr 2
    funext below
    exact inside below

end

-- Dictionary order on places: a place comes before those below it, and the places
-- below a child before those below a later one.
mutual

private theorem places_ascend (node : Node) : node.places.Pairwise (· < ·) := by
  obtain ⟨kind,span,text,children⟩ := node
  rw [places,List.pairwise_cons]
  refine ⟨?_,placesFrom_ascend 0 children⟩
  intro place member
  obtain ⟨offset,_,below,_,_,rfl⟩ := (mem_placesFrom 0 children place).mp member
  exact List.nil_lt_cons _ below

private theorem placesFrom_ascend (index : Nat) (nodes : List Node) :
    (placesFrom index nodes).Pairwise (· < ·) := by
  cases nodes with
  | nil => exact List.Pairwise.nil
  | cons node rest =>
    rw [placesFrom,List.pairwise_append,List.pairwise_map]
    refine ⟨?_,placesFrom_ascend (index + 1) rest,?_⟩
    · apply (places_ascend node).imp
      intro first second before
      exact List.cons_lt_cons_iff.mpr (.inr ⟨rfl,before⟩)
    · intro first here second later
      obtain ⟨below,_,rfl⟩ := List.mem_map.mp here
      obtain ⟨offset,_,_,_,_,rfl⟩ := (mem_placesFrom (index + 1) rest second).mp later
      exact List.cons_lt_cons_iff.mpr (.inl (by omega))

end

private theorem places_before (node : Node) (first second : Place) (one : first ∈ node.places)
    (two : second ∈ node.places) (before : first < second) :
    [first,second].Sublist node.places := by
  have pair : [first,second].Pairwise (· < ·) := List.pairwise_pair.mpr before
  have inside : [first,second] ⊆ node.places := by
    intro place member
    rcases List.mem_pair.mp member with rfl | rfl
    · exact one
    · exact two
  exact List.sublist_of_subperm_of_pairwise (List.subperm_of_subset pair.nodup inside) pair
    (places_ascend node)

/-- A list of the node and of everything below it, place by place: every place is
there once, after the place above it and before the later ones beside it. -/
structure Listed (node : Node) (places : List Place) (listing : List Node) : Prop where
  same : places.map node.at? = listing.map some
  complete : ∀ place, place ∈ places ↔ (node.at? place).isSome = true
  once : places.Nodup
  afterParent : ∀ above index, above ++ [index] ∈ places →
    [above,above ++ [index]].Sublist places
  beforeLater : ∀ above index below later, index < later → above ++ index :: below ∈ places →
    above ++ [later] ∈ places → [above ++ index :: below,above ++ [later]].Sublist places

private theorem at_append (node : Node) (above below : Place) :
    node.at? (above ++ below) = (node.at? above).bind fun inner => inner.at? below := by
  induction above generalizing node with
  | nil => rfl
  | cons index rest ih =>
    rw [List.cons_append,at?,at?]
    cases node.children[index]? with
    | none => rfl
    | some child => exact ih child

private theorem preorder_listed (node : Node) : node.Listed node.places node.preorder where
  same := map_at_places node
  complete := mem_places_iff node
  once := (places_ascend node).nodup
  afterParent := by
    intro above index member
    have parent : above ∈ node.places := by
      rw [mem_places_iff,at_append] at member
      rw [mem_places_iff]
      exact Option.isSome_of_isSome_bind member
    have before : above < above ++ [index] := by
      conv_lhs => rw [← List.append_nil above]
      exact List.append_left_lt (List.nil_lt_cons index [])
    exact places_before node _ _ parent member before
  beforeLater := by
    intro above index below later less one two
    exact places_before node _ _ one two
      (List.append_left_lt (List.cons_lt_cons_iff.mpr (.inl less)))

theorem preorderAll_eq_flatMap (nodes : List Node) :
    preorderAll nodes = nodes.flatMap preorder := by
  induction nodes with
  | nil => rfl
  | cons node rest ih => rw [preorderAll,List.flatMap_cons,ih]

end Node

namespace Cursor

def advance (cursor : Cursor) : Cursor := (cursor.next?.map Prod.snd).getD cursor

def answer (cursor : Cursor) : (asked : Nat) → Option Node
  | 0 => cursor.next?.map Prod.fst
  | asked + 1 => cursor.advance.answer asked

theorem answer_eq (cursor : Cursor) (asked : Nat) :
    cursor.answer asked = (Node.preorderAll cursor.pending)[asked]? := by
  induction asked generalizing cursor with
  | zero =>
    cases waiting : cursor.pending with
    | nil => rw [answer,next_of_pending_nil waiting]; rfl
    | cons node rest =>
      obtain ⟨after,taken,_⟩ := next_of_pending_cons waiting
      rw [answer,taken,Node.preorderAll,Node.preorder_eq]
      rfl
  | succ asked ih =>
    rw [answer,ih,advance]
    cases waiting : cursor.pending with
    | nil =>
      rw [next_of_pending_nil waiting,Option.map_none,Option.getD_none,waiting]
      rfl
    | cons node rest =>
      obtain ⟨after,taken,left⟩ := next_of_pending_cons waiting
      rw [taken,Option.map_some,Option.getD_some,left,Node.preorderAll,Node.preorder_eq,
        Node.preorderAll_append,List.cons_append,List.getElem?_cons_succ]

theorem toList_eq (cursor : Cursor) : cursor.toList = Node.preorderAll cursor.pending := by
  have gathered (listing found : List Node) :
      listing.foldl (fun visited node => node :: visited) found = listing.reverse ++ found := by
    induction listing generalizing found with
    | nil => rfl
    | cons node rest ih => rw [List.foldl_cons,ih,List.reverse_cons,List.append_assoc]; rfl
  rw [toList,fold_eq,gathered,List.append_nil,List.reverse_reverse]

end Cursor

theorem Node.descendants_eq (node : Node) : node.descendants = node.preorder := by
  rw [descendants,Cursor.toList_eq,Cursor.pending_singleton,preorderAll_singleton]

/-- From whatever stack it is taken up with, a walk gives the preorder of each
node on it, from top to bottom, and then nothing for ever. So the descendants of
a node are it and all below it, each once, after its parent and before the later
children of its parent, and those of a file are those of its roots in order. -/
theorem Cursor.answers_preorder (cursor : Cursor) (node : Node) (file : File) :
    (∀ asked, cursor.answer asked = (cursor.pending.flatMap Node.preorder)[asked]?) ∧
      cursor.toList = cursor.pending.flatMap Node.preorder ∧
      node.Listed node.places node.descendants ∧
      node.descendants.length = node.size ∧
      file.descendants = file.roots.flatMap Node.preorder := by
  have listed := Node.descendants_eq
  refine ⟨?_,?_,?_,?_,?_⟩
  · intro asked
    rw [answer_eq,Node.preorderAll_eq_flatMap]
  · rw [toList_eq,Node.preorderAll_eq_flatMap]
  · rw [listed]
    exact node.preorder_listed
  · rw [listed,Node.length_preorder]
  · rw [File.descendants,funext listed]

end DartTree
