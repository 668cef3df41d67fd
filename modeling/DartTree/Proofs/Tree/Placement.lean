import DartTree.Proofs.Span.Enclosure
import DartTree.Tree.Preorder
import Mathlib.Tactic.Tauto

/-! Where the nodes of a tree stand: the nodes above each, and what it takes for
a file to be well formed. The latter is said of the nodes that a file lists and,
to prove things by, along the tree. -/
namespace DartTree

/-- A node of a tree and the nodes above it, the nearest first. -/
structure Site (α : Type) where
  above : List α
  node : α

def Site.level {α : Type} (site : Site α) : Nat := site.above.length + 1

/-- The level of what stands below `above` once the nodes that are `removed`
take up no level. -/
def levelBelow {α : Type} (removed : α → Bool) (above : List α) : Nat :=
  above.length + 1 - above.countP removed

theorem levelBelow_removed {α : Type} (removed : α → Bool) (above : List α) (node : α)
    (gone : removed node = true) : levelBelow removed (node :: above) = levelBelow removed above := by
  have bound := above.countP_le_length (p := removed)
  simp only [levelBelow,List.countP_cons,gone,if_true,List.length_cons]
  omega

theorem levelBelow_kept {α : Type} (removed : α → Bool) (above : List α) (node : α)
    (stays : removed node = false) :
    levelBelow removed (node :: above) = levelBelow removed above + 1 := by
  have bound := above.countP_le_length (p := removed)
  simp only [levelBelow,List.countP_cons,stays,Bool.false_eq_true,if_false,List.length_cons]
  omega

theorem levelBelow_le {α : Type} (removed : α → Bool) (above : List α) :
    levelBelow removed above ≤ above.length + 1 :=
  Nat.sub_le _ _

/-- Every span runs forward, every child lies inside its parent and every root
inside the source, and no node stands deeper than `limit`, roots at level 1. -/
structure File.WellFormed (file : File) (limit : Nat) : Prop where
  forward : ∀ node ∈ Node.preorderAll file.roots, node.span.start ≤ node.span.stop
  nested : ∀ node ∈ Node.preorderAll file.roots, ∀ child ∈ node.children,
    node.span.encloses child.span = true
  inside : ∀ root ∈ file.roots, (Span.mk 0 file.sourceLength).encloses root.span = true
  shallow : ∀ row ∈ Node.rowsAll 1 file.roots, row.level ≤ limit

namespace Node

mutual

def Lies (bounds : Span) : Node → Prop
  | ⟨_,span,_,children⟩ =>
    span.start ≤ span.stop ∧ bounds.encloses span = true ∧ LiesAll span children

def LiesAll (bounds : Span) : List Node → Prop
  | [] => True
  | node :: rest => node.Lies bounds ∧ LiesAll bounds rest

end

def Shallow (limit level : Nat) (nodes : List Node) : Prop :=
  ∀ row ∈ rowsAll level nodes, row.level ≤ limit

theorem liesAll_append (bounds : Span) (left right : List Node) :
    LiesAll bounds (left ++ right) ↔ LiesAll bounds left ∧ LiesAll bounds right := by
  induction left with
  | nil => simp [LiesAll]
  | cons node rest ih => simp [LiesAll,ih,and_assoc]

theorem liesAll_wider (outer inner : Span) (nodes : List Node)
    (wider : outer.encloses inner = true) (lies : LiesAll inner nodes) : LiesAll outer nodes := by
  induction nodes with
  | nil => exact lies
  | cons node rest ih =>
    obtain ⟨kind,span,text,children⟩ := node
    obtain ⟨⟨forward,enclosed,below⟩,others⟩ := lies
    exact ⟨⟨forward,Span.encloses_trans outer inner span wider enclosed,below⟩,ih others⟩

theorem rowsAll_append (level : Nat) (left right : List Node) :
    rowsAll level (left ++ right) = rowsAll level left ++ rowsAll level right := by
  induction left with
  | nil => rfl
  | cons node rest ih => rw [List.cons_append,rowsAll,rowsAll,ih,List.append_assoc]

theorem shallow_nil (limit level : Nat) : Shallow limit level [] := by
  simp [Shallow,rowsAll]

theorem shallow_cons (limit level : Nat) (kind : Kind) (span : Span) (text : Option String)
    (children rest : List Node) :
    Shallow limit level (⟨kind,span,text,children⟩ :: rest) ↔
      level ≤ limit ∧ Shallow limit (level + 1) children ∧ Shallow limit level rest := by
  simp only [Shallow,rowsAll,rows,List.mem_append,List.mem_cons,or_imp,forall_and,forall_eq,and_assoc]

theorem shallow_append (limit level : Nat) (left right : List Node) :
    Shallow limit level (left ++ right) ↔ Shallow limit level left ∧ Shallow limit level right := by
  simp only [Shallow,rowsAll_append,List.mem_append,or_imp,forall_and]

mutual

theorem lies_iff (bounds : Span) (node : Node) :
    node.Lies bounds ↔ bounds.encloses node.span = true ∧
      (∀ inner ∈ node.preorder, inner.span.start ≤ inner.span.stop) ∧
      ∀ inner ∈ node.preorder, ∀ child ∈ inner.children, inner.span.encloses child.span = true := by
  obtain ⟨kind,span,text,children⟩ := node
  have below := liesAll_iff span children
  simp only [Lies,preorder,below,List.mem_cons,or_imp,forall_and,forall_eq]
  tauto

theorem liesAll_iff (bounds : Span) (nodes : List Node) :
    LiesAll bounds nodes ↔ (∀ root ∈ nodes, bounds.encloses root.span = true) ∧
      (∀ inner ∈ preorderAll nodes, inner.span.start ≤ inner.span.stop) ∧
      ∀ inner ∈ preorderAll nodes, ∀ child ∈ inner.children,
        inner.span.encloses child.span = true := by
  cases nodes with
  | nil => simp [LiesAll,preorderAll]
  | cons node rest =>
    have first := lies_iff bounds node
    have others := liesAll_iff bounds rest
    simp only [LiesAll,preorderAll,first,others,List.mem_append,List.mem_cons,or_imp,forall_and,
      forall_eq]
    tauto

end

mutual

private theorem lies_encloses (bounds : Span) (node : Node) (lies : node.Lies bounds) :
    ∀ inner ∈ node.preorder, bounds.encloses inner.span = true := by
  obtain ⟨kind,span,text,children⟩ := node
  obtain ⟨_,enclosed,below⟩ := lies
  rw [preorder,List.forall_mem_cons]
  refine ⟨enclosed,?_⟩
  intro inner member
  exact Span.encloses_trans bounds span inner.span enclosed
    (liesAll_encloses span children below inner member)

theorem liesAll_encloses (bounds : Span) (nodes : List Node) (lies : LiesAll bounds nodes) :
    ∀ inner ∈ preorderAll nodes, bounds.encloses inner.span = true := by
  cases nodes with
  | nil => exact nofun
  | cons node rest =>
    rw [preorderAll,List.forall_mem_append]
    exact ⟨lies_encloses bounds node lies.1,liesAll_encloses bounds rest lies.2⟩

end

end Node

theorem File.wellFormed_iff (file : File) (limit : Nat) :
    file.WellFormed limit ↔
      Node.LiesAll ⟨0,file.sourceLength⟩ file.roots ∧ Node.Shallow limit 1 file.roots := by
  rw [Node.liesAll_iff]
  constructor
  · intro wellFormed
    exact ⟨⟨wellFormed.inside,wellFormed.forward,wellFormed.nested⟩,wellFormed.shallow⟩
  · rintro ⟨⟨inside,forward,nested⟩,shallow⟩
    exact ⟨forward,nested,inside,shallow⟩

end DartTree
