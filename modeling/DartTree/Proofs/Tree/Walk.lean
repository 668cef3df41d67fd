import DartTree.Tree.Preorder

/-! A walk with a stack of pending nodes comes to the nodes in the order of the
recursive listing, whatever the stack it is taken up with. -/
namespace DartTree

namespace Node

theorem preorder_eq (node : Node) : node.preorder = node :: preorderAll node.children := by
  cases node
  rfl

theorem preorderAll_append (left right : List Node) :
    preorderAll (left ++ right) = preorderAll left ++ preorderAll right := by
  induction left with
  | nil => rfl
  | cons node rest ih => rw [List.cons_append,preorderAll,preorderAll,ih,List.append_assoc]

theorem preorderAll_singleton (node : Node) : preorderAll [node] = node.preorder := by
  rw [preorderAll,preorderAll,List.append_nil]

mutual

theorem length_preorder (node : Node) : node.preorder.length = node.size := by
  obtain ⟨kind,span,text,children⟩ := node
  rw [preorder,size,List.length_cons,length_preorderAll children,Nat.add_comm]

theorem length_preorderAll (nodes : List Node) : (preorderAll nodes).length = sizeAll nodes := by
  cases nodes with
  | nil => rfl
  | cons node rest =>
    rw [preorderAll,sizeAll,List.length_append,length_preorder node,length_preorderAll rest]

end

end Node

theorem Cursor.pending_singleton (node : Node) : (Cursor.mk #[node]).pending = [node] := rfl

theorem Cursor.fold_eq {α : Type} (visit : α → Node → α) (cursor : Cursor) (state : α) :
    cursor.fold visit state = (Node.preorderAll cursor.pending).foldl visit state := by
  fun_induction Cursor.fold visit cursor state with
  | case1 cursor state step =>
    cases waiting : cursor.pending with
    | nil => rfl
    | cons first rest =>
      obtain ⟨after,taken,_⟩ := next_of_pending_cons waiting
      cases taken.symm.trans step
  | case2 cursor state node after step shorter ih =>
    cases waiting : cursor.pending with
    | nil => cases (next_of_pending_nil waiting).symm.trans step
    | cons first rest =>
      obtain ⟨next,taken,left⟩ := next_of_pending_cons waiting
      cases taken.symm.trans step
      rw [ih,left,Node.preorderAll_append,Node.preorderAll,Node.preorder_eq]
      rfl

end DartTree
