import DartTree.Tree.Node

/-! Listing a tree with every node before its children. The listing is given
twice, by recursion over the tree and by a cursor with a stack of pending
nodes, and once more as rows that keep the level of each node. -/
namespace DartTree

namespace Node

mutual

def size : Node → Nat
  | ⟨_,_,_,children⟩ => 1 + sizeAll children

def sizeAll : List Node → Nat
  | [] => 0
  | node :: rest => node.size + sizeAll rest

end

mutual

def preorder : Node → List Node
  | ⟨kind,span,text,children⟩ => ⟨kind,span,text,children⟩ :: preorderAll children

def preorderAll : List Node → List Node
  | [] => []
  | node :: rest => node.preorder ++ preorderAll rest

end

theorem size_eq (node : Node) : node.size = 1 + sizeAll node.children := by
  cases node; rfl

theorem sizeAll_append (left right : List Node) :
    sizeAll (left ++ right) = sizeAll left + sizeAll right := by
  induction left with
  | nil => simp [sizeAll]
  | cons node rest ih => simp [sizeAll,ih,Nat.add_assoc]

end Node

/-- A walk through a forest that is under way: the nodes still to be visited
with all below them, the next one on top, at the end of the stack. -/
structure Cursor where
  stack : Array Node

namespace Cursor

/-- The next node and the walk after it. The children go on top of what is left,
the last of them first, so that the first is the next. -/
def next? (cursor : Cursor) : Option (Node × Cursor) :=
  cursor.stack.back?.map fun node => (node,⟨cursor.stack.pop ++ node.children.reverse⟩)

/-- The stack from top to bottom. -/
def pending (cursor : Cursor) : List Node := cursor.stack.toList.reverse

theorem next_of_pending_nil {cursor : Cursor} (idle : cursor.pending = []) :
    cursor.next? = none := by
  have empty : cursor.stack = #[] := by simpa [pending] using idle
  simp [next?,empty]

/-- What is pushed in reverse comes off in order. -/
theorem next_of_pending_cons {cursor : Cursor} {node : Node} {rest : List Node}
    (waiting : cursor.pending = node :: rest) :
    ∃ after, cursor.next? = some (node,after) ∧ after.pending = node.children ++ rest := by
  have top : cursor.stack = rest.reverse.toArray.push node := by
    rw [pending,List.reverse_eq_iff] at waiting
    rw [← cursor.stack.toArray_toList,waiting]
    simp
  refine ⟨_,by rw [next?,top,Array.back?_push,Option.map_some],?_⟩
  simp [pending]

def size (cursor : Cursor) : Nat := Node.sizeAll cursor.pending

theorem size_next {cursor after : Cursor} {node : Node}
    (step : cursor.next? = some (node,after)) : after.size < cursor.size := by
  cases waiting : cursor.pending with
  | nil => rw [next_of_pending_nil waiting] at step; cases step
  | cons first rest =>
    obtain ⟨next,taken,left⟩ := next_of_pending_cons waiting
    cases taken.symm.trans step
    rw [size,size,left,waiting,Node.sizeAll_append,Node.sizeAll,Node.size_eq]
    omega

def fold {α : Type} (visit : α → Node → α) (cursor : Cursor) (state : α) : α :=
  match step : cursor.next? with
  | none => state
  | some (node,after) =>
    have _shorter := size_next step
    fold visit after (visit state node)
termination_by cursor.size

def toList (cursor : Cursor) : List Node :=
  (cursor.fold (fun visited node => node :: visited) []).reverse

end Cursor

def Node.descendants (node : Node) : List Node := (Cursor.mk #[node]).toList

def File.descendants (file : File) : List Node := file.roots.flatMap Node.descendants

/-- A node without its children, and the level it stands at. -/
structure Row where
  level : Nat
  kind : Kind
  span : Span
  text : Option String
deriving DecidableEq, Repr, Inhabited

namespace Node

mutual

def rows (level : Nat) : Node → List Row
  | ⟨kind,span,text,children⟩ => ⟨level,kind,span,text⟩ :: rowsAll (level + 1) children

def rowsAll (level : Nat) : List Node → List Row
  | [] => []
  | node :: rest => node.rows level ++ rowsAll level rest

end

end Node
end DartTree
