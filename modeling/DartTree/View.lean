import DartTree.Grammar.Role
import DartTree.Tree.Preorder

/-! Typed views: a node together with the role it is seen in. Views arise from
casts, which check the kind of the node, and from steps up the roles, which
keep the node. -/
namespace DartTree

structure View where
  role : Role
  node : Node
deriving DecidableEq

namespace Node

def cast? (node : Node) (role : Role) : Option View :=
  if role.canView node.kind then some ⟨role,node⟩ else none

def castFacet? (node : Node) (role : Role) : Option View :=
  if role.admits node.kind then some ⟨role,node⟩ else none

theorem cast_eq_some_iff (node : Node) (role : Role) (view : View) :
    node.cast? role = some view ↔ role.canView node.kind = true ∧ ⟨role,node⟩ = view := by
  rw [cast?,Option.ite_none_right_eq_some,Option.some.injEq]

theorem castFacet_eq_some_iff (node : Node) (role : Role) (view : View) :
    node.castFacet? role = some view ↔ role.admits node.kind = true ∧ ⟨role,node⟩ = view := by
  rw [castFacet?,Option.ite_none_right_eq_some,Option.some.injEq]

end Node

namespace View

def upcast? (view : View) : Option View := view.role.parent?.map (⟨·,view.node⟩)

def asElement (view : View) : View := ⟨.root,view.node⟩

/-- The views a view converts to: one role up, and the role of every node
where that is a further one. -/
def upcasts (view : View) : List View :=
  match view.upcast? with
  | none => []
  | some above => if above.role = .root then [above] else [above,view.asElement]

def findChildOf (view : View) (role : Role) : Option View :=
  view.node.children.findSome? (·.cast? role)

def findChildrenOf (view : View) (role : Role) : List View :=
  view.node.children.filterMap (·.cast? role)

def typeRef (view : View) : Option View := view.findChildOf (.kind .type)

def componentName (view : View) : Option View := view.findChildOf (.kind .componentName)

/-- The identifier a name part consists of: the text of its `id` child or else
its own. -/
def identifier (view : View) : Option String :=
  ((view.findChildOf (.kind .id)).bind (·.node.text)).or view.node.text

def declaredName (view : View) : Option String := view.componentName.bind identifier

def body (view : View) : Option View := view.findChildOf (.category .scope)

end View
end DartTree
