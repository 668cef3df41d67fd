import DartTree.View

/-! Visitors. A visitor has an operation for every role and overrides some of
them; an operation that is not overridden forwards to the role above, and the
root's does nothing. What an override does is a script: it may change the
visitor's state and make requests about the node it was called on. -/
namespace DartTree

/-- What an operation can ask for, always on the node it was called on. -/
inductive Request where
  /-- What the operation would do if it were not overridden. -/
  | forward
  | descend
  /-- The operation of the root role. -/
  | root
deriving DecidableEq, Repr, Inhabited

/-- A run of an overridden operation: requests, each made in some state of the
visitor and continued from the state it leaves. -/
inductive Script (σ : Type) where
  | done (state : σ)
  | ask (request : Request) (state : σ) (resume : σ → Script σ)

structure Answers (σ : Type) where
  forward : σ → σ
  descend : σ → σ
  root : σ → σ

namespace Answers

def answer {σ : Type} (answers : Answers σ) : Request → σ → σ
  | .forward => answers.forward
  | .descend => answers.descend
  | .root => answers.root

end Answers

def Script.run {σ : Type} (answers : Answers σ) : Script σ → σ
  | .done state => state
  | .ask request state resume => (resume (answers.answer request state)).run answers

structure Visitor (σ : Type) where
  override? : Role → Option (View → σ → Script σ)

namespace Visitor
variable {σ : Type}

/-- The operation of `role` on a node whose children are visited by `descend`.
Unless it is overridden it does what the operation of the role above does, and
the root's does nothing. The root's is not asked for by the root's itself. -/
def operate (visitor : Visitor σ) (node : Node) (descend : σ → σ) (role : Role) (state : σ) : σ :=
  let forward := fun reached =>
    match up : role.parent? with
    | none => reached
    | some above =>
      have _lower := Role.height_parent up
      visitor.operate node descend above reached
  let root := fun reached =>
    if top : role = .root then reached
    else
      have _lower := Role.height_root top
      visitor.operate node descend .root reached
  match visitor.override? role with
  | none => forward state
  | some body => (body ⟨role,node⟩ state).run ⟨forward,descend,root⟩
termination_by role.height

mutual

def accept (visitor : Visitor σ) : Node → σ → σ
  | ⟨kind,span,text,children⟩ =>
    visitor.operate ⟨kind,span,text,children⟩ (visitor.acceptAll children) (.kind kind)

def acceptAll (visitor : Visitor σ) : List Node → σ → σ
  | [], state => state
  | node :: rest, state => visitor.acceptAll rest (visitor.accept node state)

end

def acceptChildren (visitor : Visitor σ) (node : Node) (state : σ) : σ :=
  visitor.acceptAll node.children state

/-- The operation of a view's role on its node. -/
def visit (visitor : Visitor σ) (view : View) (state : σ) : σ :=
  visitor.operate view.node (visitor.acceptChildren view.node) view.role state

/-- However a node is viewed, it is accepted by its own kind. -/
def acceptView (visitor : Visitor σ) (view : View) (state : σ) : σ :=
  visitor.accept view.node state

def walk (visitor : Visitor σ) (node : Node) (state : σ) : σ :=
  (Cursor.mk #[node]).fold (fun reached below => visitor.accept below reached) state

def walkFile (visitor : Visitor σ) (file : File) (state : σ) : σ :=
  file.roots.foldl (fun reached root => visitor.walk root reached) state

def acceptRoots (visitor : Visitor σ) (file : File) (state : σ) : σ :=
  visitor.acceptAll file.roots state

end Visitor
end DartTree
