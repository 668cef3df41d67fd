import DartTree.Proofs.Visitor.Dispatch

/-! Walking and going down by hand. A walk comes to the nodes by a stack of its
own; a visitor that goes on to the children from each of its operations comes to
them by recursion through dispatch. Where the operations do nothing but change
the state, both visit every node once, each before the nodes below it, and end
in the same state. -/
namespace DartTree

def Script.thenDescend {σ : Type} : Script σ → Script σ
  | .done state => .ask .descend state .done
  | .ask request state resume => .ask request state fun reached => (resume reached).thenDescend

private theorem Script.run_thenDescend {σ : Type} (answers : Answers σ) (script : Script σ) :
    script.thenDescend.run answers = answers.descend (script.run answers) := by
  induction script with
  | done state => rfl
  | ask request state resume ih => exact ih (answers.answer request state)

namespace Visitor
variable {σ : Type}

/-- The bodies of the overridden operations change the state and ask for nothing. -/
def Quiet (visitor : Visitor σ) : Prop :=
  ∀ role body, visitor.override? role = some body →
    ∀ view state, ∃ after, body view state = .done after

/-- The visitor that goes on to the children after each of its bodies, and from
the root where it has no body of its own. -/
def descending (visitor : Visitor σ) : Visitor σ where
  override? role :=
    match visitor.override? role with
    | some body => some fun view state => (body view state).thenDescend
    | none => if role = .root then some fun _ state => .ask .descend state .done else none

private theorem descending_some (visitor : Visitor σ) (role : Role) (body : View → σ → Script σ)
    (overridden : visitor.override? role = some body) :
    visitor.descending.override? role = some fun view state => (body view state).thenDescend := by
  simp only [descending,overridden]

private theorem descending_root (visitor : Visitor σ) (inherited : visitor.override? .root = none) :
    visitor.descending.override? .root = some fun _ state => .ask .descend state .done := by
  simp only [descending,inherited,if_true]

private theorem descending_none (visitor : Visitor σ) (role : Role) (below : role ≠ .root)
    (inherited : visitor.override? role = none) : visitor.descending.override? role = none := by
  simp only [descending,inherited,if_neg below]

/-- One operation: what the visitor does, and then the children. Along the chain
the two visitors are caught at the same role, or else both come to the root. -/
private theorem visit_descending (visitor : Visitor σ) (quiet : visitor.Quiet) (role : Role)
    (node : Node) (state : σ) :
    visitor.descending.visit ⟨role,node⟩ state =
      visitor.descending.acceptChildren node (visitor.visit ⟨role,node⟩ state) := by
  rw [visit_eq visitor,visit_eq visitor.descending]
  cases overridden : visitor.override? role with
  | some body =>
    obtain ⟨after,changed⟩ := quiet role body overridden ⟨role,node⟩ state
    rw [descending_some visitor role body overridden]
    simp only [Script.run_thenDescend,changed]
    rfl
  | none =>
    cases up : role.parent? with
    | none =>
      obtain rfl := Role.eq_root_of_parent up
      rw [descending_root visitor overridden]
      rfl
    | some above =>
      have below : role ≠ .root := by
        rintro rfl
        cases up
      have lower := Role.height_parent up
      have upper := visit_descending visitor quiet above node state
      rw [descending_none visitor role below overridden]
      simpa only [answers,up,Option.elim_some] using upper
termination_by role.height

private theorem accept_step (visitor : Visitor σ) (quiet : visitor.Quiet) (node : Node)
    (state : σ) :
    visitor.descending.accept node state =
      visitor.descending.acceptChildren node (visitor.accept node state) := by
  rw [accept_eq_visit,accept_eq_visit,visit_descending visitor quiet]

-- The order is the same because a node is dispatched before its children are:
-- it is the head of its preorder, and they are the tail.
mutual

private theorem accept_descending (visitor : Visitor σ) (quiet : visitor.Quiet) (node : Node)
    (state : σ) :
    visitor.descending.accept node state =
      node.preorder.foldl (fun reached below => visitor.accept below reached) state := by
  rw [accept_step visitor quiet]
  obtain ⟨kind,span,text,children⟩ := node
  rw [Node.preorder,List.foldl_cons]
  exact acceptAll_descending visitor quiet children _

private theorem acceptAll_descending (visitor : Visitor σ) (quiet : visitor.Quiet)
    (nodes : List Node) (state : σ) :
    visitor.descending.acceptAll nodes state =
      (Node.preorderAll nodes).foldl (fun reached below => visitor.accept below reached) state := by
  cases nodes with
  | nil => rfl
  | cons node rest =>
    have first := accept_descending visitor quiet node state
    have others := acceptAll_descending visitor quiet rest
    rw [acceptAll,first,others,Node.preorderAll,List.foldl_append]

end

/-- A walk and a descent by hand end in the same state: both visit every node
once, parents first. -/
theorem walk_eq_descent (visitor : Visitor σ) (quiet : visitor.Quiet) (node : Node) (file : File)
    (state : σ) :
    visitor.walk node state = visitor.descending.accept node state ∧
      visitor.walkFile file state = visitor.descending.acceptRoots file state ∧
      visitor.descending.accept node state =
        node.preorder.foldl (fun reached below => visitor.accept below reached) state ∧
      visitor.descending.acceptRoots file state =
        (Node.preorderAll file.roots).foldl
          (fun reached below => visitor.accept below reached) state ∧
      node.preorder.length = node.size ∧
      (Node.preorderAll file.roots).length = Node.sizeAll file.roots := by
  have byNode := accept_descending visitor quiet node state
  have byFile := acceptAll_descending visitor quiet file.roots state
  have walked := walk_preorder visitor node state
  have walkedFile := walkFile_preorder visitor file state
  exact ⟨walked.trans byNode.symm,walkedFile.trans byFile.symm,byNode,byFile,
    Node.length_preorder node,Node.length_preorderAll file.roots⟩

def expressionLog : Visitor Recording :=
  Recording.visitor [(.category .expression,[.log]),(.root,[.count])]

private theorem expressionLog_quiet : expressionLog.Quiet := by
  intro role body overridden view state
  obtain ⟨steps,found,rfl⟩ := Option.map_eq_some_iff.mp overridden
  obtain ⟨before,after,split,_⟩ := List.lookup_eq_some_iff.mp found
  have member : (role,steps) ∈ [(Role.category .expression,[.log]),(Role.root,[.count])] := by
    rw [split]
    exact List.mem_append_right before List.mem_cons_self
  simp only [List.mem_cons,Prod.mk.injEq,List.not_mem_nil,or_false] at member
  rcases member with ⟨_,rfl⟩ | ⟨_,rfl⟩
  · exact ⟨_,rfl⟩
  · exact ⟨_,rfl⟩

def sumBlock : Node :=
  ⟨.block,⟨0,9⟩,none,[⟨.additiveExpression,⟨2,7⟩,none,[
    ⟨.referenceExpression,⟨2,3⟩,none,[⟨.id,⟨2,3⟩,some "a",[]⟩]⟩,
    ⟨.literalExpression,⟨6,7⟩,some "1",[]⟩]⟩]⟩

/-- The sum and its two parts are logged in this order, and the block and the
identifier are counted. -/
theorem sumBlock_descended :
    expressionLog.Quiet ∧
      expressionLog.walk sumBlock {} = expressionLog.descending.accept sumBlock {} ∧
      (expressionLog.descending.accept sumBlock {}).trace.toList.map (·.node.span) =
        [⟨2,7⟩,⟨2,3⟩,⟨6,7⟩] ∧
      (expressionLog.descending.accept sumBlock {}).counts = [(.root,2)] := by
  obtain ⟨walked,_,descended,_⟩ :=
    walk_eq_descent expressionLog expressionLog_quiet sumBlock {} {}
  refine ⟨expressionLog_quiet,walked,?_⟩
  rw [descended]
  simp only [accept_nearest]
  exact ⟨rfl,rfl⟩

end Visitor
end DartTree
