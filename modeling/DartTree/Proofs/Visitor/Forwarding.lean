import DartTree.Proofs.Visitor.Dispatch

/-! Forwarding by hand. An operation that is overridden only to hand the node on
to the role above cannot be told from one that is not overridden, over whole
runs. The argument is one about any two visitors whose operations make the same
of the same answers: they leave the same state after every sequence of runs. -/
namespace DartTree
namespace Visitor
variable {σ : Type}

def respond (visitor : Visitor σ) (view : View) (answers : Answers σ) (state : σ) : σ :=
  match visitor.override? view.role with
  | none => answers.forward state
  | some body => (body view state).run answers

/-- On every view the two make the same of the same answers. From the root there
is nothing to forward to, so there forwarding may be taken to do nothing. -/
def Alike (left right : Visitor σ) : Prop :=
  ∀ (view : View) (answers : Answers σ) (state : σ),
    (view.role.parent? = none → ∀ reached, answers.forward reached = reached) →
      left.respond view answers state = right.respond view answers state

/-- A body that only hands the node on to the role above; for the root, where
there is none, an empty one. -/
def handOn (role : Role) (_view : View) (state : σ) : Script σ :=
  if role = .root then .done state else .ask .forward state .done

inductive Run where
  | accept (node : Node)
  | acceptChildren (node : Node)
  | walk (node : Node)
  | acceptRoots (file : File)
  | walkFile (file : File)
  | visit (view : View)

def perform (visitor : Visitor σ) : Run → σ → σ
  | .accept node => visitor.accept node
  | .acceptChildren node => visitor.acceptChildren node
  | .walk node => visitor.walk node
  | .acceptRoots file => visitor.acceptRoots file
  | .walkFile file => visitor.walkFile file
  | .visit view => visitor.visit view

def performAll (visitor : Visitor σ) (runs : List Run) (state : σ) : σ :=
  runs.foldl (fun reached run => visitor.perform run reached) state

private theorem visit_respond (visitor : Visitor σ) (role : Role) (node : Node) (state : σ) :
    visitor.visit ⟨role,node⟩ state =
      visitor.respond ⟨role,node⟩ (visitor.answers role node) state :=
  visit_eq visitor role node state

theorem forward_top (visitor : Visitor σ) (role : Role) (node : Node) (top : role.parent? = none)
    (state : σ) : (visitor.answers role node).forward state = state := by
  simp only [answers,top,Option.elim_none]

/-- Visitors that are alike do the same on a node once they do below it. The
recursion is on the height of the role: both what an operation forwards to and
the root stand above it. -/
private theorem visit_alike (left right : Visitor σ) (alike : left.Alike right) (node : Node)
    (below : left.acceptChildren node = right.acceptChildren node) (role : Role) (state : σ) :
    left.visit ⟨role,node⟩ state = right.visit ⟨role,node⟩ state := by
  have forward : (left.answers role node).forward = (right.answers role node).forward := by
    funext reached
    cases up : role.parent? with
    | none => rw [forward_top left role node up,forward_top right role node up]
    | some above =>
      have lower := Role.height_parent up
      have upper := visit_alike left right alike node below above reached
      simpa only [answers,up,Option.elim_some] using upper
  have root : (left.answers role node).root = (right.answers role node).root := by
    funext reached
    by_cases top : role = .root
    · simp only [answers,if_pos top]
    · have lower := Role.height_root top
      have upper := visit_alike left right alike node below .root reached
      simpa only [answers,if_neg top] using upper
  have same : left.answers role node = right.answers role node := by
    rw [Answers.mk.injEq]
    exact ⟨forward,below,root⟩
  rw [visit_respond,visit_respond,same]
  apply alike
  intro top reached
  exact forward_top right role node top reached
termination_by role.height

mutual

private theorem accept_alike (left right : Visitor σ) (alike : left.Alike right) (node : Node) :
    left.accept node = right.accept node := by
  obtain ⟨kind,span,text,children⟩ := node
  have below := acceptAll_alike left right alike children
  funext state
  rw [accept_eq_visit,accept_eq_visit]
  exact visit_alike left right alike ⟨kind,span,text,children⟩ below (.kind kind) state

private theorem acceptAll_alike (left right : Visitor σ) (alike : left.Alike right)
    (nodes : List Node) :
    left.acceptAll nodes = right.acceptAll nodes := by
  cases nodes with
  | nil =>
    funext state
    rw [acceptAll,acceptAll]
  | cons node rest =>
    have first := accept_alike left right alike node
    have others := acceptAll_alike left right alike rest
    funext state
    rw [acceptAll,acceptAll,first,others]

end

private theorem perform_alike (left right : Visitor σ) (alike : left.Alike right) (run : Run)
    (state : σ) :
    left.perform run state = right.perform run state := by
  have accepted := accept_alike left right alike
  cases run with
  | accept node => exact congrFun (accepted node) state
  | acceptChildren node => exact congrFun (acceptAll_alike left right alike node.children) state
  | walk node => simp only [perform,walk_preorder,accepted]
  | acceptRoots file => exact congrFun (acceptAll_alike left right alike file.roots) state
  | walkFile file => simp only [perform,walkFile_preorder,accepted]
  | visit view =>
    have below := acceptAll_alike left right alike view.node.children
    exact visit_alike left right alike view.node below view.role state

theorem performAll_alike (left right : Visitor σ) (alike : left.Alike right) (runs : List Run)
    (state : σ) : left.performAll runs state = right.performAll runs state := by
  unfold performAll
  induction runs generalizing state with
  | nil => rfl
  | cons run rest ih => rw [List.foldl_cons,List.foldl_cons,perform_alike left right alike,ih]

private theorem handOn_alike (visitor : Visitor σ) (role : Role)
    (inherited : visitor.override? role = none) :
    (visitor.overriding role (handOn role)).Alike visitor := by
  intro view answers state idle
  by_cases here : view.role = role
  · have overridden : (visitor.overriding role (handOn role)).override? view.role =
        some (handOn role) := if_pos here
    have nothing : visitor.override? view.role = none := here ▸ inherited
    simp only [respond,overridden,nothing]
    by_cases top : role = .root
    · have settled : answers.forward state = state := by
        apply idle
        rw [here,top]
        rfl
      rw [handOn,if_pos top,settled]
      rfl
    · rw [handOn,if_neg top]
      rfl
  · have same : (visitor.overriding role (handOn role)).override? view.role =
        visitor.override? view.role := if_neg here
    simp only [respond,same]

/-- An operation that is not overridden may as well be overridden by a body that
only hands the node on: no sequence of runs can tell the two visitors apart. -/
theorem performAll_handOn (visitor : Visitor σ) (role : Role)
    (inherited : visitor.override? role = none) (runs : List Run) (state : σ) :
    (visitor.overriding role (handOn role)).performAll runs state =
      visitor.performAll runs state := by
  have alike := handOn_alike visitor role inherited
  exact performAll_alike _ visitor alike runs state

def sumLog : Visitor Recording :=
  Recording.visitor [(.category .expression,[.log,.ask .descend,.ask .forward]),(.root,[.count])]

theorem sum_handed_on :
    sumLog.override? (.kind .additiveExpression) = none ∧
      (sumLog.overriding (.kind .additiveExpression)
          (handOn (.kind .additiveExpression))).performAll
          [.accept ⟨.additiveExpression,⟨0,5⟩,none,[⟨.id,⟨0,1⟩,some "a",[]⟩]⟩,
            .walk ⟨.block,⟨0,9⟩,none,[⟨.additiveExpression,⟨2,7⟩,none,[]⟩]⟩] {} =
        sumLog.performAll
          [.accept ⟨.additiveExpression,⟨0,5⟩,none,[⟨.id,⟨0,1⟩,some "a",[]⟩]⟩,
            .walk ⟨.block,⟨0,9⟩,none,[⟨.additiveExpression,⟨2,7⟩,none,[]⟩]⟩] {} := by
  have inherited : sumLog.override? (.kind .additiveExpression) = none := rfl
  exact ⟨inherited,performAll_handOn sumLog _ inherited _ {}⟩

end Visitor
end DartTree
