import DartTree.Proofs.Tree.Listing
import DartTree.Proofs.Visitor.Forwarding
import Mathlib.Logic.Function.Iterate

/-! Bodies that are free in what they do. Such a body may call any operation on
any view and start runs on any node, the ones above its own too, so that a run
need not come to an end and is told step by step. Where bodies keep to requests
about their own node it does end, in the state that the run comes to. -/
namespace DartTree
namespace Visitor

/-- What a body does: it is done, or it starts a run in some state of the visitor
and is continued from the state that this leaves. -/
inductive Body (σ : Type) where
  | done (state : σ)
  | start (run : Run) (state : σ) (resume : σ → Body σ)

inductive Task (σ : Type) where
  | run (run : Run)
  | resume (body : σ → Body σ)

structure Progress (σ : Type) where
  pending : List (Task σ)
  state : σ

structure Reentrant (σ : Type) where
  override? : Role → Option (View → σ → Body σ)

variable {σ : Type}

namespace Progress

def called? (progress : Progress σ) : Option View :=
  match progress.pending with
  | .run (.visit view) :: _ => some view
  | _ => none

def handed? (progress : Progress σ) : Option View :=
  match progress.pending with
  | .resume body :: _ =>
    match body progress.state with
    | .start (.visit view) _ _ => some view
    | _ => none
  | _ => none

def Holds (admitted : View → Prop) (progress : Progress σ) : Prop :=
  ∀ view, .run (.visit view) ∈ progress.pending → admitted view

theorem Holds.called {admitted : View → Prop} {progress : Progress σ}
    (held : progress.Holds admitted) (view : View) (called : progress.called? = some view) :
    admitted view := by
  apply held
  unfold called? at called
  split at called
  case h_1 given rest found =>
    cases called
    rw [found]
    exact List.mem_cons_self
  case h_2 => cases called

end Progress

namespace Reentrant

/-- What a run consists of. An operation that is not overridden calls the one of
the role above on the same node. -/
def parts (visitor : Reentrant σ) : Run → List (Task σ)
  | .accept node => [.run (.visit ⟨.kind node.kind,node⟩)]
  | .acceptChildren node => node.children.map fun child => .run (.accept child)
  | .walk node => node.descendants.map fun below => .run (.accept below)
  | .acceptRoots file => file.roots.map fun root => .run (.accept root)
  | .walkFile file => file.roots.map fun root => .run (.walk root)
  | .visit view =>
    match visitor.override? view.role with
    | none => view.upcast?.toList.map fun above => .run (.visit above)
    | some body => [.resume (body view)]

def step (visitor : Reentrant σ) : Progress σ → Progress σ
  | ⟨[],state⟩ => ⟨[],state⟩
  | ⟨.run run :: rest,state⟩ => ⟨visitor.parts run ++ rest,state⟩
  | ⟨.resume body :: rest,state⟩ =>
    match body state with
    | .done reached => ⟨rest,reached⟩
    | .start run reached resume => ⟨.run run :: .resume resume :: rest,reached⟩

def after (visitor : Reentrant σ) (program : σ → Body σ) (state : σ) (steps : Nat) : Progress σ :=
  visitor.step^[steps] ⟨[.resume program],state⟩

end Reentrant

structure Climbs (admitted : View → Prop) : Prop where
  dispatched : ∀ node, admitted ⟨.kind node.kind,node⟩
  above : ∀ view upper, admitted view → view.upcast? = some upper → admitted upper

namespace Reentrant

/-- Of itself a run calls operations only by the kind of a node and one role up. -/
private theorem visit_mem_parts (visitor : Reentrant σ) (run : Run) (view : View)
    (part : .run (.visit view) ∈ visitor.parts run) :
    (∃ node, view = ⟨.kind node.kind,node⟩) ∨
      ∃ below, run = .visit below ∧ below.upcast? = some view := by
  cases run with
  | accept node =>
    cases List.mem_singleton.mp part
    exact .inl ⟨node,rfl⟩
  | visit below =>
    unfold parts at part
    cases overridden : visitor.override? below.role with
    | none =>
      simp only [overridden,List.mem_map,Option.mem_toList] at part
      obtain ⟨above,up,same⟩ := part
      cases same
      exact .inr ⟨below,rfl,up⟩
    | some body => simp [overridden] at part
  | acceptChildren node => simp [parts] at part
  | walk node => simp [parts] at part
  | acceptRoots file => simp [parts] at part
  | walkFile file => simp [parts] at part

section Admitted
variable {admitted : View → Prop}

-- Only a body can bring in a view of its own; it is `handed` that speaks of those.
private theorem step_holds (climbs : Climbs admitted) (visitor : Reentrant σ)
    (progress : Progress σ) (held : progress.Holds admitted)
    (handed : ∀ view, progress.handed? = some view → admitted view) :
    (visitor.step progress).Holds admitted := by
  obtain ⟨pending,state⟩ := progress
  intro view waits
  cases pending with
  | nil => cases waits
  | cons task rest =>
    have later (member : .run (.visit view) ∈ rest) : admitted view :=
      held view (List.mem_cons_of_mem task member)
    cases task with
    | run run =>
      rcases List.mem_append.mp waits with part | member
      · rcases visit_mem_parts visitor run view part with ⟨node,rfl⟩ | ⟨below,rfl,up⟩
        · exact climbs.dispatched node
        · exact climbs.above below view (held below List.mem_cons_self) up
      · exact later member
    | resume body =>
      cases happens : body state with
      | done reached =>
        simp only [step,happens] at waits
        exact later waits
      | start run reached resume =>
        simp only [step,happens] at waits
        rcases List.mem_cons.mp waits with same | member
        · cases same
          exact handed view (by simp only [Progress.handed?,happens])
        · have apart : Task.run (.visit view) ≠ .resume resume := nofun
          exact later (List.mem_of_ne_of_mem apart member)

/-- If all that bodies call operations on is admitted, so is all that operations
are called on. -/
theorem after_holds (climbs : Climbs admitted) (visitor : Reentrant σ) (program : σ → Body σ)
    (state : σ) (steps : Nat)
    (handed : ∀ earlier < steps, ∀ view,
      (visitor.after program state earlier).handed? = some view → admitted view) :
    (visitor.after program state steps).Holds admitted := by
  induction steps with
  | zero =>
    intro view waits
    cases List.mem_singleton.mp waits
  | succ steps ih =>
    have before := ih fun earlier less => handed earlier (Nat.lt_succ_of_lt less)
    have next := step_holds climbs visitor _ before (handed steps (Nat.lt_succ_self steps))
    rwa [after,Function.iterate_succ_apply']

end Admitted

def Leads (visitor : Reentrant σ) (before after : Progress σ) : Prop :=
  ∃ steps, visitor.step^[steps] before = after

theorem Leads.refl (visitor : Reentrant σ) (progress : Progress σ) :
    visitor.Leads progress progress := ⟨0,rfl⟩

theorem Leads.trans {visitor : Reentrant σ} {first second third : Progress σ}
    (one : visitor.Leads first second) (two : visitor.Leads second third) :
    visitor.Leads first third := by
  obtain ⟨before,rfl⟩ := one
  obtain ⟨after,rfl⟩ := two
  exact ⟨after + before,Function.iterate_add_apply visitor.step after before first⟩

theorem Leads.head {visitor : Reentrant σ} {first second : Progress σ}
    (rest : visitor.Leads (visitor.step first) second) : visitor.Leads first second :=
  Leads.trans ⟨1,rfl⟩ rest

end Reentrant

end Visitor

def View.request? (view : View) : Request → Option Visitor.Run
  | .forward => view.upcast?.map .visit
  | .descend => some (.acceptChildren view.node)
  | .root => if view.role = .root then none else some (.visit view.asElement)

def Script.body {σ : Type} (view : View) : Script σ → Visitor.Body σ
  | .done state => .done state
  | .ask request state resume =>
    match view.request? request with
    | none => (resume state).body view
    | some run => .start run state fun reached => (resume reached).body view

namespace Visitor
variable {σ : Type}

def reentrant (visitor : Visitor σ) : Reentrant σ where
  override? role := (visitor.override? role).map fun body view state => (body view state).body view

def Completes (visitor : Visitor σ) (run : Run) : Prop :=
  ∀ (rest : List (Task σ)) (state : σ),
    visitor.reentrant.Leads ⟨.run run :: rest,state⟩ ⟨rest,visitor.perform run state⟩

private theorem answer_none (visitor : Visitor σ) (view : View) (request : Request)
    (nothing : view.request? request = none) (state : σ) :
    (visitor.answers view.role view.node).answer request state = state := by
  cases request with
  | forward =>
    have top : view.role.parent? = none := by
      simpa [View.request?,View.upcast?] using nothing
    exact forward_top visitor view.role view.node top state
  | descend => cases nothing
  | root =>
    have top : view.role = .root := by simpa [View.request?] using nothing
    exact if_pos top

private theorem answer_some (visitor : Visitor σ) (view : View) (request : Request) (run : Run)
    (asked : view.request? request = some run) (state : σ) :
    (visitor.answers view.role view.node).answer request state = visitor.perform run state := by
  cases request with
  | forward =>
    obtain ⟨upper,up,rfl⟩ := Option.map_eq_some_iff.mp asked
    obtain ⟨above,found,rfl⟩ := Option.map_eq_some_iff.mp up
    simp only [Answers.answer,answers,found,Option.elim_some,perform]
  | descend =>
    cases asked
    rfl
  | root =>
    obtain ⟨lower,same⟩ := Option.ite_none_left_eq_some.mp asked
    cases same
    exact if_neg lower

private theorem performAll_leads (visitor : Visitor σ) (runs : List Run)
    (completes : ∀ run ∈ runs, visitor.Completes run) (rest : List (Task σ)) (state : σ) :
    visitor.reentrant.Leads ⟨runs.map .run ++ rest,state⟩ ⟨rest,visitor.performAll runs state⟩ := by
  induction runs generalizing state with
  | nil => exact Reentrant.Leads.refl _ _
  | cons run others ih =>
    have first := completes run List.mem_cons_self (others.map .run ++ rest) state
    exact first.trans (ih (fun other member => completes other (List.mem_cons_of_mem run member)) _)

private theorem script_leads (visitor : Visitor σ) (view : View)
    (completes : ∀ request run, view.request? request = some run → visitor.Completes run)
    (script : Script σ) (rest : List (Task σ)) (body : σ → Body σ) (state : σ)
    (scripted : body state = script.body view) :
    visitor.reentrant.Leads ⟨.resume body :: rest,state⟩
      ⟨rest,script.run (visitor.answers view.role view.node)⟩ := by
  induction script generalizing body state with
  | done reached =>
    apply Reentrant.Leads.head
    simp only [Reentrant.step,scripted,Script.body]
    exact Reentrant.Leads.refl _ _
  | ask request asked resume ih =>
    unfold Script.body at scripted
    rw [Script.run]
    cases comes : view.request? request with
    | none =>
      rw [comes] at scripted
      rw [answer_none visitor view request comes]
      exact ih asked body state scripted
    | some run =>
      rw [comes] at scripted
      apply Reentrant.Leads.head
      simp only [Reentrant.step,scripted]
      rw [answer_some visitor view request run comes]
      exact (completes request run comes _ asked).trans (ih _ _ _ rfl)

-- The recursion is on the height of the role, as that of the operations is.
private theorem visit_completes (visitor : Visitor σ) (node : Node)
    (below : visitor.Completes (.acceptChildren node)) (role : Role) :
    visitor.Completes (.visit ⟨role,node⟩) := by
  intro rest state
  have above (upper : Role) (up : role.parent? = some upper) :
      visitor.Completes (.visit ⟨upper,node⟩) := by
    have lower := Role.height_parent up
    exact visit_completes visitor node below upper
  have requested (request : Request) (run : Run)
      (asked : View.request? ⟨role,node⟩ request = some run) : visitor.Completes run := by
    cases request with
    | forward =>
      obtain ⟨_,up,rfl⟩ := Option.map_eq_some_iff.mp asked
      obtain ⟨upper,found,rfl⟩ := Option.map_eq_some_iff.mp up
      exact above upper found
    | descend =>
      cases asked
      exact below
    | root =>
      obtain ⟨apart,same⟩ := Option.ite_none_left_eq_some.mp asked
      cases same
      have lower := Role.height_root apart
      exact visit_completes visitor node below .root
  apply Reentrant.Leads.head
  rw [perform,visit_eq]
  simp only [Reentrant.step,Reentrant.parts,reentrant]
  cases visitor.override? role with
  | none =>
    cases up : role.parent? with
    | none =>
      rw [forward_top visitor role node up]
      simp only [View.upcast?,up]
      exact Reentrant.Leads.refl _ _
    | some upper =>
      simp only [View.upcast?,answers,up]
      exact above upper up rest state
  | some body => exact script_leads visitor ⟨role,node⟩ requested _ rest _ state rfl
termination_by role.height

private theorem acceptAll_eq_performAll (visitor : Visitor σ) (nodes : List Node) (state : σ) :
    visitor.acceptAll nodes state = visitor.performAll (nodes.map .accept) state := by
  induction nodes generalizing state with
  | nil => rfl
  | cons node rest ih => rw [acceptAll,ih,List.map_cons]; rfl

private theorem acceptAll_leads (visitor : Visitor σ) (nodes : List Node)
    (completes : ∀ node ∈ nodes, visitor.Completes (.accept node)) (rest : List (Task σ))
    (state : σ) :
    visitor.reentrant.Leads ⟨(nodes.map fun node => .run (.accept node)) ++ rest,state⟩
      ⟨rest,visitor.acceptAll nodes state⟩ := by
  have runs := performAll_leads visitor (nodes.map .accept) (List.forall_mem_map.mpr completes)
    rest state
  rwa [List.map_map,← acceptAll_eq_performAll] at runs

mutual

private theorem accept_completes (visitor : Visitor σ) (node : Node) :
    visitor.Completes (.accept node) := by
  obtain ⟨kind,span,text,children⟩ := node
  have inside := acceptAll_completes visitor children
  have below : visitor.Completes (.acceptChildren ⟨kind,span,text,children⟩) :=
    fun rest state => .head (acceptAll_leads visitor children inside rest state)
  intro rest state
  exact .head (visit_completes visitor ⟨kind,span,text,children⟩ below (.kind kind) rest state)

private theorem acceptAll_completes (visitor : Visitor σ) (nodes : List Node) :
    ∀ node ∈ nodes, visitor.Completes (.accept node) := by
  cases nodes with
  | nil => nofun
  | cons node rest =>
    rw [List.forall_mem_cons]
    exact ⟨accept_completes visitor node,acceptAll_completes visitor rest⟩

end

private theorem walk_completes (visitor : Visitor σ) (node : Node) :
    visitor.Completes (.walk node) := by
  intro rest state
  have listed : visitor.walk node state = visitor.acceptAll node.descendants state := by
    rw [walk_preorder,acceptAll_eq_performAll,performAll,List.foldl_map,Node.descendants_eq]
    rfl
  rw [perform,listed]
  exact .head (acceptAll_leads visitor node.descendants (acceptAll_completes visitor _) rest state)

/-- Every run of a visitor whose bodies are scripts is completed step by step. -/
theorem perform_completes (visitor : Visitor σ) (run : Run) : visitor.Completes run := by
  have all (nodes : List Node) (rest : List (Task σ)) (state : σ) :=
    acceptAll_leads visitor nodes (acceptAll_completes visitor nodes) rest state
  intro rest state
  cases run with
  | accept node => exact accept_completes visitor node rest state
  | acceptChildren node => exact .head (all node.children rest state)
  | walk node => exact walk_completes visitor node rest state
  | acceptRoots file => exact .head (all file.roots rest state)
  | walkFile file =>
    have walks := performAll_leads visitor (file.roots.map .walk)
      (List.forall_mem_map.mpr fun root _ => walk_completes visitor root) rest state
    rw [List.map_map,performAll,List.foldl_map] at walks
    exact .head walks
  | visit view =>
    have below : visitor.Completes (.acceptChildren view.node) :=
      fun rest state => .head (all view.node.children rest state)
    exact visit_completes visitor view.node below view.role rest state

theorem after_perform (visitor : Visitor σ) (run : Run) (state : σ) :
    ∃ steps, visitor.reentrant.after (.start run · .done) state steps =
      ⟨[],visitor.perform run state⟩ := by
  have completed := perform_completes visitor run [.resume .done] state
  have ended : visitor.reentrant.Leads ⟨[.resume .done],visitor.perform run state⟩
      ⟨[],visitor.perform run state⟩ := .head (.refl _ _)
  exact Reentrant.Leads.head (completed.trans ended)

end Visitor
end DartTree
