import DartTree.Proofs.Grammar.Chains
import DartTree.Proofs.Tree.Walk
import DartTree.Visitor.Recording

/-! Which override answers for a node. Operations forward one role at a time;
what this comes to is one run of the first body along the chain of roles, for
every way to come to a node and whatever the bodies do. -/
namespace DartTree

def Node.roles (node : Node) : List Role :=
  .kind node.kind :: node.kind.categoryChain.map .category

namespace Visitor
variable {σ : Type}

def nearest? (visitor : Visitor σ) (roles : List Role) : Option (Role × (View → σ → Script σ)) :=
  roles.findSome? fun role => (visitor.override? role).map (role,·)

def answers (visitor : Visitor σ) (role : Role) (node : Node) : Answers σ where
  forward state := role.parent?.elim state fun above => visitor.visit ⟨above,node⟩ state
  descend := visitor.acceptChildren node
  root state := if role = .root then state else visitor.visit ⟨.root,node⟩ state

/-- One run, on the node, of the first body among those of the roles. -/
def runNearest (visitor : Visitor σ) (roles : List Role) (node : Node) (state : σ) : σ :=
  match visitor.nearest? roles with
  | none => state
  | some (role,body) => (body ⟨role,node⟩ state).run (visitor.answers role node)

def overriding (visitor : Visitor σ) (role : Role) (body : View → σ → Script σ) : Visitor σ where
  override? other := if other = role then some body else visitor.override? other

def idle : Visitor σ where
  override? _ := none

private theorem nearest_cons_some (visitor : Visitor σ) (role : Role) (above : List Role)
    (body : View → σ → Script σ) (overridden : visitor.override? role = some body) :
    visitor.nearest? (role :: above) = some (role,body) := by
  simp [nearest?,overridden]

private theorem nearest_cons_none (visitor : Visitor σ) (role : Role) (above : List Role)
    (inherited : visitor.override? role = none) :
    visitor.nearest? (role :: above) = visitor.nearest? above := by
  simp [nearest?,inherited]

private theorem answers_forward (visitor : Visitor σ) (role : Role) (node : Node) (state : σ) :
    (visitor.answers role node).forward state =
      match _up : role.parent? with
      | none => state
      | some above => visitor.visit ⟨above,node⟩ state := by
  change role.parent?.elim state (fun above => visitor.visit ⟨above,node⟩ state) = _
  split
  case h_1 top => rw [top,Option.elim_none]
  case h_2 above up => rw [up,Option.elim_some]

private theorem answers_root (visitor : Visitor σ) (role : Role) (node : Node) (state : σ) :
    (visitor.answers role node).root state =
      if _top : role = .root then state else visitor.visit ⟨.root,node⟩ state :=
  dite_eq_ite.symm

/-- One operation: its body if it is overridden, and else what it forwards to. -/
theorem visit_eq (visitor : Visitor σ) (role : Role) (node : Node) (state : σ) :
    visitor.visit ⟨role,node⟩ state =
      match visitor.override? role with
      | none => (visitor.answers role node).forward state
      | some body => (body ⟨role,node⟩ state).run (visitor.answers role node) := by
  rw [visit,operate]
  cases visitor.override? role with
  | none => exact (answers_forward visitor role node state).symm
  | some body =>
    have same : visitor.answers role node =
        ⟨fun reached => match _up : role.parent? with
          | none => reached
          | some above => visitor.visit ⟨above,node⟩ reached,
        visitor.acceptChildren node,
        fun reached => if _top : role = .root then reached else visitor.visit ⟨.root,node⟩ reached⟩ := by
      rw [← funext (answers_forward visitor role node),← funext (answers_root visitor role node)]
      rfl
    rw [same]
    rfl

-- The recursion is on the height of the role: forwarding goes up by one.
theorem visit_nearest (visitor : Visitor σ) (role : Role) (node : Node) (state : σ) :
    visitor.visit ⟨role,node⟩ state = visitor.runNearest role.chain node state := by
  rw [visit_eq,Role.chain_eq,runNearest]
  cases overridden : visitor.override? role with
  | some body => rw [nearest_cons_some visitor role _ body overridden]
  | none =>
    rw [nearest_cons_none visitor role _ overridden,answers]
    cases up : role.parent? with
    | none => rfl
    | some above =>
      have lower := Role.height_parent up
      exact visit_nearest visitor above node state
termination_by role.height

theorem accept_eq_visit (visitor : Visitor σ) (node : Node) (state : σ) :
    visitor.accept node state = visitor.visit ⟨.kind node.kind,node⟩ state := by
  cases node
  rfl

theorem accept_nearest (visitor : Visitor σ) (node : Node) (state : σ) :
    visitor.accept node state = visitor.runNearest node.roles node state := by
  rw [accept_eq_visit,visit_nearest]
  rfl

private theorem acceptAll_nearest (visitor : Visitor σ) (nodes : List Node) (state : σ) :
    visitor.acceptAll nodes state =
      nodes.foldl (fun reached node => visitor.runNearest node.roles node reached) state := by
  induction nodes generalizing state with
  | nil => rfl
  | cons node rest ih => rw [acceptAll,accept_nearest,ih,List.foldl_cons]

theorem walk_preorder (visitor : Visitor σ) (node : Node) (state : σ) :
    visitor.walk node state =
      node.preorder.foldl (fun reached below => visitor.accept below reached) state := by
  rw [walk,Cursor.fold_eq,Cursor.pending_singleton,Node.preorderAll_singleton]

theorem walkFile_preorder (visitor : Visitor σ) (file : File) (state : σ) :
    visitor.walkFile file state =
      (Node.preorderAll file.roots).foldl (fun reached below => visitor.accept below reached)
        state := by
  unfold walkFile
  induction file.roots generalizing state with
  | nil => rfl
  | cons root rest ih =>
    rw [List.foldl_cons,walk_preorder,ih,Node.preorderAll,List.foldl_append]

theorem walk_nearest (visitor : Visitor σ) (node : Node) (state : σ) :
    visitor.walk node state =
      node.preorder.foldl (fun reached below => visitor.runNearest below.roles below reached)
        state := by
  simp only [walk_preorder,accept_nearest]

private theorem walkFile_nearest (visitor : Visitor σ) (file : File) (state : σ) :
    visitor.walkFile file state =
      (Node.preorderAll file.roots).foldl
        (fun reached below => visitor.runNearest below.roles below reached) state := by
  simp only [walkFile_preorder,accept_nearest]

/-- An override of a role that is not among the roles is not found. -/
private theorem nearest_overriding (visitor : Visitor σ) (role : Role) (body : View → σ → Script σ)
    (roles : List Role) (absent : role ∉ roles) :
    (visitor.overriding role body).nearest? roles = visitor.nearest? roles := by
  induction roles with
  | nil => rfl
  | cons first rest ih =>
    rw [List.mem_cons,not_or] at absent
    have same : (visitor.overriding role body).override? first = visitor.override? first :=
      if_neg (Ne.symm absent.1)
    rw [nearest?,nearest?,List.findSome?_cons,List.findSome?_cons,same]
    cases visitor.override? first with
    | none => exact ih absent.2
    | some other => rfl

private theorem nearest_idle (roles : List Role) : (idle : Visitor σ).nearest? roles = none := by
  rw [nearest?,List.findSome?_eq_none_iff]
  intro role member
  rfl

private theorem nearest_only (role : Role) (body : View → σ → Script σ) (roles : List Role) :
    (idle.overriding role body).nearest? roles = if role ∈ roles then some (role,body) else none := by
  by_cases member : role ∈ roles
  · rw [if_pos member]
    induction roles with
    | nil => cases member
    | cons first rest ih =>
      by_cases here : first = role
      · subst here
        exact nearest_cons_some _ first rest body (if_pos rfl)
      · rw [nearest_cons_none _ first rest (if_neg here)]
        exact ih (List.mem_of_ne_of_mem (Ne.symm here) member)
  · rw [if_neg member,nearest_overriding idle role body roles member,nearest_idle]

private theorem accept_only (category : Category) (body : View → σ → Script σ) (node : Node)
    (state : σ) :
    (idle.overriding (.category category) body).accept node state =
      if node.kind.isA category then
        (body ⟨.category category,node⟩ state).run
          ((idle.overriding (.category category) body).answers (.category category) node)
      else state := by
  have reached := Role.category_mem_chain node.kind category
  rw [accept_nearest,runNearest,nearest_only]
  change (Role.category category ∈ node.roles ↔ _) at reached
  by_cases within : node.kind.isA category = true
  · rw [if_pos within,if_pos (reached.mpr within)]
  · rw [if_neg within,if_neg (mt reached.mp within)]

/-- However a node is come to, one run of the nearest overridden operation of its
own roles answers for it, or nothing if there is none; and an operation that is
called on a view is answered by the nearest at or above it. So one override of a
category answers for the nodes in it, and what a kind also counts as is of no
account. -/
theorem dispatch_nearest (visitor : Visitor σ) (node : Node) (file : File) (state : σ) :
    visitor.accept node state = visitor.runNearest node.roles node state ∧
      (∀ role, visitor.acceptView ⟨role,node⟩ state = visitor.runNearest node.roles node state) ∧
      visitor.acceptChildren node state =
        node.children.foldl
          (fun reached child => visitor.runNearest child.roles child reached) state ∧
      visitor.walk node state =
        node.preorder.foldl
          (fun reached below => visitor.runNearest below.roles below reached) state ∧
      visitor.acceptRoots file state =
        file.roots.foldl (fun reached root => visitor.runNearest root.roles root reached) state ∧
      visitor.walkFile file state =
        (Node.preorderAll file.roots).foldl
          (fun reached below => visitor.runNearest below.roles below reached) state ∧
      (∀ category : Category, visitor.visit ⟨.category category,node⟩ state =
        visitor.runNearest (category.ancestors.map .category) node state) ∧
      (∀ (category : Category) (body : View → σ → Script σ),
        (idle.overriding (.category category) body).accept node state =
          if node.kind.isA category then
            (body ⟨.category category,node⟩ state).run
              ((idle.overriding (.category category) body).answers (.category category) node)
          else state) ∧
      ∀ facet ∈ node.kind.facets, ∀ body : View → σ → Script σ,
        (visitor.overriding (.category facet) body).nearest? node.roles =
          visitor.nearest? node.roles := by
  refine ⟨accept_nearest visitor node state,fun _ => accept_nearest visitor node state,
    acceptAll_nearest visitor node.children state,walk_nearest visitor node state,
    acceptAll_nearest visitor file.roots state,walkFile_nearest visitor file state,
    fun category => visit_nearest visitor (.category category) node state,
    fun category body => accept_only category body node state,?_⟩
  intro facet listed body
  have apart : Role.category facet ∉ node.roles := by
    intro member
    have within := (Role.category_mem_chain node.kind facet).mp member
    exact Bool.false_ne_true ((node.kind.facet_apart facet listed).symm.trans within)
  exact nearest_overriding visitor (.category facet) body node.roles apart

/-- A sum also counts as a reference, but it is an expression that it is visited as. -/
theorem sum_visited_as_expression :
    Category.reference ∈ Kind.additiveExpression.facets ∧
      (((Recording.visitor [(.category .expression,[.log,.ask .forward])]).overriding
          (.category .reference) (Recording.script · [.count])).nearest?
        (Node.roles ⟨.additiveExpression,⟨0,5⟩,none,[]⟩)).map Prod.fst =
          some (.category .expression) := by
  have listed : Category.reference ∈ Kind.additiveExpression.facets := by decide
  obtain ⟨_,_,_,_,_,_,_,_,facets⟩ := dispatch_nearest
    (Recording.visitor [(.category .expression,[.log,.ask .forward])])
    ⟨.additiveExpression,⟨0,5⟩,none,[]⟩ {} {}
  refine ⟨listed,?_⟩
  rw [facets .reference listed]
  rfl

end Visitor
end DartTree
