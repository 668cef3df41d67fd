import DartTree.Concrete.Convert
import DartTree.Proofs.Tree.Placement
import Mathlib.Tactic.SplitIfs

/-! What becomes of each node of a concrete tree, said of the node and of those
above it alone: whether the conversion comes to it, and which rows of the tree
come of it. The root stands for the file and is above no node here. -/
namespace DartTree

abbrev ConcreteSite := Site ConcreteNode

namespace ConcreteNode

mutual

def sites (above : List ConcreteNode) : ConcreteNode → List ConcreteSite
  | ⟨type,field,span,named,extra,missing,error,children⟩ =>
    ⟨above,⟨type,field,span,named,extra,missing,error,children⟩⟩ ::
      sitesAll (⟨type,field,span,named,extra,missing,error,children⟩ :: above) children

def sitesAll (above : List ConcreteNode) : List ConcreteNode → List ConcreteSite
  | [] => []
  | node :: rest => node.sites above ++ sitesAll above rest

end

def inner (root : ConcreteNode) : List ConcreteSite := sitesAll [] root.children

def proper (node : ConcreteNode) : Bool :=
  !node.missing && !node.error && node.named && !node.extra

def isIdentifier (node : ConcreteNode) : Bool := node.proper && node.type = identifierType

/-- What lies below the node is converted as well. -/
def entered (node : ConcreteNode) : Bool :=
  !node.missing && (node.error || node.named && !node.extra && node.type ≠ identifierType)

/-- The node leaves its place to its children. -/
def hoisted (node : ConcreteNode) : Bool :=
  node.error || (ConcreteKind.ofType? node.type).isNone

end ConcreteNode

namespace ConcreteSite

def visited (site : ConcreteSite) : Bool := site.above.all ConcreteNode.entered

def depth (site : ConcreteSite) : Nat := levelBelow ConcreteNode.hoisted site.above

/-- The rows that come of the node itself: two of an identifier, one of a node
whose type has a kind, and none of any other. -/
def rows (source : Source) (site : ConcreteSite) : List Row :=
  if site.node.isIdentifier then
    [⟨site.depth,
      if site.node.field = some ConcreteNode.nameField then .componentName
        else .referenceExpression,
      site.node.span,none⟩,
    ⟨site.depth + 1,.id,site.node.span,some ((source.slice? site.node.span).getD "")⟩]
  else if site.node.proper then
    ((ConcreteKind.ofType? site.node.type).map fun kind =>
      ⟨site.depth,kind,site.node.span,site.node.leafText source⟩).toList
  else []

def complaint? (source : Source) (site : ConcreteSite) : Option SyntaxError :=
  if site.node.missing then some (.missing site.node.type site.node.span)
  else if site.node.error then some (.unexpected (source.slice? site.node.span) site.node.span)
  else none

end ConcreteSite

namespace ConcreteNode

theorem sitesAll_singleton (above : List ConcreteNode) (node : ConcreteNode) :
    sitesAll above [node] = ⟨above,node⟩ :: sitesAll (node :: above) node.children := by
  cases node
  exact List.append_nil _

theorem sitesAll_cons (above : List ConcreteNode) (node : ConcreteNode) (rest : List ConcreteNode) :
    sitesAll above (node :: rest) = sitesAll above [node] ++ sitesAll above rest := by
  rw [sitesAll,sitesAll,sitesAll,List.append_nil]

-- The nodes of a list, each with the nodes below it: no statement about a single
-- node is needed beside the one about the list.
mutual

private theorem children_induction {motive : List ConcreteNode → Prop} (nil : motive [])
    (cons : ∀ node rest, motive node.children → motive rest → motive (node :: rest))
    (node : ConcreteNode) : motive node.children := by
  obtain ⟨type,field,span,named,extra,missing,error,children⟩ := node
  exact forest_induction nil cons children

theorem forest_induction {motive : List ConcreteNode → Prop} (nil : motive [])
    (cons : ∀ node rest, motive node.children → motive rest → motive (node :: rest))
    (nodes : List ConcreteNode) : motive nodes := by
  cases nodes with
  | nil => exact nil
  | cons node rest =>
    exact cons node rest (children_induction nil cons node) (forest_induction nil cons rest)

end

theorem sitesAll_shut (pass : ConcreteNode → Bool) (above nodes : List ConcreteNode)
    (shut : above.all pass = false) : ∀ site ∈ sitesAll above nodes, site.above.all pass = false := by
  induction nodes using forest_induction generalizing above with
  | nil => exact nofun
  | cons node rest below later =>
    rw [sitesAll_cons,sitesAll_singleton,List.cons_append,List.forall_mem_cons,
      List.forall_mem_append]
    exact ⟨shut,below (node :: above) (by rw [List.all_cons,shut,Bool.and_false]),later above shut⟩

private theorem sitesAll_unvisited (above nodes : List ConcreteNode)
    (closed : above.all entered = false) :
    (sitesAll above nodes).filter ConcreteSite.visited = [] := by
  rw [List.filter_eq_nil_iff]
  intro site member
  rw [ConcreteSite.visited,sitesAll_shut entered above nodes closed site member]
  exact Bool.false_ne_true

theorem sitesAll_visited (above : List ConcreteNode) (node : ConcreteNode)
    (reachable : above.all entered = true) :
    (sitesAll above [node]).filter ConcreteSite.visited =
      ⟨above,node⟩ :: (sitesAll (node :: above) node.children).filter ConcreteSite.visited := by
  rw [sitesAll_singleton]
  exact List.filter_cons_of_pos reachable

theorem sitesAll_closed (above : List ConcreteNode) (node : ConcreteNode)
    (reachable : above.all entered = true) (closed : node.entered = false) :
    (sitesAll above [node]).filter ConcreteSite.visited = [⟨above,node⟩] := by
  have below := sitesAll_unvisited (node :: above) node.children
    (by rw [List.all_cons,closed,Bool.false_and])
  rw [sitesAll_visited above node reachable,below]

theorem reachable_below (above : List ConcreteNode) (node : ConcreteNode)
    (reachable : above.all entered = true) (enters : node.entered = true) :
    (node :: above).all entered = true := by
  rw [List.all_cons,enters,reachable,Bool.true_and]

theorem proper_fields (node : ConcreteNode) (proper : node.proper = true) :
    node.missing = false ∧ node.error = false ∧ node.named = true ∧ node.extra = false := by
  simpa [ConcreteNode.proper,and_assoc] using proper

theorem entered_proper (node : ConcreteNode) (proper : node.proper = true)
    (other : node.type ≠ identifierType) : node.entered = true := by
  obtain ⟨present,parsed,named,plain⟩ := proper_fields node proper
  simp [entered,present,named,plain,other]

theorem hoisted_regular (node : ConcreteNode) (kind : Kind) (proper : node.proper = true)
    (known : ConcreteKind.ofType? node.type = some kind) : node.hoisted = false := by
  simp [hoisted,(proper_fields node proper).2.1,known]

def Irregular (node : ConcreteNode) : Prop := node.entered = false ∨ node.hoisted = true

/-- Of a node without a place of its own only an identifier gives nodes. -/
theorem irregular_cases (node : ConcreteNode) (irregular : node.Irregular) :
    node.isIdentifier = true ∨
      node.isIdentifier = false ∧
        (node.proper = false ∨ ConcreteKind.ofType? node.type = none) := by
  cases identifier : node.isIdentifier with
  | true => exact .inl rfl
  | false =>
    cases proper : node.proper with
    | false => exact .inr ⟨rfl,.inl rfl⟩
    | true =>
      have other : node.type ≠ identifierType := by simpa [isIdentifier,proper] using identifier
      have enters := entered_proper node proper other
      have hoists : node.hoisted = true :=
        irregular.resolve_left fun closed => Bool.false_ne_true (closed.symm.trans enters)
      have parsed := (proper_fields node proper).2.1
      exact .inr ⟨rfl,.inr (by simpa [hoisted,parsed] using hoists)⟩

end ConcreteNode

namespace Converted

def append (first rest : Converted) : Converted :=
  ⟨first.nodes ++ rest.nodes,first.errors ++ rest.errors⟩

end Converted

namespace ConcreteNode

def own (source : Source) (node : ConcreteNode) : Converted where
  nodes := if node.isIdentifier then [node.identifierNode source] else []
  errors := (ConcreteSite.complaint? source ⟨[],node⟩).toList

/-- How a conversion comes to its result. A node is closed, gives up its place to
its children or keeps it. -/
inductive Converts (source : Source) (limits : Limits) : Nat → List ConcreteNode → Converted → Prop
  | nil (level : Nat) : Converts source limits level [] {}
  | cons {level : Nat} {node : ConcreteNode} {rest : List ConcreteNode} {first others : Converted}
      (one : Converts source limits level [node] first)
      (more : Converts source limits level rest others) :
      Converts source limits level (node :: rest) (first.append others)
  | closed {level : Nat} (node : ConcreteNode) (within : level ≤ limits.maxTreeDepth)
      (closed : node.entered = false) : Converts source limits level [node] (node.own source)
  | hoisted {level : Nat} {below : Converted} (node : ConcreteNode)
      (within : level ≤ limits.maxTreeDepth) (enters : node.entered = true)
      (hoists : node.hoisted = true)
      (inside : Converts source limits (level + 1) node.children below) :
      Converts source limits level [node] ((node.own source).append below)
  | regular {level : Nat} {below : Converted} (node : ConcreteNode) (kind : Kind)
      (within : level ≤ limits.maxTreeDepth) (proper : node.proper = true)
      (other : node.type ≠ identifierType) (known : ConcreteKind.ofType? node.type = some kind)
      (inside : Converts source limits (level + 1) node.children below) :
      Converts source limits level [node]
        ⟨[⟨kind,node.span,node.leafText source,below.nodes⟩],below.errors⟩

inductive Fails (limits : Limits) : Nat → List ConcreteNode → Prop
  | deep {level : Nat} (node : ConcreteNode) (rest : List ConcreteNode)
      (exceeds : limits.maxTreeDepth < level) : Fails limits level (node :: rest)
  | under {level : Nat} (node : ConcreteNode) (rest : List ConcreteNode)
      (enters : node.entered = true) (inside : Fails limits (level + 1) node.children) :
      Fails limits level (node :: rest)
  | later {level : Nat} {node : ConcreteNode} {rest : List ConcreteNode}
      (fails : Fails limits level rest) : Fails limits level (node :: rest)

def Settles (source : Source) (limits : Limits) (level : Nat) (nodes : List ConcreteNode)
    (outcome : Except ImportError Converted) : Prop :=
  (∃ converted, outcome = .ok converted ∧ Converts source limits level nodes converted) ∨
    outcome = .error (.tooDeep limits.maxTreeDepth) ∧ Fails limits level nodes

private theorem settles_closed (source : Source) (limits : Limits) (level : Nat)
    (node : ConcreteNode) (converted : Converted) (within : level ≤ limits.maxTreeDepth)
    (closed : node.entered = false)
    (own : node.own source = converted) : Settles source limits level [node] (.ok converted) :=
  .inl ⟨converted,rfl,own ▸ .closed node within closed⟩

private theorem settles_opened (source : Source) (limits : Limits) (level : Nat)
    (node : ConcreteNode) (outcome : Except ImportError Converted)
    (below : Settles source limits (level + 1) node.children outcome)
    (wrap : Converted → Converted) (enters : node.entered = true)
    (wraps : ∀ converted, Converts source limits (level + 1) node.children converted →
      Converts source limits level [node] (wrap converted)) :
    Settles source limits level [node] (outcome.map wrap) := by
  rcases below with ⟨converted,rfl,inside⟩ | ⟨rfl,fails⟩
  · exact .inl ⟨wrap converted,rfl,wraps converted inside⟩
  · exact .inr ⟨rfl,.under node [] enters fails⟩

private theorem fails_append (limits : Limits) (level : Nat) (node : ConcreteNode)
    (rest : List ConcreteNode) (fails : Fails limits level [node]) :
    Fails limits level (node :: rest) := by
  cases fails with
  | deep _ _ exceeds => exact .deep node rest exceeds
  | under _ _ enters inside => exact .under node rest enters inside
  | later nothing => cases nothing

private theorem convert_eq (source : Source) (limits : Limits) (level : Nat) (node : ConcreteNode) :
    convert source limits level node =
      if limits.maxTreeDepth < level then .error (.tooDeep limits.maxTreeDepth)
      else if node.missing then .ok { errors := [.missing node.type node.span] }
      else if node.error then
        (convertAll source limits (level + 1) node.children).map fun below =>
          { below with errors := .unexpected (source.slice? node.span) node.span :: below.errors }
      else if !node.named || node.extra then .ok {}
      else if node.type = identifierType then .ok { nodes := [node.identifierNode source] }
      else match ConcreteKind.ofType? node.type with
        | none => convertAll source limits (level + 1) node.children
        | some kind =>
          (convertAll source limits (level + 1) node.children).map fun below =>
            { below with nodes := [⟨kind,node.span,node.leafText source,below.nodes⟩] } := by
  cases node
  rw [convert]
  simp only [bind_pure_comp]
  rfl

/-- One node, once what is below it is settled. -/
private theorem settles_step (source : Source) (limits : Limits) (level : Nat) (node : ConcreteNode)
    (below : Settles source limits (level + 1) node.children
      (convertAll source limits (level + 1) node.children)) :
    Settles source limits level [node] (convert source limits level node) := by
  have closed := settles_closed source limits level node
  have opened := settles_opened source limits level node _ below
  rw [convert_eq]
  split_ifs with exceeds missing broken improper name
  · exact .inr ⟨rfl,.deep node [] exceeds⟩
  · apply closed _ (by omega)
    · simp [entered,missing]
    · simp [own,isIdentifier,proper,ConcreteSite.complaint?,missing]
  · have enters : node.entered = true := by simp [entered,missing,broken]
    have reported : node.own source = ⟨[],[.unexpected (source.slice? node.span) node.span]⟩ := by
      simp [own,isIdentifier,proper,ConcreteSite.complaint?,missing,broken]
    apply opened _ enters
    intro converted inside
    have step := Converts.hoisted node (by omega) enters (by simp [hoisted,broken]) inside
    rw [reported] at step
    exact step
  · apply closed _ (by omega)
    · cases named : node.named <;> simp_all [entered]
    · cases named : node.named <;> simp_all [own,isIdentifier,proper,ConcreteSite.complaint?]
  all_goals
    have proper : node.proper = true := by simp_all [proper]
    have silent : ConcreteSite.complaint? source ⟨[],node⟩ = none := by
      simp [ConcreteSite.complaint?,missing,broken]
  · have identifier : node.isIdentifier = true := by simp [isIdentifier,proper,name]
    apply closed _ (by omega)
    · simp [entered,broken,name]
    · simp [own,identifier,silent]
  · have enters := entered_proper node proper name
    cases known : ConcreteKind.ofType? node.type with
    | none =>
      have nothing : node.own source = {} := by simp [own,isIdentifier,name,silent]
      have same : (convertAll source limits (level + 1) node.children).map id =
          convertAll source limits (level + 1) node.children := congrFun Except.map_id _
      dsimp only
      rw [← same]
      apply opened _ enters
      intro converted inside
      have step := Converts.hoisted node (by omega) enters (by simp [hoisted,known]) inside
      rw [nothing] at step
      exact step
    | some kind =>
      apply opened _ enters
      intro converted inside
      exact .regular node kind (by omega) proper name known inside

theorem convertAll_settles (source : Source) (limits : Limits) (level : Nat)
    (nodes : List ConcreteNode) :
    Settles source limits level nodes (convertAll source limits level nodes) := by
  induction nodes using forest_induction generalizing level with
  | nil => exact .inl ⟨{},rfl,.nil level⟩
  | cons node rest below later =>
    rw [convertAll]
    rcases settles_step source limits level node (below (level + 1)) with
      ⟨first,accepted,one⟩ | ⟨failed,fails⟩
    · rw [accepted]
      rcases later level with ⟨others,listed,more⟩ | ⟨failed,fails⟩
      · rw [listed]
        exact .inl ⟨first.append others,rfl,.cons one more⟩
      · rw [failed]
        exact .inr ⟨rfl,.later fails⟩
    · rw [failed]
      exact .inr ⟨rfl,fails_append limits level node rest fails⟩

/-- All that is known of a conversion that succeeds follows from this. -/
theorem convertAll_converts (source : Source) (limits : Limits) (level : Nat)
    (nodes : List ConcreteNode) (converted : Converted)
    (accepted : convertAll source limits level nodes = .ok converted) :
    Converts source limits level nodes converted := by
  rcases convertAll_settles source limits level nodes with ⟨_,same,converts⟩ | ⟨failed,_⟩
  · cases accepted.symm.trans same
    exact converts
  · cases accepted.symm.trans failed

end ConcreteNode
end DartTree
