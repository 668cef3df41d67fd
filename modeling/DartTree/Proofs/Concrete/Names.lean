import DartTree.Proofs.Concrete.Shape
import DartTree.View

/-! The names of declarations, from the concrete tree to the view of a component.
On the way a name is put into a node of its own and rises to where the nodes that
gave up their place to their children stood; a component takes the first name
among its children. This is the first identifier in a name field that lies below
the node the component came of, with only such nodes in between. -/
namespace DartTree

namespace ConcreteNode

def transparent (node : ConcreteNode) : Bool :=
  !node.missing && (node.error || node.named && !node.extra && node.type ≠ identifierType &&
    (ConcreteKind.ofType? node.type).isNone)

def declares (node : ConcreteNode) : Bool := node.isIdentifier && node.isDeclaredName

end ConcreteNode

namespace ConcreteSite

def rises (site : ConcreteSite) : Bool :=
  site.above.all ConcreteNode.transparent && site.node.declares

def origins (site : ConcreteSite) : List ConcreteSite :=
  if site.node.isIdentifier then [site,site]
  else if site.node.proper && (ConcreteKind.ofType? site.node.type).isSome then [site]
  else []

end ConcreteSite

namespace ConcreteNode

/-- The text of the first name that rises to the node from below it. -/
def nameText (source : Source) (node : ConcreteNode) : Option String :=
  ((sitesAll [] node.children).find? ConcreteSite.rises).map fun site =>
    (source.slice? site.node.span).getD ""

private theorem transparent_eq (node : ConcreteNode) :
    node.transparent = (node.entered && node.hoisted) := by
  unfold transparent entered hoisted
  cases node.missing <;> cases node.error <;> simp [Bool.and_assoc]

private theorem isIdentifier_entered (node : ConcreteNode) (enters : node.entered = true) :
    node.isIdentifier = false := by
  unfold entered at enters
  unfold isIdentifier proper
  cases error : node.error <;> simp_all

private theorem declares_entered (node : ConcreteNode) (enters : node.entered = true) :
    node.declares = false := by
  rw [declares,isIdentifier_entered node enters,Bool.false_and]

private theorem rises_below (above : List ConcreteNode) (node : ConcreteNode)
    (stays : node.transparent = false) :
    (sitesAll (node :: above) node.children).filter ConcreteSite.rises = [] := by
  have shut : (node :: above).all transparent = false := by
    rw [List.all_cons,stays,Bool.false_and]
  rw [List.filter_eq_nil_iff]
  intro site member
  rw [ConcreteSite.rises,sitesAll_shut transparent _ _ shut site member,Bool.false_and]
  exact Bool.false_ne_true

private theorem sitesAll_rising (above : List ConcreteNode) (node : ConcreteNode)
    (clear : above.all transparent = true) :
    (sitesAll above [node]).filter ConcreteSite.rises =
      (if node.declares then [⟨above,node⟩] else []) ++
        (sitesAll (node :: above) node.children).filter ConcreteSite.rises := by
  have here : ConcreteSite.rises ⟨above,node⟩ = node.declares := by
    rw [ConcreteSite.rises,clear,Bool.true_and]
  rw [sitesAll_singleton,List.filter_cons,here]
  cases node.declares <;> rfl

private theorem identifierNode_kind (source : Source) (node : ConcreteNode) :
    (node.identifierNode source).kind =
      if node.isDeclaredName then .componentName else .referenceExpression := rfl

private theorem own_names (source : Source) (node : ConcreteNode) :
    (node.own source).nodes.filter (·.kind = .componentName) =
      if node.declares then [node.identifierNode source] else [] := by
  unfold own declares
  cases node.isIdentifier with
  | false => rfl
  | true => cases declared : node.isDeclaredName <;> simp [identifierNode_kind,declared]

/-- The names among the nodes that are made at the top, in order. `above` holds
the nodes on the way down that gave up their place, so that what is made below
them is made at the top as well. -/
theorem converts_names (source : Source) (limits : Limits) (level : Nat)
    (above nodes : List ConcreteNode) (converted : Converted)
    (converts : Converts source limits level nodes converted)
    (clear : above.all transparent = true) :
    converted.nodes.filter (·.kind = .componentName) =
      ((sitesAll above nodes).filter ConcreteSite.rises).map (·.node.identifierNode source) := by
  induction converts generalizing above with
  | nil level => rfl
  | cons _ _ one more =>
    rw [sitesAll_cons,Converted.append,List.filter_append,List.filter_append,List.map_append,
      one above clear,more above clear]
  | closed node _ closed =>
    have stays : node.transparent = false := by rw [transparent_eq,closed,Bool.false_and]
    rw [own_names,sitesAll_rising above node clear,rises_below above node stays,List.append_nil]
    cases node.declares <;> rfl
  | hoisted node _ enters hoists _ below =>
    have passes : node.transparent = true := by rw [transparent_eq,enters,hoists,Bool.true_and]
    have rest := below (node :: above) (by rw [List.all_cons,passes,clear,Bool.true_and])
    rw [Converted.append,List.filter_append,own_names,sitesAll_rising above node clear,
      declares_entered node enters,rest]
    rfl
  | regular node kind _ proper other known _ _ =>
    have plain : kind ≠ .componentName := by
      rintro rfl
      exact Bool.false_ne_true (ConcreteKind.ofType_plain node.type _ known).2.symm
    have stays : node.transparent = false := by
      rw [transparent_eq,hoisted_regular node kind proper known,Bool.and_false]
    rw [sitesAll_rising above node clear,rises_below above node stays,
      declares_entered node (entered_proper node proper other)]
    simp [plain]

end ConcreteNode

namespace View

private theorem findChildOf_kind (view : View) (kind : Kind) :
    view.findChildOf (.kind kind) =
      (view.node.children.filter (·.kind = kind)).head?.map (View.mk (.kind kind)) := by
  unfold findChildOf
  induction view.node.children with
  | nil => rfl
  | cons child rest ih =>
    by_cases same : child.kind = kind
    · have viewed : child.cast? (.kind kind) = some ⟨.kind kind,child⟩ :=
        (Node.cast_eq_some_iff child _ _).mpr ⟨beq_iff_eq.mpr same,rfl⟩
      rw [List.findSome?_cons_of_isSome,List.filter_cons_of_pos (by simpa using same)]
      · exact viewed
      · rw [viewed]
        rfl
    · have hidden : child.cast? (.kind kind) = none := by
        simp [Node.cast?,Role.canView,same]
      rw [List.findSome?_cons_of_isNone,List.filter_cons_of_neg (by simpa using same),ih]
      rw [hidden]
      rfl

end View

namespace ConcreteNode

private theorem identifier_identifierNode (source : Source) (node : ConcreteNode) (role : Role) :
    View.identifier ⟨role,node.identifierNode source⟩ =
      some ((source.slice? node.span).getD "") := rfl

private theorem converts_nameText (source : Source) (limits : Limits) (level : Nat)
    (node : ConcreteNode) (below : Converted) (view : View)
    (inside : Converts source limits level node.children below)
    (children : view.node.children = below.nodes) :
    view.componentName.bind View.identifier = node.nameText source := by
  have names := converts_names source limits level [] node.children below inside rfl
  rw [View.componentName,View.findChildOf_kind,children,names,nameText,← List.head?_filter]
  cases (sitesAll [] node.children).filter ConcreteSite.rises with
  | nil => rfl
  | cons site rest => exact identifier_identifierNode source site.node _

inductive Makes (source : Source) (limits : Limits) (site : ConcreteSite) : Node → Prop
  | wrapper (identifier : site.node.isIdentifier = true) :
      Makes source limits site (site.node.identifierNode source)
  | text (identifier : site.node.isIdentifier = true) :
      Makes source limits site ⟨.id,site.node.span,some ((source.slice? site.node.span).getD ""),[]⟩
  | regular (kind : Kind) (level : Nat) (below : Converted)
      (known : ConcreteKind.ofType? site.node.type = some kind)
      (inside : Converts source limits level site.node.children below) :
      Makes source limits site ⟨kind,site.node.span,site.node.leafText source,below.nodes⟩

private theorem own_origins (source : Source) (limits : Limits) (above : List ConcreteNode)
    (node : ConcreteNode) (irregular : node.Irregular) :
    List.Forall₂ (Makes source limits) (ConcreteSite.origins ⟨above,node⟩)
      (Node.preorderAll (node.own source).nodes) := by
  rcases irregular_cases node irregular with identifier | ⟨other,improper | unknown⟩
  · simp only [ConcreteSite.origins,own,identifier,if_true]
    exact .cons (.wrapper identifier) (.cons (.text identifier) .nil)
  · simp [ConcreteSite.origins,own,other,improper,Node.preorderAll]
  · simp [ConcreteSite.origins,own,other,unknown,Node.preorderAll]

private theorem origins_regular (above : List ConcreteNode) (node : ConcreteNode) (kind : Kind)
    (proper : node.proper = true) (other : node.type ≠ identifierType)
    (known : ConcreteKind.ofType? node.type = some kind) :
    ConcreteSite.origins ⟨above,node⟩ = [⟨above,node⟩] := by
  simp [ConcreteSite.origins,isIdentifier,proper,other,known]

private theorem converts_origins (source : Source) (limits : Limits) (level : Nat)
    (above nodes : List ConcreteNode) (converted : Converted)
    (converts : Converts source limits level nodes converted)
    (reachable : above.all entered = true) :
    List.Forall₂ (Makes source limits)
      (((sitesAll above nodes).filter ConcreteSite.visited).flatMap ConcreteSite.origins)
      (Node.preorderAll converted.nodes) := by
  induction converts generalizing above with
  | nil level => exact .nil
  | cons _ _ one more =>
    rw [sitesAll_cons,List.filter_append,List.flatMap_append,Converted.append,
      Node.preorderAll_append]
    exact List.rel_append (one above reachable) (more above reachable)
  | closed node _ closed =>
    rw [sitesAll_closed above node reachable closed,List.flatMap_singleton]
    exact own_origins source limits above node (.inl closed)
  | hoisted node _ enters hoists _ below =>
    rw [sitesAll_visited above node reachable,List.flatMap_cons,Converted.append,
      Node.preorderAll_append]
    exact List.rel_append (own_origins source limits above node (.inr hoists))
      (below (node :: above) (reachable_below above node reachable enters))
  | regular node kind _ proper other known inside below =>
    have enters := entered_proper node proper other
    rw [sitesAll_visited above node reachable,List.flatMap_cons,
      origins_regular above node kind proper other known,Node.preorderAll_singleton,
      Node.preorder_eq]
    exact .cons (.regular kind _ _ known inside)
      (below (node :: above) (reachable_below above node reachable enters))

/-- A node of the tree against the node of the concrete tree that it was made of:
as a component, be it only by a facet, and as a class it has the name that rises
to there. -/
structure Names (source : Source) (site : ConcreteSite) (node : Node) : Prop where
  span : node.span = site.node.span
  kind : site.node.isIdentifier = true ∨ ConcreteKind.ofType? site.node.type = some node.kind
  component : node.kind.isA .component = true →
    ∃ view, node.cast? (.category .component) = some view ∧
      view.declaredName = site.node.nameText source
  facet : Category.component.admits node.kind = true →
    ∃ view, node.castFacet? (.category .component) = some view ∧
      view.declaredName = site.node.nameText source
  classLike : node.kind.isA .classLike = true →
    ∃ view, node.cast? (.category .classLike) = some view ∧
      view.componentName.bind View.identifier = site.node.nameText source

private theorem names_identifier (source : Source) (site : ConcreteSite) (node : Node)
    (identifier : site.node.isIdentifier = true) (same : node.span = site.node.span)
    (kind : node.kind = .id ∨ node.kind.wrapsIdentifier = true) : Names source site node := by
  have apart : Category.component.admits node.kind = false ∧ node.kind.isA .classLike = false := by
    rcases kind with text | wraps
    · rw [text]
      decide
    · rw [Kind.wrapsIdentifier,Bool.or_eq_true,decide_eq_true_eq,decide_eq_true_eq] at wraps
      rcases wraps with name | reference
      · rw [name]
        decide
      · rw [reference]
        decide
  have dispatched := (Bool.or_eq_false_iff.mp apart.1).1
  refine ⟨same,.inl identifier,?_,?_,?_⟩
  · intro given
    cases dispatched.symm.trans given
  · intro given
    cases apart.1.symm.trans given
  · intro given
    cases apart.2.symm.trans given

private theorem names_made (source : Source) (limits : Limits) (site : ConcreteSite) (node : Node)
    (made : Makes source limits site node) : Names source site node := by
  cases made with
  | wrapper identifier =>
    refine names_identifier source site _ identifier rfl (.inr ?_)
    rw [identifierNode_kind]
    cases site.node.isDeclaredName <;> rfl
  | text identifier => exact names_identifier source site _ identifier rfl (.inl rfl)
  | regular kind level below known inside =>
    have found (role : Role) := converts_nameText source limits level site.node below
      ⟨role,⟨kind,site.node.span,site.node.leafText source,below.nodes⟩⟩ inside rfl
    exact ⟨rfl,.inr known,
      fun given => ⟨_,(Node.cast_eq_some_iff _ _ _).mpr ⟨given,rfl⟩,found _⟩,
      fun given => ⟨_,(Node.castFacet_eq_some_iff _ _ _).mpr ⟨given,rfl⟩,found _⟩,
      fun given => ⟨_,(Node.cast_eq_some_iff _ _ _).mpr ⟨given,rfl⟩,found _⟩⟩

end ConcreteNode

/-- Declared names survive from the source: each node of a converted file is set
against the node of the concrete tree that it was made of, in preorder, and is
named, as a component or as a class, by the first identifier in a name field that
rises to there, or not at all if there is none. -/
theorem File.ofConcrete_names (limits : Limits) (source : Source) (root : ConcreteNode)
    (file : File) (converted : File.ofConcrete limits source root = .ok file) :
    List.Forall₂ (ConcreteNode.Names source)
      ((root.inner.filter ConcreteSite.visited).flatMap ConcreteSite.origins)
      (Node.preorderAll file.roots) := by
  obtain ⟨accepted,_⟩ := ofConcrete_ok limits source root file converted
  have converts := ConcreteNode.convertAll_converts source limits 1 root.children _ accepted
  have made := ConcreteNode.converts_origins source limits 1 [] root.children _ converts rfl
  apply made.imp
  intro site node
  exact ConcreteNode.names_made source limits site node

namespace File

def constructorTree : ConcreteNode where
  type := "program"
  span := ⟨0,16⟩
  named := true
  children := [{
    type := "class_definition"
    span := ⟨0,16⟩
    named := true
    children := [
      { type := "class",span := ⟨0,5⟩ },
      { type := "identifier",field := some "name",span := ⟨6,7⟩,named := true },
      { type := "class_body",field := some "body",span := ⟨8,16⟩,named := true,children := [
        { type := "\x7b",span := ⟨8,9⟩ },
        { type := "class_member_definition",span := ⟨10,14⟩,named := true,children := [
          { type := "declaration",span := ⟨10,13⟩,named := true,children := [
            { type := "constructor_signature",span := ⟨10,13⟩,named := true,children := [
              { type := "identifier",field := some "name",span := ⟨10,11⟩,named := true },
              { type := "formal_parameter_list",field := some "parameters",span := ⟨11,13⟩,
                named := true,children := [
                { type := "(",span := ⟨11,12⟩ },
                { type := ")",span := ⟨12,13⟩ }] }] }] },
          { type := ";",span := ⟨13,14⟩ }] },
        { type := "\x7d",span := ⟨15,16⟩ }] }] }]

def constructorNode : Node :=
  ⟨.namedConstructorDeclaration,⟨10,13⟩,none,[
    ⟨.componentName,⟨10,11⟩,none,[⟨.id,⟨10,11⟩,some "B",[]⟩]⟩,
    ⟨.formalParameterList,⟨11,13⟩,some "()",[]⟩]⟩

def constructorFile : File where
  sourceLength := 16
  roots := [⟨.classDefinition,⟨0,16⟩,none,[
    ⟨.componentName,⟨6,7⟩,none,[⟨.id,⟨6,7⟩,some "A",[]⟩]⟩,
    ⟨.classBody,⟨8,16⟩,none,[constructorNode]⟩]⟩]

/-- The constructor keeps its own name and does not lend it to the class. -/
theorem constructor_named :
    File.ofConcrete .standard ⟨"class A \x7b B(); \x7d",by decide⟩ constructorTree =
        .ok constructorFile ∧
      (∃ view, constructorNode.cast? (.category .component) = some view ∧
        view.declaredName = some "B") ∧
      ∃ root view, constructorFile.roots = [root] ∧
        root.cast? (.category .classLike) = some view ∧
        view.componentName.bind View.identifier = some "A" := by
  have converted : File.ofConcrete .standard ⟨"class A \x7b B(); \x7d",by decide⟩ constructorTree =
      .ok constructorFile := rfl
  have named := List.forall₂_iff_get.mp (ofConcrete_names _ _ _ _ converted)
  obtain ⟨view,viewed,text⟩ := (named.2 4 (by decide) (by decide)).component rfl
  obtain ⟨outer,viewedOuter,textOuter⟩ := (named.2 0 (by decide) (by decide)).classLike rfl
  exact ⟨converted,⟨view,viewed,text⟩,_,outer,rfl,viewedOuter,textOuter⟩

end File
end DartTree
