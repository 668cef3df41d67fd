import DartTree.Proofs.Concrete.Outcome
import DartTree.Proofs.Tree.Walk

/-! The shape of a file that was converted from a source. Identifiers come as a
text with one node around it, all other text stands in leaves, and nothing
reaches beyond what is around it or beyond the source. -/
namespace DartTree

def Kind.wrapsIdentifier (kind : Kind) : Bool :=
  kind = .componentName || kind = .referenceExpression

structure File.Shaped (source : Source) (file : File) : Prop where
  nested : ∀ node ∈ Node.preorderAll file.roots, ∀ child ∈ node.children,
    node.span.encloses child.span = true
  inside : ∀ node ∈ Node.preorderAll file.roots, node.span.stop ≤ file.sourceLength
  reported : ∀ error ∈ file.errors, error.span.stop ≤ file.sourceLength
  identifier : ∀ node ∈ Node.preorderAll file.roots, node.kind = .id →
    node.children = [] ∧ node.text.isSome = true
  notRoot : ∀ root ∈ file.roots, root.kind ≠ .id
  wrapped : ∀ node ∈ Node.preorderAll file.roots, ∀ child ∈ node.children, child.kind = .id →
    node.kind.wrapsIdentifier = true ∧ node.children = [child] ∧ node.span = child.span
  wrapper : ∀ node ∈ Node.preorderAll file.roots, node.kind.wrapsIdentifier = true →
    node.text = none ∧ ∃ child, node.children = [child] ∧ child.kind = .id
  slice : ∀ node ∈ Node.preorderAll file.roots, node.kind ≠ .id → ∀ text, node.text = some text →
    node.children = [] ∧ source.slice? node.span = some text

namespace ConcreteKind

/-- No type of the concrete tree has one of the kinds that make up identifiers. -/
theorem ofType_plain (type : String) (kind : Kind) (known : ofType? type = some kind) :
    kind ≠ .id ∧ kind.wrapsIdentifier = false := by
  have rows : ∀ row ∈ table, row.2 ≠ .id ∧ row.2.wrapsIdentifier = false := by decide
  obtain ⟨before,after,split,_⟩ := List.lookup_eq_some_iff.mp known
  exact rows (type,kind) (by simp [split])

end ConcreteKind

namespace Node

inductive Formed (source : Source) : Node → Prop
  | identifier (span : Span) (text : String) : Formed source ⟨.id,span,some text,[]⟩
  | wrapper (kind : Kind) (span : Span) (text : String) (wraps : kind.wrapsIdentifier = true) :
      Formed source ⟨kind,span,none,[⟨.id,span,some text,[]⟩]⟩
  | plain (kind : Kind) (span : Span) (text : Option String) (children : List Node)
      (other : kind ≠ .id ∧ kind.wrapsIdentifier = false)
      (apart : ∀ child ∈ children, child.kind ≠ .id)
      (leaf : ∀ held, text = some held → children = [] ∧ source.slice? span = some held) :
      Formed source ⟨kind,span,text,children⟩

structure FormedAll (source : Source) (nodes : List Node) : Prop where
  formed : ∀ node ∈ preorderAll nodes, Formed source node
  notRoot : ∀ root ∈ nodes, root.kind ≠ .id

private theorem formedAll_nil (source : Source) : FormedAll source [] where
  formed := List.forall_mem_nil _
  notRoot := List.forall_mem_nil _

private theorem formedAll_append (source : Source) (left right : List Node)
    (first : FormedAll source left) (second : FormedAll source right)
    : FormedAll source (left ++ right) where
  formed := by
    rw [preorderAll_append,List.forall_mem_append]
    exact ⟨first.formed,second.formed⟩
  notRoot := List.forall_mem_append.mpr ⟨first.notRoot,second.notRoot⟩

private theorem formedAll_singleton (source : Source) (node : Node) (formed : Formed source node)
    (below : ∀ inner ∈ preorderAll node.children, Formed source inner) (other : node.kind ≠ .id) :
    FormedAll source [node] where
  formed := by
    rw [preorderAll_singleton,preorder_eq,List.forall_mem_cons]
    exact ⟨formed,below⟩
  notRoot := List.forall_mem_singleton.mpr other

end Node

namespace ConcreteNode

private theorem identifierNode_formed (source : Source) (node : ConcreteNode) :
    Node.FormedAll source [node.identifierNode source] := by
  have wraps : (node.identifierNode source).kind.wrapsIdentifier = true := by
    unfold identifierNode
    cases node.isDeclaredName <;> rfl
  have other : (node.identifierNode source).kind ≠ .id := by
    intro same
    rw [same] at wraps
    cases wraps
  apply Node.formedAll_singleton
  · exact .wrapper _ node.span _ wraps
  · intro inner member
    have only : inner = ⟨.id,node.span,some ((source.slice? node.span).getD ""),[]⟩ := by
      simpa [identifierNode,Node.preorderAll,Node.preorder] using member
    rw [only]
    exact .identifier node.span _
  · exact other

private theorem own_formed (source : Source) (node : ConcreteNode) :
    Node.FormedAll source (node.own source).nodes := by
  unfold own
  split_ifs with identifier
  · exact identifierNode_formed source node
  · exact Node.formedAll_nil source

/-- Of tokens alone no node comes. -/
private theorem converts_tokens (source : Source) (limits : Limits) (level : Nat)
    (nodes : List ConcreteNode) (converted : Converted)
    (converts : Converts source limits level nodes converted)
    (tokens : ∀ node ∈ nodes, node.named = false ∧ node.error = false) : converted.nodes = [] := by
  induction converts with
  | nil level => rfl
  | cons _ _ one more =>
    rw [List.forall_mem_cons] at tokens
    rw [Converted.append,one (List.forall_mem_singleton.mpr tokens.1),more tokens.2,List.append_nil]
  | closed node _ _ =>
    obtain ⟨token,_⟩ := List.forall_mem_singleton.mp tokens
    simp [own,isIdentifier,proper,token]
  | hoisted node _ enters _ _ _ =>
    obtain ⟨token,parsed⟩ := List.forall_mem_singleton.mp tokens
    simp [entered,token,parsed] at enters
  | regular node kind _ proper _ _ _ _ =>
    obtain ⟨token,_⟩ := List.forall_mem_singleton.mp tokens
    exact absurd (token.symm.trans (proper_fields node proper).2.2.1) Bool.false_ne_true

/-- Regions that did not parse are nodes of their own, and not mere tokens. -/
def RegionNamed (site : ConcreteSite) : Prop := site.node.error = true → site.node.named = true

private theorem mem_sitesAll (above nodes : List ConcreteNode) (node : ConcreteNode)
    (member : node ∈ nodes) : (⟨above,node⟩ : ConcreteSite) ∈ sitesAll above nodes := by
  induction nodes with
  | nil => cases member
  | cons first rest ih =>
    rw [sitesAll_cons,List.mem_append]
    rcases List.mem_cons.mp member with rfl | later
    · rw [sitesAll_singleton]
      exact .inl List.mem_cons_self
    · exact .inr (ih later)

/-- A node with text has no named nodes in it, so that no nodes come of what is
in it. -/
private theorem leafText_formed (source : Source) (limits : Limits) (level : Nat)
    (above : List ConcreteNode) (node : ConcreteNode) (below : Converted) (held : String)
    (regions : ∀ site ∈ sitesAll above node.children, RegionNamed site)
    (inside : Converts source limits level node.children below)
    (text : node.leafText source = some held) :
    below.nodes = [] ∧ source.slice? node.span = some held := by
  unfold leafText at text
  split_ifs at text with inner
  have unnamed := eq_false_of_ne_true inner
  rw [List.any_eq_false] at unnamed
  refine ⟨converts_tokens source limits level node.children below inside ?_,text⟩
  intro child member
  have token := eq_false_of_ne_true (unnamed child member)
  have named := regions _ (mem_sitesAll above node.children child member)
  exact ⟨token,eq_false_of_ne_true fun broken => unnamed child member (named broken)⟩

theorem converts_formed (source : Source) (limits : Limits) (level : Nat)
    (above nodes : List ConcreteNode) (converted : Converted)
    (converts : Converts source limits level nodes converted)
    (regions : ∀ site ∈ sitesAll above nodes, RegionNamed site) :
    Node.FormedAll source converted.nodes := by
  induction converts generalizing above with
  | nil level => exact Node.formedAll_nil source
  | cons _ _ one more =>
    rw [sitesAll_cons,List.forall_mem_append] at regions
    exact Node.formedAll_append source _ _ (one above regions.1) (more above regions.2)
  | closed node _ _ => exact own_formed source node
  | hoisted node _ _ _ _ below =>
    rw [sitesAll_singleton,List.forall_mem_cons] at regions
    exact Node.formedAll_append source _ _ (own_formed source node) (below (node :: above) regions.2)
  | regular node kind _ _ _ known inside below =>
    rw [sitesAll_singleton,List.forall_mem_cons] at regions
    have inner := below (node :: above) regions.2
    have plain := ConcreteKind.ofType_plain node.type kind known
    have leaf := fun held => leafText_formed source limits _ (node :: above) node _ held regions.2
      inside
    exact Node.formedAll_singleton source _
      (.plain kind node.span _ _ plain inner.notRoot leaf) inner.formed plain.1

private theorem fits_encloses (root : ConcreteNode) (above nodes : List ConcreteNode)
    (fits : ∀ site ∈ sitesAll above nodes, Fits root site) :
    ∀ site ∈ sitesAll above nodes, (above.headD root).span.encloses site.node.span = true := by
  induction nodes using forest_induction generalizing above with
  | nil => exact nofun
  | cons node rest below later =>
    rw [sitesAll_cons,sitesAll_singleton,List.cons_append,List.forall_mem_cons,
      List.forall_mem_append] at fits ⊢
    obtain ⟨⟨_,enclosed⟩,inside,others⟩ := fits
    refine ⟨enclosed,?_,later above others⟩
    intro site member
    have inner := below (node :: above) inside site member
    exact Span.encloses_trans _ node.span site.node.span enclosed inner

private theorem complaint_span (source : Source) (site : ConcreteSite) (error : SyntaxError)
    (reported : site.complaint? source = some error) : error.span = site.node.span := by
  unfold ConcreteSite.complaint? at reported
  split_ifs at reported <;> cases reported <;> rfl

end ConcreteNode

namespace File

private theorem stop_le_of_encloses (length : Offset) (span : Span)
    (enclosed : (Span.mk 0 length).encloses span = true) : span.stop ≤ length := by
  simp only [Span.encloses,Bool.and_eq_true,decide_eq_true_eq] at enclosed
  exact enclosed.2

/-- Every file that is converted from a source has the shape of one, whatever
nodes gave their place to their children on the way. -/
theorem ofConcrete_shaped (limits : Limits) (source : Source) (root : ConcreteNode) (file : File)
    (parsed : root.ParsedFrom source)
    (named : ∀ site ∈ root.inner, site.node.error = true → site.node.named = true)
    (converted : File.ofConcrete limits source root = .ok file) : file.Shaped source := by
  have lies := ofConcrete_lies limits source root file parsed converted
  have errors := ofConcrete_errors limits source root file converted
  obtain ⟨accepted,length⟩ := ofConcrete_ok limits source root file converted
  have converts := ConcreteNode.convertAll_converts source limits 1 root.children _ accepted
  obtain ⟨formed,notRoot⟩ :=
    ConcreteNode.converts_formed source limits 1 [] root.children _ converts named
  refine ⟨((Node.liesAll_iff _ _).mp lies).2.2,?_,?_,?_,notRoot,?_,?_,?_⟩
  · intro node member
    exact stop_le_of_encloses _ _ (Node.liesAll_encloses _ _ lies node member)
  · intro error member
    rw [errors] at member
    obtain ⟨site,visited,reported⟩ := List.mem_filterMap.mp member
    have enclosed := ConcreteNode.fits_encloses root [] root.children parsed.fits site
      (List.mem_filter.mp visited).1
    rw [ConcreteNode.complaint_span source site error reported,length]
    exact stop_le_of_encloses _ _ (Span.encloses_trans _ _ _ parsed.inside enclosed)
  · intro node member id
    cases formed node member with
    | identifier span text => exact ⟨rfl,rfl⟩
    | wrapper kind span text wraps => cases id; cases wraps
    | plain kind span text children other apart leaf => exact absurd id other.1
  · intro node member child inside id
    cases formed node member with
    | identifier span text => cases inside
    | wrapper kind span text wraps =>
      cases List.mem_singleton.mp inside
      exact ⟨wraps,rfl,rfl⟩
    | plain kind span text children other apart leaf => exact absurd id (apart child inside)
  · intro node member wraps
    cases formed node member with
    | identifier span text => cases wraps
    | wrapper kind span text _ => exact ⟨rfl,_,rfl,rfl⟩
    | plain kind span text children other apart leaf =>
      exact absurd (other.2.symm.trans wraps) Bool.false_ne_true
  · intro node member notId held text
    cases formed node member with
    | identifier span text => exact absurd rfl notId
    | wrapper kind span text wraps => cases text
    | plain kind span _ children other apart leaf => exact leaf held text

theorem unclosedArguments_shaped :
    unclosedArguments.ParsedFrom ⟨"List<int xs;",by decide⟩ ∧
      (∀ site ∈ unclosedArguments.inner, site.node.error = true → site.node.named = true) ∧
      File.ofConcrete .standard ⟨"List<int xs;",by decide⟩ unclosedArguments =
        .ok unclosedArgumentsFile ∧
      unclosedArgumentsFile.Shaped ⟨"List<int xs;",by decide⟩ := by
  have parsed : unclosedArguments.ParsedFrom ⟨"List<int xs;",by decide⟩ := by
    refine ⟨?_,by decide⟩
    simp only [ConcreteNode.inner,unclosedArguments,ConcreteNode.sitesAll,ConcreteNode.sites,
      ConcreteNode.Fits]
    decide
  have named : ∀ site ∈ unclosedArguments.inner,
      site.node.error = true → site.node.named = true := by decide
  have converted : File.ofConcrete .standard ⟨"List<int xs;",by decide⟩ unclosedArguments =
      .ok unclosedArgumentsFile := rfl
  exact ⟨parsed,named,converted,
    ofConcrete_shaped _ _ unclosedArguments unclosedArgumentsFile parsed named converted⟩

end File
end DartTree
