import DartTree.Proofs.Interchange.RoundTrip
import DartTree.Proofs.Interchange.WellFormed

/-! One node in and out of the interchange tree with nothing passed over. What
is accepted is the exported form of what comes of it, and a tree that is refused
for its syntax errors alone is one that would build but for them. -/
namespace DartTree

/-- Every span runs forward, every child lies inside its parent, and the tree
nests at most `limit` levels. -/
structure Node.WellFormed (node : Node) (limit : Nat) : Prop where
  forward : ∀ inner ∈ node.preorder, inner.span.start ≤ inner.span.stop
  nested : ∀ inner ∈ node.preorder, ∀ child ∈ inner.children,
    inner.span.encloses child.span = true
  shallow : ∀ row ∈ node.rows 1, row.level ≤ limit

theorem Node.wellFormed_iff (node : Node) (limit : Nat) :
    node.WellFormed limit ↔ node.Lies .largest ∧ Node.Shallow limit 1 [node] := by
  have alone : Node.rowsAll 1 [node] = node.rows 1 := List.append_nil _
  rw [Node.lies_iff,Node.Shallow,alone]
  constructor
  · intro wellFormed
    exact ⟨⟨Span.largest_encloses node.span,wellFormed.forward,wellFormed.nested⟩,
      wellFormed.shallow⟩
  · rintro ⟨⟨_,forward,nested⟩,shallow⟩
    exact ⟨forward,nested,shallow⟩

namespace RawNode

def recovered (node : RawNode) : Bool := node.isMissing || node.isError

private theorem build_unbounded (limits : Limits) (level : Nat) (node : RawNode) :
    build limits none level node = build limits (some .largest) level node := by
  obtain ⟨type,text,start,stop,children⟩ := node
  have same : check limits none level ⟨type,text,start,stop,children⟩ =
      check limits (some .largest) level ⟨type,text,start,stop,children⟩ := by
    simp only [check,Span.largest_encloses,if_true]
  rw [build,build,same]

private theorem ofNodes_eq_map (nodes : List Node) : ofNodes nodes = nodes.map ofNode := by
  induction nodes with
  | nil => rfl
  | cons node rest ih => rw [ofNodes,ih,List.map_cons]

/-- Without syntax errors nothing was removed: what was built is exported as the
nodes that it was built from. -/
theorem builds_clean {limits : Limits} {bounds : Option Span} {first : Nat}
    {above nodes : List RawNode} {built : Built}
    (builds : Builds limits bounds first above nodes built) (accepted : built.failure = none)
    (clean : built.errors = []) : built.nodes.map ofNode = nodes := by
  induction builds with
  | nil above => rfl
  | @cons above node rest one more head tail own others =>
    rw [Built.andThen_failure,Option.or_eq_none_iff] at accepted
    rw [Built.andThen_built one more accepted.1,Built.append,List.append_eq_nil_iff] at clean
    rw [Built.andThen_built one more accepted.1,Built.append,List.map_append,
      own accepted.1 clean.1,others accepted.2 clean.2,List.singleton_append]
  | refused node error wrong => cases accepted
  | token node sound missing => cases clean
  | region node sound present broken inside below => cases clean
  | regular node kind sound present parsed named inside below =>
    rw [Built.wrap_failure] at accepted
    rw [Built.wrap_errors] at clean
    have children := below accepted clean
    rw [Built.wrap_nodes _ _ accepted,List.map_singleton,ofNode,ofNodes_eq_map,named,children]
    cases node
    rfl

mutual

private theorem ofNode_regular (above : List RawNode) (node : Node) :
    ∀ site ∈ (ofNode node).sites above, site.node.recovered = false := by
  obtain ⟨kind,span,text,children⟩ := node
  rw [ofNode,sites,List.forall_mem_cons]
  refine ⟨?_,ofNodes_regular _ children⟩
  have present : isMissing ⟨kind.name,text,span.start,span.stop,ofNodes children⟩ = false :=
    kind.name_not_missing
  have parsed : isError ⟨kind.name,text,span.start,span.stop,ofNodes children⟩ = false :=
    decide_eq_false kind.name_ne_error
  rw [recovered,present,parsed]
  rfl

private theorem ofNodes_regular (above : List RawNode) (nodes : List Node) :
    ∀ site ∈ sitesAll above (ofNodes nodes), site.node.recovered = false := by
  cases nodes with
  | nil => exact nofun
  | cons node rest =>
    rw [ofNodes,sitesAll,List.forall_mem_append]
    exact ⟨ofNode_regular above node,ofNodes_regular above rest⟩

end

theorem complaint_eq_none_iff (site : RawSite) :
    site.complaint? = none ↔ site.node.recovered = false := by
  unfold RawSite.complaint? recovered
  cases site.node.isMissing <;> cases site.node.isError <;> simp

private theorem offence_ne_syntaxErrors (limits : Limits) (whole : Option Span) (site : RawSite)
    (errors : List SyntaxError) : site.offence limits whole ≠ some (.syntaxErrors errors) := by
  unfold RawSite.offence
  split_ifs with deep backward known
  · simp
  · simp
  · split <;> simp
  · split <;> simp

def checkedSites (node : RawNode) : List RawSite := (node.sites []).filter RawSite.checked

private theorem build_alone (node : RawNode) :
    (node.build .standard none 1).failure =
        node.checkedSites.findSome? (RawSite.offence .standard none) ∧
      ((node.build .standard none 1).failure = none →
        (node.build .standard none 1).errors = node.checkedSites.filterMap RawSite.complaint? ∧
          ((node.build .standard none 1).errors = [] →
            (node.build .standard none 1).nodes.map ofNode = [node])) := by
  have builds := builds .standard none 1 [] [node]
  have failure := builds_failure builds rfl
  have reports := builds_reports builds rfl
  have clean := builds_clean builds
  rw [buildAll_singleton] at failure reports clean
  rw [RawSite.offenceFrom_one,← sites_eq] at failure reports
  refine ⟨failure,?_⟩
  intro accepted
  rw [passed_eq_self _ _ (failure.symm.trans accepted)] at reports
  exact ⟨reports,clean accepted⟩

/-- The three ends of a strict import. -/
theorem toNode_cases (node : RawNode) :
    (∃ error, node.checkedSites.findSome? (RawSite.offence .standard none) = some error ∧
        node.toNode = .error error) ∨
      (∀ site ∈ node.checkedSites, site.offence .standard none = none) ∧
        ((∃ result, ofNode result = node ∧ node.toNode = .ok result) ∨
          node.checkedSites.filterMap RawSite.complaint? ≠ [] ∧
            node.toNode =
              .error (.syntaxErrors (node.checkedSites.filterMap RawSite.complaint?))) := by
  obtain ⟨failure,reports⟩ := build_alone node
  unfold toNode
  generalize node.build .standard none 1 = built at failure reports
  obtain ⟨nodes,errors,outcome⟩ := built
  cases outcome with
  | some error => exact .inl ⟨error,failure.symm,rfl⟩
  | none =>
    obtain ⟨same,clean⟩ := reports rfl
    refine .inr ⟨List.findSome?_eq_none_iff.mp failure.symm,?_⟩
    rw [← same]
    cases errors with
    | nil =>
      obtain ⟨result,rfl,back⟩ := List.map_eq_singleton_iff.mp (clean rfl)
      exact .inl ⟨result,back,rfl⟩
    | cons error rest =>
      refine .inr ⟨List.cons_ne_nil error rest,?_⟩
      dsimp only
      cases nodes.getLast? <;> rfl

private theorem toNode_exported (node : Node) :
    (ofNode node).toNode = .ok node ↔ node.WellFormed Limits.defaultTreeDepth := by
  rw [Node.wellFormed_iff]
  unfold toNode
  rw [build_unbounded]
  rcases build_exported .standard .largest 1 node with
    ⟨lies,shallow,built⟩ | ⟨unfit,error,failed,_⟩
  · rw [built]
    exact ⟨fun _ => ⟨lies,shallow⟩,fun _ => rfl⟩
  · generalize build .standard _ 1 _ = built at failed
    obtain ⟨nodes,errors,failure⟩ := built
    cases failed
    exact ⟨nofun,fun fits => absurd fits unfit⟩

/-- What is accepted has no part that comes of error recovery, so that the export
undoes a strict import and is undone by it. It is for syntax errors that a tree
is refused exactly if every node that is looked at is sound and one comes of
error recovery, and then all those that are looked at are reported. -/
theorem toNode_strict (raw : RawNode) (node : Node) (errors : List SyntaxError) :
    (raw.toNode = .ok node →
        ofNode node = raw ∧ ∀ site ∈ raw.sites [], site.node.recovered = false) ∧
      ((ofNode node).toNode = .ok node ↔ node.WellFormed Limits.defaultTreeDepth) ∧
      (raw.toNode = .error (.syntaxErrors errors) ↔
        (∀ site ∈ raw.checkedSites, site.offence .standard none = none) ∧
          (∃ site ∈ raw.sites [], site.node.recovered = true) ∧
          errors = raw.checkedSites.filterMap RawSite.complaint?) ∧
      (raw.toNode = .error (.syntaxErrors errors) → errors ≠ []) := by
  rcases toNode_cases raw with
    ⟨error,wrong,refused⟩ | ⟨sound,⟨result,rfl,accepted⟩ | ⟨reported,refused⟩⟩
  · obtain ⟨site,member,offence⟩ := List.exists_of_findSome?_eq_some wrong
    have other : error ≠ .syntaxErrors errors := by
      rintro rfl
      exact offence_ne_syntaxErrors .standard none site errors offence
    have unsound : ¬∀ site ∈ raw.checkedSites, site.offence .standard none = none := by
      intro sound
      rw [sound site member] at offence
      cases offence
    rw [refused]
    simp only [Except.error.injEq,other,false_iff,reduceCtorEq,false_imp_iff,true_and,and_true]
    exact ⟨toNode_exported node,fun reasons => unsound reasons.1⟩
  · have regular := ofNode_regular [] result
    rw [accepted]
    simp only [Except.ok.injEq,reduceCtorEq,false_iff,false_imp_iff,and_true]
    refine ⟨?_,toNode_exported node,?_⟩
    · rintro rfl
      exact ⟨rfl,regular⟩
    · rintro ⟨_,⟨site,member,recovered⟩,_⟩
      exact Bool.false_ne_true ((regular site member).symm.trans recovered)
  · have found : ∃ site ∈ raw.sites [], site.node.recovered = true := by
      obtain ⟨error,member⟩ := List.exists_mem_of_ne_nil _ reported
      obtain ⟨site,looked,complaint⟩ := List.mem_filterMap.mp member
      refine ⟨site,(List.mem_filter.mp looked).1,?_⟩
      by_contra regular
      rw [(complaint_eq_none_iff site).mpr (eq_false_of_ne_true regular)] at complaint
      cases complaint
    rw [refused]
    simp only [Except.error.injEq,ImportError.syntaxErrors.injEq,reduceCtorEq,false_imp_iff,
      true_and]
    refine ⟨toNode_exported node,?_,?_⟩
    · exact ⟨fun same => ⟨sound,found,same.symm⟩,fun reasons => reasons.2.2.symm⟩
    · rintro rfl
      exact reported

def plainSum : RawNode := ⟨"additive_expression",none,0,5,[
  ⟨"literal_expression",some "1",0,1,[]⟩,
  ⟨"additive_operator",some "+",2,3,[]⟩,
  ⟨"literal_expression",some "2",4,5,[]⟩]⟩

def plainSumNode : Node := ⟨.additiveExpression,⟨0,5⟩,none,[
  ⟨.literalExpression,⟨0,1⟩,some "1",[]⟩,
  ⟨.additiveOperator,⟨2,3⟩,some "+",[]⟩,
  ⟨.literalExpression,⟨4,5⟩,some "2",[]⟩]⟩

def brokenSum : RawNode := ⟨"ERROR",some "1 +",0,3,[⟨"MISSING literal",none,3,3,[]⟩]⟩

theorem plainSum_strict :
    plainSum.toNode = .ok plainSumNode ∧ ofNode plainSumNode = plainSum ∧
      (∀ site ∈ plainSum.sites [], site.node.recovered = false) ∧
      plainSumNode.WellFormed Limits.defaultTreeDepth ∧
      brokenSum.toNode =
        .error (.syntaxErrors [.unexpected (some "1 +") ⟨0,3⟩,.missing "literal" ⟨3,3⟩]) ∧
      brokenSum.checkedSites.filterMap RawSite.complaint? ≠ [] := by
  have accepted : plainSum.toNode = .ok plainSumNode := rfl
  have refused : brokenSum.toNode =
      .error (.syntaxErrors (brokenSum.checkedSites.filterMap RawSite.complaint?)) := rfl
  obtain ⟨back,exported,_,_⟩ := toNode_strict plainSum plainSumNode []
  obtain ⟨_,_,_,reported⟩ := toNode_strict brokenSum plainSumNode _
  obtain ⟨same,regular⟩ := back accepted
  exact ⟨accepted,same,regular,exported.mp (same ▸ accepted),refused,reported refused⟩

end RawNode
end DartTree
