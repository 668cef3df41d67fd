import DartTree.Proofs.Interchange.Import
import Mathlib.Logic.Function.Basic

/-! A builder that is used more than once. A call only adds to what is there, and
what it adds does not depend on it. Of a call that fails the syntax errors stay
up to the failure, and those nodes that nothing but regions without a place of
their own stands above. -/
namespace DartTree

namespace Built

def outcome (built : Built) : Except ImportError Unit :=
  match built.failure with
  | some error => .error error
  | none => .ok ()

end Built

namespace Builder

def extend (builder : Builder) (built : Built) : Builder :=
  { builder with
    nodes := builder.nodes ++ built.nodes
    errors := builder.errors ++ built.errors }

private theorem extend_report (builder : Builder) (error : SyntaxError) (below : Built) :
    (builder.report error).extend below = builder.extend (below.withError error) := by
  simp [extend,report,Built.withError]

private theorem extend_append (builder : Builder) (first rest : Built) :
    (builder.extend first).extend rest = builder.extend (first.append rest) := by
  simp [extend,Built.append]

private theorem close_extend (builder : Builder) (below : Built) (node : List Node → Node) :
    builder.close (extend { builder with nodes := [] } below) below.outcome node =
      (builder.extend (below.wrap node),(below.wrap node).outcome) := by
  unfold close Built.outcome Built.wrap
  cases below.failure <;> simp [extend,push]

mutual

/-- Whatever is there before a call, the same is added to it. -/
theorem add_eq (builder : Builder) (bounds : Option Span) (level : Nat) (node : RawNode) :
    builder.add bounds level node =
      (builder.extend (node.build builder.limits bounds level),
        (node.build builder.limits bounds level).outcome) := by
  obtain ⟨type,text,start,stop,children⟩ := node
  rw [add,RawNode.build]
  cases RawNode.check builder.limits bounds level ⟨type,text,start,stop,children⟩ with
  | some error => simp [extend,Built.fail,Built.outcome]
  | none =>
    dsimp only
    split_ifs with missing broken
    · simp [extend,report,Built.outcome]
    · rw [addAll_eq,extend_report]
      rfl
    · cases Kind.ofName? type with
      | none => simp [extend,Built.fail,Built.outcome]
      | some kind =>
        dsimp only
        rw [addAll_eq]
        exact close_extend builder _ _

theorem addAll_eq (builder : Builder) (bounds : Option Span) (level : Nat) (nodes : List RawNode) :
    builder.addAll bounds level nodes =
      (builder.extend (RawNode.buildAll builder.limits bounds level nodes),
        (RawNode.buildAll builder.limits bounds level nodes).outcome) := by
  cases nodes with
  | nil => simp [addAll,RawNode.buildAll,extend,Built.outcome]
  | cons node rest =>
    rw [addAll,RawNode.buildAll,add_eq]
    cases failed : (RawNode.build builder.limits bounds level node).failure with
    | some error => simp only [Built.outcome,failed]
    | none =>
      simp only [Built.outcome,failed]
      rw [addAll_eq,extend_append]
      rfl

end

end Builder

namespace RawSite

/-- The node is one of the tree, and only regions that did not parse are above
it. -/
def outermost (site : RawSite) : Bool :=
  !site.node.isMissing && !site.node.isError && site.above.all RawNode.isError

/-- The node stands below another. Trees that are alike at places that are alike
count as one: of them the first is the one that fails. -/
def isBelow (site other : RawSite) : Bool := decide (other.node :: other.above <:+ site.above)

/-- A builder of its own makes nothing but `result` of the node where it stands
in a tree that starts at level `first` inside `bounds`. -/
def Becomes (limits : Limits) (bounds : Option Span) (first : Nat) (site : RawSite)
    (result : Node) : Prop :=
  ∃ errors, Builder.add ⟨limits,[],[]⟩ (RawNode.boundsBelow bounds site.above)
    (first + site.above.length) site.node = (⟨limits,[result],errors⟩,.ok ())

end RawSite

namespace RawNode

/-- A node by itself, built where it stands. -/
private theorem becomes_built {limits : Limits} {bounds : Option Span} {first : Nat}
    {above : List RawNode} {node : RawNode} {built : Built} (result : Node)
    (builds : Builds limits bounds first above [node] built) (accepted : built.failure = none)
    (single : built.nodes = [result]) :
    RawSite.Becomes limits bounds first ⟨above,node⟩ result := by
  have same := builds_unique _ _ _ _ _ _ builds
  rw [buildAll_singleton] at same
  refine ⟨built.errors,?_⟩
  rw [Builder.add_eq,same]
  simp only [Builder.extend,Built.outcome,accepted,single,List.nil_append]

/-- Nothing below a node that is kept reaches the output by itself. -/
private theorem outermost_below (above : List RawNode) (node : RawNode)
    (parsed : node.isError = false) :
    ∀ site ∈ sitesAll (node :: above) node.children, site.outermost = false := by
  intro site member
  have enclosing : node ∈ site.above :=
    (above_suffix (node :: above) node.children site member).subset List.mem_cons_self
  have blocked : site.above.all isError = false := by
    rw [List.all_eq_false]
    exact ⟨node,enclosing,by simp [parsed]⟩
  rw [RawSite.outermost,blocked,Bool.and_false]

private theorem free_below (above : List RawNode) (node : RawNode) (free : above.all isError = true)
    (broken : node.isError = true) : (node :: above).all isError = true := by
  rw [List.all_cons,broken,free,Bool.true_and]

/-- A build that succeeds gives one node for each that is kept and has no kept
node above it. -/
private theorem builds_outermost {limits : Limits} {bounds : Option Span} {first : Nat}
    {above nodes : List RawNode} {built : Built}
    (builds : Builds limits bounds first above nodes built) (shown : above.any isMissing = false)
    (free : above.all isError = true) (accepted : built.failure = none) :
    List.Forall₂ (RawSite.Becomes limits bounds first)
      (((sitesAll above nodes).filter RawSite.checked).filter RawSite.outermost) built.nodes := by
  induction builds with
  | nil above => exact .nil
  | @cons above node rest one more head tail own others =>
    rw [Built.andThen_failure,Option.or_eq_none_iff] at accepted
    rw [sitesAll_cons,List.filter_append,List.filter_append,Built.andThen_built one more accepted.1]
    exact List.rel_append (own shown free accepted.1) (others shown free accepted.2)
  | refused node error wrong => cases accepted
  | token node sound missing =>
    rw [checked_token _ node shown missing]
    simp [RawSite.outermost,missing]
  | @region above _ node sound present broken inside below =>
    rw [checked_sites above node shown,
      List.filter_cons_of_neg (by simp [RawSite.outermost,broken])]
    exact below (shown_below above node shown present) (free_below above node free broken) accepted
  | @regular above below node kind sound present parsed named inside _ =>
    have built := Builds.regular node kind sound present parsed named inside
    have nothing : ((sitesAll (node :: above) node.children).filter RawSite.checked).filter
        RawSite.outermost = [] := by
      rw [List.filter_eq_nil_iff]
      intro site member
      simp [outermost_below above node parsed site (List.mem_filter.mp member).1]
    have single := Built.wrap_nodes below (⟨kind,node.span,node.text,·⟩)
      (by rw [← accepted,Built.wrap_failure])
    rw [checked_sites above node shown,
      List.filter_cons_of_pos (by simp [RawSite.outermost,present,parsed,free]),nothing,single]
    exact .cons (becomes_built _ built accepted single) .nil

/-- Nothing that fails after a node was built stands below one of its nodes. -/
private theorem not_isBelow (limits : Limits) (bounds : Option Span) (first : Nat)
    (above nodes rest : List RawNode) (failing earlier : RawSite)
    (sound : ∀ site ∈ (sitesAll above nodes).filter RawSite.checked,
      site.offenceFrom limits bounds first = none)
    (later : failing ∈ (sitesAll above rest).filter RawSite.checked)
    (wrong : failing.offenceFrom limits bounds first ≠ none)
    (member : earlier ∈ sitesAll above nodes) : failing.isBelow earlier = false := by
  rw [RawSite.isBelow,decide_eq_false_iff_not]
  intro inside
  obtain ⟨listed,visible⟩ := List.mem_filter.mp later
  have deeper := (above_suffix above nodes earlier member).length_le
  have below := mem_below above rest failing earlier.node earlier.above listed inside deeper
  have same := below_subset above nodes earlier member below
  exact wrong (sound failing (List.mem_filter.mpr ⟨same,visible⟩))

/-- A node that is kept and fails leaves nothing: it is above what failed, and
above all that was built before that. -/
private theorem nothing_left (above : List RawNode) (node : RawNode) (parsed : node.isError = false)
    (passed after : List RawSite) (failing : RawSite)
    (listed : ∀ site ∈ passed ++ failing :: after, site ∈ sitesAll (node :: above) node.children) :
    List.filter (fun earlier : RawSite => earlier.outermost && !failing.isBelow earlier)
      (⟨above,node⟩ :: passed) = [] := by
  have inside := above_suffix (node :: above) node.children failing (listed failing (by simp))
  rw [List.filter_eq_nil_iff,List.forall_mem_cons]
  refine ⟨by simp [RawSite.isBelow,inside],?_⟩
  intro earlier member
  have hidden := outermost_below above node parsed earlier
    (listed earlier (List.mem_append_left _ member))
  simp [hidden]

/-- Of a node that nothing is wrong with, what is wrong is below it. -/
private theorem split_sound (limits : Limits) (bounds : Option Span) (first : Nat)
    (above : List RawNode) (node : RawNode) (below before after : List RawSite) (failing : RawSite)
    (split : ⟨above,node⟩ :: below = before ++ failing :: after)
    (sound : RawSite.offenceFrom limits bounds first ⟨above,node⟩ = none)
    (wrong : failing.offenceFrom limits bounds first ≠ none) :
    ∃ passed, before = ⟨above,node⟩ :: passed ∧ below = passed ++ failing :: after := by
  cases before with
  | nil =>
    obtain ⟨rfl,_⟩ := List.cons.inj split
    exact absurd sound wrong
  | cons earlier passed =>
    obtain ⟨rfl,rest⟩ := List.cons.inj split
    exact ⟨passed,rfl,rest⟩

private theorem failed_of_mem {limits : Limits} {bounds : Option Span} {first : Nat}
    {above nodes : List RawNode} {built : Built} {failing : RawSite}
    (builds : Builds limits bounds first above nodes built) (shown : above.any isMissing = false)
    (listed : failing ∈ (sitesAll above nodes).filter RawSite.checked)
    (wrong : failing.offenceFrom limits bounds first ≠ none) : built.failure ≠ none := by
  intro accepted
  have clean := (builds_failure builds shown).symm.trans accepted
  exact wrong (List.findSome?_eq_none_iff.mp clean failing listed)

/-- What a build leaves that comes to a node that is wrong: the nodes before it
that are complete and that no kept node is above. -/
theorem builds_leaves {limits : Limits} {bounds : Option Span} {first : Nat}
    {above nodes : List RawNode} {built : Built}
    (builds : Builds limits bounds first above nodes built) (shown : above.any isMissing = false)
    (free : above.all isError = true) (before : List RawSite) (failing : RawSite)
    (after : List RawSite)
    (split : (sitesAll above nodes).filter RawSite.checked = before ++ failing :: after)
    (sound : ∀ earlier ∈ before, earlier.offenceFrom limits bounds first = none)
    (wrong : failing.offenceFrom limits bounds first ≠ none) :
    List.Forall₂ (RawSite.Becomes limits bounds first)
      (before.filter fun earlier => earlier.outermost && !failing.isBelow earlier) built.nodes := by
  induction builds generalizing before after with
  | nil above => simp [sitesAll] at split
  | @cons above node rest one more head tail own others =>
    rw [sitesAll_cons,List.filter_append] at split
    rcases split_parts (fun site => site.offenceFrom limits bounds first ≠ none) _ _ before after
        failing split (by simpa using sound) with ⟨parts,passed,rfl,later⟩ | ⟨remaining,inFirst⟩
    · have clean : ∀ site ∈ (sitesAll above [node]).filter RawSite.checked,
          site.offenceFrom limits bounds first = none := by simpa using parts
      have accepted := (builds_failure head shown).trans (List.findSome?_eq_none_iff.mpr clean)
      have apart : ((sitesAll above [node]).filter RawSite.checked).filter
          (fun earlier => earlier.outermost && !failing.isBelow earlier) =
          ((sitesAll above [node]).filter RawSite.checked).filter RawSite.outermost := by
        apply List.filter_congr
        intro earlier member
        rw [not_isBelow limits bounds first above [node] rest failing earlier clean
          (by simp [later]) wrong (List.mem_filter.mp member).1]
        simp
      rw [List.filter_append,apart,Built.andThen_built one more accepted]
      exact List.rel_append (builds_outermost head shown free accepted)
        (others shown free passed after later
          (fun earlier member => sound earlier (List.mem_append_right _ member)))
    · have failed := failed_of_mem head shown (by simp [inFirst]) wrong
      rw [Built.andThen_failed one more failed]
      exact own shown free before remaining inFirst sound
  | refused node error fault =>
    rw [checked_sites _ node shown] at split
    cases before with
    | nil => exact .nil
    | cons earlier passed =>
      obtain ⟨rfl,_⟩ := List.cons.inj split
      cases fault.symm.trans (sound _ List.mem_cons_self)
  | token node accepted missing =>
    rw [checked_token _ node shown missing] at split
    obtain ⟨passed,_,nothing⟩ := split_sound _ _ _ _ _ _ _ _ _ split accepted wrong
    simp at nothing
  | @region above _ node accepted present broken inside below =>
    rw [checked_sites above node shown] at split
    obtain ⟨passed,rfl,rest⟩ := split_sound _ _ _ _ _ _ _ _ _ split accepted wrong
    rw [List.filter_cons_of_neg (by simp [RawSite.outermost,broken])]
    exact below (shown_below above node shown present) (free_below above node free broken) passed
      after rest (fun earlier member => sound earlier (List.mem_cons_of_mem _ member))
  | @regular above below node kind accepted present parsed named inside _ =>
    rw [checked_sites above node shown] at split
    obtain ⟨passed,rfl,rest⟩ := split_sound _ _ _ _ _ _ _ _ _ split accepted wrong
    have listed : ∀ site ∈ passed ++ failing :: after,
        site ∈ sitesAll (node :: above) node.children := by
      rw [← rest]
      exact fun site member => (List.mem_filter.mp member).1
    have visible := shown_below above node shown present
    have failed := failed_of_mem inside visible (by simp [rest]) wrong
    rw [nothing_left above node parsed passed after failing listed,Built.wrap_failed below _ failed]
    exact .nil

private theorem passed_split (offence : RawSite → Option ImportError) (before after : List RawSite)
    (failing : RawSite) (error : ImportError)
    (sound : ∀ earlier ∈ before, offence earlier = none) (wrong : offence failing = some error) :
    passed offence (before ++ failing :: after) = before := by
  rw [passed_append,List.findSome?_eq_none_iff.mpr sound]
  simp [passed,wrong]

private theorem build_failed_nodes (limits : Limits) (bounds : Option Span) (level : Nat)
    (node : RawNode) (parsed : node.isError = false)
    (failed : (build limits bounds level node).failure ≠ none) :
    (build limits bounds level node).nodes = [] := by
  rw [build_eq] at failed ⊢
  cases offence : node.offence limits bounds level with
  | some error => rfl
  | none =>
    simp only [offence,parsed,Bool.false_eq_true,if_false] at failed ⊢
    cases missing : node.isMissing with
    | true => rfl
    | false =>
      cases found : Kind.ofName? node.type with
      | none => rfl
      | some kind =>
        simp only [missing,found,Bool.false_eq_true,if_false,Built.wrap_failure] at failed
        exact Built.wrap_failed _ _ failed

end RawNode

namespace Builder

structure Call where
  output : Nat
  bounds : Option Span
  -- counted without end: starts whose levels run over a machine word are left out
  level : Nat
  node : RawNode

def Call.alone (call : Call) (limits : Limits) : Builder × Except ImportError Unit :=
  Builder.add ⟨limits,[],[]⟩ call.bounds call.level call.node

/-- What is left of a call that fails with `error`, which is what is wrong with
the first node that anything is wrong with. Syntax errors are those of the nodes
before it. Nodes are those before it, but not above it, that stand below nothing
but regions that did not parse. -/
def Call.Leaves (call : Call) (limits : Limits) (error : ImportError) (nodes : List Node)
    (errors : List SyntaxError) : Prop :=
  ∃ before failing after,
    (call.node.sites []).filter RawSite.checked = before ++ failing :: after ∧
      (∀ earlier ∈ before, earlier.offenceFrom limits call.bounds call.level = none) ∧
      failing.offenceFrom limits call.bounds call.level = some error ∧
      errors = before.filterMap RawSite.complaint? ∧
      List.Forall₂ (RawSite.Becomes limits call.bounds call.level)
        (before.filter fun earlier => earlier.outermost && !failing.isBelow earlier) nodes

private theorem leaves_failed (call : Call) (limits : Limits) (error : ImportError)
    (failed : (call.node.build limits call.bounds call.level).failure = some error) :
    call.Leaves limits error (call.node.build limits call.bounds call.level).nodes
      (call.node.build limits call.bounds call.level).errors := by
  have builds := RawNode.builds limits call.bounds call.level [] [call.node]
  have failure := RawNode.builds_failure builds rfl
  have reports := RawNode.builds_reports builds rfl
  have leaves := RawNode.builds_leaves builds rfl rfl
  rw [RawNode.buildAll_singleton,← RawNode.sites_eq] at failure reports leaves
  obtain ⟨before,failing,after,split,wrong,sound⟩ :=
    List.findSome?_eq_some_iff.mp (failure.symm.trans failed)
  rw [split,RawNode.passed_split _ before after failing error sound wrong] at reports
  exact ⟨before,failing,after,split,sound,wrong,reports,
    leaves before failing after split sound (by simp [wrong])⟩

structure Session where
  limits : Limits
  outputs : Nat → List Node
  errors : List SyntaxError

namespace Session

def make (session : Session) (call : Call) : Session × Except ImportError Unit :=
  let (after,outcome) := Builder.add ⟨session.limits,session.outputs call.output,session.errors⟩
    call.bounds call.level call.node
  ({ session with
      outputs := Function.update session.outputs call.output after.nodes
      errors := after.errors },outcome)

def run (session : Session) (calls : List Call) : Session :=
  calls.foldl (fun session call => (session.make call).1) session

def extend (session : Session) (output : Nat) (nodes : List Node) (errors : List SyntaxError) :
    Session where
  limits := session.limits
  outputs := Function.update session.outputs output (session.outputs output ++ nodes)
  errors := session.errors ++ errors

private theorem make_eq (session : Session) (call : Call) :
    session.make call =
      (session.extend call.output (call.node.build session.limits call.bounds call.level).nodes
          (call.node.build session.limits call.bounds call.level).errors,
        (call.node.build session.limits call.bounds call.level).outcome) := by
  rw [make,add_eq]
  rfl

structure Continues (earlier later : Session) : Prop where
  limits : later.limits = earlier.limits
  outputs : ∀ output, earlier.outputs output <+: later.outputs output
  errors : earlier.errors <+: later.errors

private theorem continues_make (session : Session) (call : Call) :
    Continues session (session.make call).1 := by
  rw [make_eq]
  refine ⟨rfl,?_,List.prefix_append _ _⟩
  intro output
  by_cases same : output = call.output
  · subst same
    simp [extend]
  · simp [extend,same]

theorem continues_run (session : Session) (calls : List Call) :
    Continues session (session.run calls) := by
  induction calls generalizing session with
  | nil => exact ⟨rfl,fun output => List.prefix_refl _,List.prefix_refl _⟩
  | cons call rest ih =>
    have first := continues_make session call
    have others := ih (session.make call).1
    exact ⟨others.limits.trans first.limits,
      fun output => (first.outputs output).trans (others.outputs output),
      first.errors.trans others.errors⟩

/-- However a builder was used before, what it holds and what the outputs hold
stays in front. A call that succeeds adds to its output and to the syntax errors
what a builder of its own makes of it, and one that fails adds what it leaves:
no node unless its own node is a region that did not parse. -/
theorem run_appends (session : Session) (calls : List Call) (call : Call) :
    Continues session (session.run calls) ∧
      ∃ nodes errors,
        ((session.run calls).make call).1 = (session.run calls).extend call.output nodes errors ∧
          (((session.run calls).make call).2 = .ok () →
            call.alone session.limits = (⟨session.limits,nodes,errors⟩,.ok ())) ∧
          ∀ error, ((session.run calls).make call).2 = .error error →
            call.Leaves session.limits error nodes errors ∧
              (call.node.isError = false → nodes = []) := by
  have continues := continues_run session calls
  refine ⟨continues,_,_,congrArg Prod.fst (make_eq (session.run calls) call),?_⟩
  rw [make_eq,continues.limits]
  constructor
  · intro accepted
    rw [Call.alone,add_eq]
    exact Prod.ext rfl accepted
  · intro error refused
    have failed : (call.node.build session.limits call.bounds call.level).failure = some error := by
      cases failure : (call.node.build session.limits call.bounds call.level).failure with
      | none => simp [Built.outcome,failure] at refused
      | some other => simpa [Built.outcome,failure] using refused
    refine ⟨leaves_failed call session.limits error failed,?_⟩
    intro parsed
    exact RawNode.build_failed_nodes _ _ _ _ parsed (by simp [failed])

def unused : Session := ⟨.standard,fun _ => [],[]⟩

def wholeStatement : Call := ⟨0,none,1,⟨"return_statement",none,0,7,[]⟩⟩

def cutRegion : Call := ⟨0,some ⟨0,20⟩,1,⟨"ERROR",some "?",8,20,[
  ⟨"break_statement",none,8,13,[]⟩,
  ⟨"MISSING ;",none,13,13,[]⟩,
  ⟨"block",none,14,20,[
    ⟨"continue_statement",none,15,18,[]⟩,
    ⟨"nothing",none,18,19,[]⟩]⟩]⟩⟩

theorem cutRegion_leaves_statement :
    ((unused.run [wholeStatement]).make cutRegion).2 = .error (.unknownKind "nothing" 18) ∧
      ∃ nodes errors,
        ((unused.run [wholeStatement]).make cutRegion).1 =
            (unused.run [wholeStatement]).extend 0 nodes errors ∧
          cutRegion.Leaves .standard (.unknownKind "nothing" 18) nodes errors := by
  obtain ⟨_,nodes,errors,added,_,failed⟩ := run_appends unused [wholeStatement] cutRegion
  have refused : ((unused.run [wholeStatement]).make cutRegion).2 =
      .error (.unknownKind "nothing" 18) := rfl
  exact ⟨refused,nodes,errors,added,(failed _ refused).1⟩

end Session
end Builder
end DartTree
