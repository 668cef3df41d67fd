import DartTree.Interchange.Build
import DartTree.Proofs.Grammar.Names
import DartTree.Proofs.Tree.Placement
import Mathlib.Data.List.Forall2

/-! What becomes of each node of the interchange tree, said of the node and of
those above it alone: whether the import looks at it, what it finds wrong with
it, which syntax error it reports and at which level it is kept. -/
namespace DartTree

abbrev RawSite := Site RawNode

namespace RawNode

mutual

def sites (above : List RawNode) : RawNode → List RawSite
  | ⟨type,text,start,stop,children⟩ =>
    ⟨above,⟨type,text,start,stop,children⟩⟩ ::
      sitesAll (⟨type,text,start,stop,children⟩ :: above) children

def sitesAll (above : List RawNode) : List RawNode → List RawSite
  | [] => []
  | node :: rest => node.sites above ++ sitesAll above rest

end

def boundsBelow (whole : Option Span) : List RawNode → Option Span
  | [] => whole
  | parent :: _ => some parent.span

end RawNode

namespace RawSite

/-- Nothing above stands for a token that was left out. -/
def checked (site : RawSite) : Bool := !site.above.any RawNode.isMissing

/-- What is wrong with a node: the first of too deep, running backward, outside
its parent, and of a type that is neither of error recovery nor names a kind. -/
def offence (limits : Limits) (whole : Option Span) (site : RawSite) : Option ImportError :=
  if limits.maxTreeDepth < site.level then some (.tooDeep limits.maxTreeDepth)
  else if site.node.stop < site.node.start then
    some (.invalidSpan site.node.start site.node.stop)
  else match (RawNode.boundsBelow whole site.above).filter (!·.encloses site.node.span) with
    | some parent => some (.childOutOfBounds site.node.span parent)
    | none =>
      if site.node.isMissing || site.node.isError || (Kind.ofName? site.node.type).isSome then none
      else some (.unknownKind site.node.type site.node.start)

def complaint? (site : RawSite) : Option SyntaxError :=
  if site.node.isMissing then some (.missing site.node.missingToken site.node.span)
  else if site.node.isError then some (.unexpected site.node.text site.node.span)
  else none

def kept (site : RawSite) : Bool :=
  site.checked && !site.node.isMissing && !site.node.isError

/-- The row of a node that is kept: regions that did not parse do not count for
its level, and its type is the name of its kind. -/
structure Shows (site : RawSite) (row : Row) : Prop where
  level : row.level = levelBelow RawNode.isError site.above
  kind : row.kind.name = site.node.type
  span : row.span = site.node.span
  text : row.text = site.node.text

end RawSite

def RawFile.sites (file : RawFile) : List RawSite := RawNode.sitesAll [] file.roots

def RawFile.bounds (file : RawFile) : Option Span := file.sourceLength.map (⟨0,·⟩)

namespace RawNode

theorem sites_eq (above : List RawNode) (node : RawNode) :
    node.sites above = sitesAll above [node] :=
  (List.append_nil _).symm

theorem sitesAll_singleton (above : List RawNode) (node : RawNode) :
    sitesAll above [node] = ⟨above,node⟩ :: sitesAll (node :: above) node.children := by
  cases node
  exact List.append_nil _

theorem sitesAll_cons (above : List RawNode) (node : RawNode) (rest : List RawNode) :
    sitesAll above (node :: rest) = sitesAll above [node] ++ sitesAll above rest := by
  rw [sitesAll,sites_eq]

mutual

private theorem children_induction {motive : List RawNode → Prop} (nil : motive [])
    (cons : ∀ node rest, motive node.children → motive rest → motive (node :: rest))
    (node : RawNode) : motive node.children := by
  obtain ⟨type,text,start,stop,children⟩ := node
  exact forest_induction nil cons children

theorem forest_induction {motive : List RawNode → Prop} (nil : motive [])
    (cons : ∀ node rest, motive node.children → motive rest → motive (node :: rest))
    (nodes : List RawNode) : motive nodes := by
  cases nodes with
  | nil => exact nil
  | cons node rest =>
    exact cons node rest (children_induction nil cons node) (forest_induction nil cons rest)

end

theorem above_suffix (above nodes : List RawNode) :
    ∀ site ∈ sitesAll above nodes, above <:+ site.above := by
  induction nodes using forest_induction generalizing above with
  | nil => exact nofun
  | cons node rest below later =>
    rw [sitesAll_cons,sitesAll_singleton,List.cons_append,List.forall_mem_cons,
      List.forall_mem_append]
    refine ⟨List.suffix_refl above,?_,later above⟩
    intro site member
    exact (List.suffix_cons node above).trans (below (node :: above) site member)

/-- A node is listed among those below each node above it. -/
theorem mem_below (above nodes : List RawNode) (site : RawSite) (parent : RawNode)
    (upper : List RawNode) (member : site ∈ sitesAll above nodes)
    (inside : parent :: upper <:+ site.above) (deeper : above.length ≤ upper.length) :
    site ∈ sitesAll (parent :: upper) parent.children := by
  induction nodes using forest_induction generalizing above with
  | nil => cases member
  | cons node rest below later =>
    rw [sitesAll_cons,sitesAll_singleton,List.cons_append,List.mem_cons,List.mem_append] at member
    rcases member with rfl | under | other
    · have shorter := inside.length_le
      simp only [List.length_cons] at shorter
      omega
    · rcases Nat.eq_or_lt_of_le deeper with same | further
      · have own := above_suffix (node :: above) node.children site under
        have length : (parent :: upper).length = (node :: above).length := by simp [same]
        have equal : parent :: upper = node :: above :=
          (List.suffix_of_suffix_length_le inside own (Nat.le_of_eq length)).eq_of_length length
        cases equal
        exact under
      · exact below (node :: above) under further
    · exact later above other deeper

theorem below_subset (above nodes : List RawNode) (site : RawSite)
    (member : site ∈ sitesAll above nodes) :
    sitesAll (site.node :: site.above) site.node.children ⊆ sitesAll above nodes := by
  induction nodes using forest_induction generalizing above with
  | nil => cases member
  | cons node rest below later =>
    rw [sitesAll_cons,sitesAll_singleton,List.cons_append,List.mem_cons,List.mem_append] at member
    rw [sitesAll_cons,sitesAll_singleton,List.cons_append]
    rcases member with rfl | under | other
    · exact List.subset_cons_of_subset _ (List.subset_append_left _ _)
    · exact List.subset_cons_of_subset _
        (List.subset_append_of_subset_left _ (below (node :: above) under))
    · exact List.subset_cons_of_subset _ (List.subset_append_of_subset_right _ (later above other))

theorem sitesAll_unchecked (above nodes : List RawNode) (hidden : above.any isMissing = true) :
    (sitesAll above nodes).filter RawSite.checked = [] := by
  obtain ⟨token,enclosing,missing⟩ := List.any_eq_true.mp hidden
  rw [List.filter_eq_nil_iff]
  intro site member checked
  have within := (above_suffix above nodes site member).subset enclosing
  have seen : site.above.any isMissing = true := List.any_eq_true.mpr ⟨token,within,missing⟩
  rw [RawSite.checked,seen] at checked
  cases checked

/-- Where a list starts with parts that are all sound, the first that is wrong
comes after them; otherwise it is one of them. -/
theorem split_parts {α : Type} (wrong : α → Prop) (left right before after : List α) (found : α)
    (split : left ++ right = before ++ found :: after)
    (sound : ∀ earlier ∈ before, ¬wrong earlier) :
    ((∀ part ∈ left, ¬wrong part) ∧
        ∃ rest, before = left ++ rest ∧ right = rest ++ found :: after) ∨
      ∃ rest, left = before ++ found :: rest := by
  rcases List.append_eq_append_iff.mp split with ⟨rest,rfl,later⟩ | ⟨rest,rfl,later⟩
  · exact .inl ⟨fun part member => sound part (List.mem_append_left _ member),rest,rfl,later⟩
  · cases rest with
    | nil =>
      refine .inl ⟨?_,[],?_,later.symm⟩
      · simpa using sound
      · simp
    | cons head rest =>
      obtain ⟨rfl,_⟩ := List.cons.inj later
      exact .inr ⟨rest,rfl⟩

section Shown

variable (above : List RawNode) (node : RawNode) (shown : above.any isMissing = false)
include shown

theorem checked_sites :
    (sitesAll above [node]).filter RawSite.checked =
      ⟨above,node⟩ :: (sitesAll (node :: above) node.children).filter RawSite.checked := by
  rw [sitesAll_singleton]
  exact List.filter_cons_of_pos (by simp [RawSite.checked,shown])

theorem checked_token (missing : node.isMissing = true) :
    (sitesAll above [node]).filter RawSite.checked = [⟨above,node⟩] := by
  rw [checked_sites above node shown,sitesAll_unchecked _ node.children (by simp [missing])]

theorem shown_below (present : node.isMissing = false) : (node :: above).any isMissing = false := by
  rw [List.any_cons,present,shown,Bool.false_or]

end Shown

def offence (limits : Limits) (bounds : Option Span) (level : Nat) (node : RawNode) :
    Option ImportError :=
  (node.check limits bounds level).or
    (if node.isMissing || node.isError || (Kind.ofName? node.type).isSome then none
      else some (.unknownKind node.type node.start))

private theorem offence_eq (limits : Limits) (whole : Option Span) (above : List RawNode)
    (node : RawNode) :
    RawSite.offence limits whole ⟨above,node⟩ =
      node.offence limits (boundsBelow whole above) (above.length + 1) := by
  unfold RawSite.offence offence check Site.level
  by_cases deep : limits.maxTreeDepth < above.length + 1
  · simp [deep]
  by_cases backward : node.stop < node.start
  · simp [deep,backward]
  simp only [deep,backward,if_false]
  cases boundsBelow whole above with
  | none => rfl
  | some parent => cases enclosed : parent.encloses node.span <;> simp [Option.filter,enclosed]

end RawNode

namespace RawSite

/-- What is wrong with a node of a tree that starts at level `first` inside
`bounds`. -/
def offenceFrom (limits : Limits) (bounds : Option Span) (first : Nat) (site : RawSite) :
    Option ImportError :=
  site.node.offence limits (RawNode.boundsBelow bounds site.above) (first + site.above.length)

theorem offenceFrom_one (limits : Limits) (whole : Option Span) :
    offenceFrom limits whole 1 = offence limits whole := by
  funext site
  rw [offenceFrom,Nat.add_comm 1]
  exact (RawNode.offence_eq limits whole site.above site.node).symm

end RawSite

namespace Built

def andThen (first rest : Built) : Built :=
  match first.failure with
  | some _ => first
  | none => first.append rest

theorem andThen_failed (first rest : Built) (failed : first.failure ≠ none) :
    first.andThen rest = first := by
  obtain ⟨error,same⟩ := Option.ne_none_iff_exists'.mp failed
  simp only [andThen,same]

theorem andThen_built (first rest : Built) (built : first.failure = none) :
    first.andThen rest = first.append rest := by
  simp only [andThen,built]

@[simp] theorem andThen_failure (first rest : Built) :
    (first.andThen rest).failure = first.failure.or rest.failure := by
  cases failed : first.failure with
  | none => rw [andThen_built first rest failed,Option.none_or]; rfl
  | some error => rw [andThen_failed first rest (by simp [failed]),failed,Option.some_or]

@[simp] theorem wrap_failure (below : Built) (node : List Node → Node) :
    (below.wrap node).failure = below.failure := by
  unfold wrap
  cases below.failure <;> rfl

@[simp] theorem wrap_errors (below : Built) (node : List Node → Node) :
    (below.wrap node).errors = below.errors := by
  unfold wrap
  cases below.failure <;> rfl

theorem wrap_nodes (below : Built) (node : List Node → Node) (built : below.failure = none) :
    (below.wrap node).nodes = [node below.nodes] := by
  simp only [wrap,built]

theorem wrap_failed (below : Built) (node : List Node → Node) (failed : below.failure ≠ none) :
    (below.wrap node).nodes = [] := by
  obtain ⟨error,same⟩ := Option.ne_none_iff_exists'.mp failed
  simp only [wrap,same]

end Built

namespace RawNode

theorem build_eq (limits : Limits) (bounds : Option Span) (level : Nat) (node : RawNode) :
    build limits bounds level node =
      match node.offence limits bounds level with
      | some error => .fail error
      | none =>
        if node.isMissing then { errors := [.missing node.missingToken node.span] }
        else if node.isError then
          (buildAll limits (some node.span) (level + 1) node.children).withError
            (.unexpected node.text node.span)
        else match Kind.ofName? node.type with
          | none => .fail (.unknownKind node.type node.start)
          | some kind =>
            (buildAll limits (some node.span) (level + 1) node.children).wrap
              (⟨kind,node.span,node.text,·⟩) := by
  obtain ⟨type,text,start,stop,children⟩ := node
  rw [build,offence]
  cases check limits bounds level ⟨type,text,start,stop,children⟩ with
  | some error => rfl
  | none =>
    cases missing : isMissing ⟨type,text,start,stop,children⟩ with
    | true => simp
    | false =>
      cases broken : isError ⟨type,text,start,stop,children⟩ with
      | true => simp
      | false => cases Kind.ofName? type <;> simp

private theorem buildAll_cons (limits : Limits) (bounds : Option Span) (level : Nat)
    (node : RawNode) (rest : List RawNode) :
    buildAll limits bounds level (node :: rest) =
      (build limits bounds level node).andThen (buildAll limits bounds level rest) := by
  rw [buildAll]
  rfl

theorem buildAll_singleton (limits : Limits) (bounds : Option Span) (level : Nat)
    (node : RawNode) : buildAll limits bounds level [node] = build limits bounds level node := by
  rw [buildAll_cons,buildAll]
  cases failed : (build limits bounds level node).failure with
  | some error => exact Built.andThen_failed _ _ (by simp [failed])
  | none =>
    rw [Built.andThen_built _ _ failed,Built.append,List.append_nil,List.append_nil,← failed]

/-- How the nodes below `above` come to what is built of them, in a tree that
starts at level `first` inside `bounds`. -/
inductive Builds (limits : Limits) (bounds : Option Span) (first : Nat) :
    List RawNode → List RawNode → Built → Prop
  | nil (above : List RawNode) : Builds limits bounds first above [] {}
  | cons {above : List RawNode} {node : RawNode} {rest : List RawNode} {one more : Built}
      (head : Builds limits bounds first above [node] one)
      (tail : Builds limits bounds first above rest more) :
      Builds limits bounds first above (node :: rest) (one.andThen more)
  | refused {above : List RawNode} (node : RawNode) (error : ImportError)
      (wrong : RawSite.offenceFrom limits bounds first ⟨above,node⟩ = some error) :
      Builds limits bounds first above [node] (.fail error)
  | token {above : List RawNode} (node : RawNode)
      (sound : RawSite.offenceFrom limits bounds first ⟨above,node⟩ = none)
      (missing : node.isMissing = true) :
      Builds limits bounds first above [node] { errors := [.missing node.missingToken node.span] }
  | region {above : List RawNode} {below : Built} (node : RawNode)
      (sound : RawSite.offenceFrom limits bounds first ⟨above,node⟩ = none)
      (present : node.isMissing = false) (broken : node.isError = true)
      (inside : Builds limits bounds first (node :: above) node.children below) :
      Builds limits bounds first above [node] (below.withError (.unexpected node.text node.span))
  | regular {above : List RawNode} {below : Built} (node : RawNode) (kind : Kind)
      (sound : RawSite.offenceFrom limits bounds first ⟨above,node⟩ = none)
      (present : node.isMissing = false) (parsed : node.isError = false)
      (named : kind.name = node.type)
      (inside : Builds limits bounds first (node :: above) node.children below) :
      Builds limits bounds first above [node] (below.wrap (⟨kind,node.span,node.text,·⟩))

private theorem builds_step (limits : Limits) (bounds : Option Span) (first : Nat)
    (above : List RawNode) (node : RawNode)
    (inside : Builds limits bounds first (node :: above) node.children
      (buildAll limits (some node.span) (first + above.length + 1) node.children)) :
    Builds limits bounds first above [node]
      (build limits (boundsBelow bounds above) (first + above.length) node) := by
  rw [build_eq]
  cases offence : node.offence limits (boundsBelow bounds above) (first + above.length) with
  | some error => exact .refused node error offence
  | none =>
    dsimp only
    split_ifs with missing broken
    · exact .token node offence missing
    · exact .region node offence (eq_false_of_ne_true missing) broken inside
    · have present := eq_false_of_ne_true missing
      have parsed := eq_false_of_ne_true broken
      cases found : Kind.ofName? node.type with
      | none =>
        -- a type without a name is an offence already
        have unknown := (Option.or_eq_none_iff.mp offence).2
        simp [present,parsed,found] at unknown
      | some kind =>
        have named := (Kind.ofName_eq_some_iff node.type kind).mp found
        exact .regular node kind offence present parsed named inside

theorem builds (limits : Limits) (bounds : Option Span) (first : Nat) (above nodes : List RawNode) :
    Builds limits bounds first above nodes
      (buildAll limits (boundsBelow bounds above) (first + above.length) nodes) := by
  induction nodes using forest_induction generalizing above with
  | nil => exact .nil above
  | cons node rest below later =>
    rw [buildAll_cons]
    exact .cons (builds_step limits bounds first above node (below (node :: above))) (later above)

/-- Nothing else comes of the nodes than what the build gives. -/
theorem builds_unique (limits : Limits) (bounds : Option Span) (first : Nat)
    (above nodes : List RawNode) (built : Built)
    (builds : Builds limits bounds first above nodes built) :
    buildAll limits (boundsBelow bounds above) (first + above.length) nodes = built := by
  induction builds with
  | nil above => rfl
  | cons head tail one more => rw [buildAll_cons,← buildAll_singleton,one,more]
  | refused node error wrong =>
    rw [RawSite.offenceFrom] at wrong
    rw [buildAll_singleton,build_eq,wrong]
  | token node sound missing =>
    rw [RawSite.offenceFrom] at sound
    simp only [buildAll_singleton,build_eq,sound,missing,if_true]
  | region node sound present broken inside below =>
    rw [RawSite.offenceFrom] at sound
    simp only [buildAll_singleton,build_eq,sound,present,broken,Bool.false_eq_true,if_false,if_true]
    exact congrArg (Built.withError · _) below
  | regular node kind sound present parsed named inside below =>
    rw [RawSite.offenceFrom] at sound
    have found := (Kind.ofName_eq_some_iff node.type kind).mpr named
    simp only [buildAll_singleton,build_eq,sound,present,parsed,found,Bool.false_eq_true,if_false]
    exact congrArg (Built.wrap · _) below

end RawNode
end DartTree
