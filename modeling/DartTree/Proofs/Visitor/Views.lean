import DartTree.Proofs.Visitor.Reentry
import Mathlib.Tactic.SplitIfs

/-! How views fit their nodes. Views come of casts, of steps up the roles, of
lookups among children and as what the operations of a visitor are called on,
whatever its bodies do. All of them are in a role of their node's kind, but for
those that come of a facet, which are in a category that admits it. -/
namespace DartTree

namespace View

/-- The views that can come about, by a facet only where `facets` allows it.
Lookups and the step to the root may start from any view, and bodies may call
operations on all views that have come about. -/
inductive Arises (facets : Bool) : View → Prop
  | cast (node : Node) (role : Role) (view : View) (viewed : node.cast? role = some view) :
      Arises facets view
  | castFacet (allowed : facets = true) (node : Node) (category : Category) (view : View)
      (viewed : node.castFacet? (.category category) = some view) : Arises facets view
  | upcast (view above : View) (arisen : Arises facets view) (up : above ∈ view.upcasts) :
      Arises facets above
  | asElement (view : View) : Arises facets view.asElement
  | child (view : View) (role : Role) (found : View) (looked : view.findChildOf role = some found) :
      Arises facets found
  | children (view : View) (role : Role) (found : View)
      (looked : found ∈ view.findChildrenOf role) : Arises facets found
  | argument {σ : Type} (visitor : Visitor.Reentrant σ) (program : σ → Visitor.Body σ) (state : σ)
      (steps : Nat) (view : View)
      (handed : ∀ earlier < steps, ∀ given,
        (visitor.after program state earlier).handed? = some given → Arises facets given)
      (called : (visitor.after program state steps).called? = some view) : Arises facets view

/-- The views that come of a facet, and of steps up from there. -/
inductive ArisesByFacet : View → Prop
  | cast (node : Node) (category : Category) (view : View)
      (viewed : node.castFacet? (.category category) = some view) : ArisesByFacet view
  | upcast (view above : View) (arisen : ArisesByFacet view) (up : above ∈ view.upcasts) :
      ArisesByFacet above
  | asElement (view : View) (arisen : ArisesByFacet view) : ArisesByFacet view.asElement

def Matches (view : View) : Prop := view.role.canView view.node.kind = true

def Admitted (view : View) : Prop :=
  ∃ category, view.role = .category category ∧ category.admits view.node.kind = true

theorem matches_iff (view : View) : view.Matches ↔ view.role ∈ view.node.roles :=
  Role.canView_iff view.role view.node.kind

private theorem matches_climbs : Visitor.Climbs Matches where
  dispatched node := (matches_iff _).mpr List.mem_cons_self
  above view upper given up := by
    obtain ⟨above,found,rfl⟩ := Option.map_eq_some_iff.mp up
    rw [matches_iff] at given ⊢
    exact Role.parent_mem_chain (.kind view.node.kind) view.role above given found

private theorem matches_root (node : Node) : Matches ⟨.root,node⟩ :=
  (matches_iff _).mpr (Role.root_mem_chain (.kind node.kind))

private theorem mem_upcasts (view above : View) (up : above ∈ view.upcasts) :
    view.upcast? = some above ∨ above = view.asElement := by
  unfold upcasts at up
  cases next : view.upcast? with
  | none => rw [next] at up; cases up
  | some upper =>
    rw [next] at up
    dsimp only at up
    split_ifs at up
    · exact .inl (congrArg some (List.mem_singleton.mp up).symm)
    · rcases List.mem_cons.mp up with rfl | last
      · exact .inl rfl
      · exact .inr (List.mem_singleton.mp last)

private theorem upcast_node (view above : View) (up : above ∈ view.upcasts) :
    above.node = view.node := by
  rcases mem_upcasts view above up with step | rfl
  · obtain ⟨_,_,rfl⟩ := Option.map_eq_some_iff.mp step
    rfl
  · rfl

private theorem matches_of_cast (node : Node) (role : Role) (view : View)
    (viewed : node.cast? role = some view) : view.Matches := by
  obtain ⟨given,rfl⟩ := (Node.cast_eq_some_iff node role view).mp viewed
  exact given

private theorem admitted_of_castFacet (node : Node) (category : Category) (view : View)
    (viewed : node.castFacet? (.category category) = some view) : view.Admitted := by
  obtain ⟨counts,rfl⟩ := (Node.castFacet_eq_some_iff node (.category category) view).mp viewed
  exact ⟨category,rfl,counts⟩

private theorem admitted_root (node : Node) : Admitted ⟨.root,node⟩ := by
  refine ⟨.root,rfl,?_⟩
  have dispatched : node.kind.isA .root = true :=
    (Role.category_mem_chain node.kind .root).mp (Role.root_mem_chain (.kind node.kind))
  rw [Category.admits,dispatched,Bool.true_or]

private theorem admitted_above (view above : View) (given : view.Admitted)
    (up : view.upcast? = some above) : above.Admitted := by
  obtain ⟨category,role,counts⟩ := given
  rw [upcast?,role] at up
  obtain ⟨_,climbed,rfl⟩ := Option.map_eq_some_iff.mp up
  obtain ⟨outer,found,rfl⟩ := Option.map_eq_some_iff.mp climbed
  exact ⟨outer,rfl,category.admits_parent outer view.node.kind counts found⟩

private theorem matches_or_admitted_climbs :
    Visitor.Climbs fun view => view.Matches ∨ view.Admitted where
  dispatched node := .inl (matches_climbs.dispatched node)
  above view upper given up :=
    given.imp (matches_climbs.above view upper · up) (admitted_above view upper · up)

/-- What every view satisfies that comes about: any that a facet may be asked for
are covered by a property that facets have too. -/
private theorem satisfies_of_arises (facets : Bool) (property : View → Prop)
    (climbs : Visitor.Climbs property) (viewable : ∀ view, view.Matches → property view)
    (byFacet : facets = true → ∀ view, view.Admitted → property view) (view : View)
    (arisen : view.Arises facets) : property view := by
  induction arisen with
  | cast node role view viewed => exact viewable view (matches_of_cast node role view viewed)
  | castFacet allowed node category view viewed =>
    exact byFacet allowed view (admitted_of_castFacet node category view viewed)
  | upcast view above _ up given =>
    rcases mem_upcasts view above up with step | rfl
    · exact climbs.above view above given step
    · exact viewable _ (matches_root view.node)
  | asElement view => exact viewable _ (matches_root view.node)
  | child view role found looked =>
    obtain ⟨child,_,viewed⟩ := List.exists_of_findSome?_eq_some looked
    exact viewable found (matches_of_cast child role found viewed)
  | children view role found looked =>
    obtain ⟨child,_,viewed⟩ := List.mem_filterMap.mp looked
    exact viewable found (matches_of_cast child role found viewed)
  | argument visitor program state steps view _ called given =>
    exact (visitor.after_holds climbs program state steps given).called view called

private theorem arises_of_matches (facets : Bool) (view : View) (given : view.Matches) :
    view.Arises facets :=
  .cast view.node view.role view ((Node.cast_eq_some_iff _ _ view).mpr ⟨given,rfl⟩)

private theorem castFacet_of_admitted (view : View) (given : view.Admitted) :
    ∃ category, view.node.castFacet? (.category category) = some view := by
  obtain ⟨category,role,counts⟩ := given
  have same : View.mk (.category category) view.node = view := by rw [← role]
  exact ⟨category,(Node.castFacet_eq_some_iff _ _ view).mpr ⟨counts,same⟩⟩

private theorem arises_iff (view : View) : view.Arises false ↔ view.Matches :=
  ⟨satisfies_of_arises false Matches matches_climbs (fun _ given => given) nofun view,
    arises_of_matches false view⟩

private theorem arises_any_iff (view : View) : view.Arises true ↔ view.Matches ∨ view.Admitted := by
  constructor
  · exact satisfies_of_arises true _ matches_or_admitted_climbs (fun _ => .inl)
      (fun _ _ => .inr) view
  · rintro (given | given)
    · exact arises_of_matches true view given
    · obtain ⟨category,viewed⟩ := castFacet_of_admitted view given
      exact .castFacet rfl view.node category view viewed

private theorem arisesByFacet_iff (view : View) : view.ArisesByFacet ↔ view.Admitted := by
  constructor
  · intro arisen
    induction arisen with
    | cast node category view viewed => exact admitted_of_castFacet node category view viewed
    | upcast view above _ up given =>
      rcases mem_upcasts view above up with step | rfl
      · exact admitted_above view above given step
      · exact admitted_root view.node
    | asElement view _ _ => exact admitted_root view.node
  · intro given
    obtain ⟨category,viewed⟩ := castFacet_of_admitted view given
    exact .cast view.node category view viewed

/-- Whatever bodies do, a view that came about is in a role in which its node can
be viewed or in a category that admits its node, and where no facet is asked for
it is the former; every such view can come about. One that came of a facet, or of
steps up from there, is in a category that admits its node. A step up keeps the
node. The steps of a run in which bodies are scripts come to what the run comes
to. -/
theorem arises_iff_viewable (view : View) :
    (view.Arises true ↔ view.role.canView view.node.kind = true ∨
        ∃ category, view.role = .category category ∧ category.admits view.node.kind = true) ∧
      (view.Arises false ↔ view.role.canView view.node.kind = true) ∧
      (view.ArisesByFacet ↔
        ∃ category, view.role = .category category ∧ category.admits view.node.kind = true) ∧
      (∀ above ∈ view.upcasts, above.node = view.node) ∧ view.asElement.node = view.node ∧
      ∀ {σ : Type} (visitor : Visitor σ) (run : Visitor.Run) (state : σ), ∃ steps,
        visitor.reentrant.after (.start run · .done) state steps =
          ⟨[],visitor.perform run state⟩ :=
  ⟨arises_any_iff view,arises_iff view,arisesByFacet_iff view,upcast_node view,rfl,
    Visitor.after_perform⟩

def referredSum : View := ⟨.category .reference,⟨.additiveExpression,⟨0,5⟩,none,[]⟩⟩

theorem referredSum_by_facet_only :
    referredSum.Arises true ∧ referredSum.ArisesByFacet ∧ ¬referredSum.Arises false ∧
      ⟨.category .composite,referredSum.node⟩ ∈ referredSum.upcasts ∧
      (View.mk (.category .composite) referredSum.node).node = referredSum.node := by
  have up : ⟨.category .composite,referredSum.node⟩ ∈ referredSum.upcasts := by decide
  obtain ⟨anyway,plain,byFacet,keeps,_⟩ := arises_iff_viewable referredSum
  have counts : ∃ category, referredSum.role = .category category ∧
      category.admits referredSum.node.kind = true := ⟨.reference,rfl,by decide⟩
  refine ⟨anyway.mpr (.inr counts),byFacet.mpr counts,?_,up,keeps _ up⟩
  rw [plain]
  decide

def referring : Visitor.Reentrant Nat where
  override? role :=
    if role = .kind .additiveExpression then
      some fun view count =>
        match view.node.castFacet? (.category .reference) with
        | some reference => .start (.visit reference) (count + 1) .done
        | none => .done count
    else none

/-- A sum is no reference but counts as one, and a body may ask for it as such. So
in a run that starts by accepting a sum the operation of references is called on
a view that does not match its node. -/
theorem sum_called_as_reference :
    (referring.after (.start (.accept referredSum.node) · .done) 0 4).called? = some referredSum ∧
      referredSum.role.canView referredSum.node.kind = false :=
  ⟨rfl,by decide⟩

end View
end DartTree
