import DartTree.Grammar.Role

/-! The roles above a role. The chain of a role is listed with a bound on its
length; here it is shown to be what following the parent of each role gives, so
that the bound is never met. -/
namespace DartTree

private theorem Category.ancestors_eq (category : Category) :
    category.ancestors = category :: category.parent?.elim [] ancestors := by
  cases category <;> rfl

namespace Role

theorem chain_eq (role : Role) : role.chain = role :: role.parent?.elim [] chain := by
  cases role with
  | kind own => rfl
  | category group =>
    rw [chain,Category.ancestors_eq,parent?,List.map_cons]
    cases group.parent? <;> rfl

theorem eq_root_of_parent {role : Role} (top : role.parent? = none) : role = .root := by
  cases role with
  | kind own => cases top
  | category group =>
    have highest := Option.map_eq_none_iff.mp top
    rw [Category.eq_root_of_parent highest]
    rfl

theorem category_mem_chain (kind : Kind) (category : Category) :
    Role.category category ∈ (Role.kind kind).chain ↔ kind.isA category = true := by
  simp [chain,Kind.isA,Kind.categoryChain,Category.isWithin]

theorem canView_iff (role : Role) (kind : Kind) :
    role.canView kind = true ↔ role ∈ (Role.kind kind).chain := by
  cases role with
  | kind own =>
    simp only [canView,chain,beq_iff_eq,List.mem_cons,Role.kind.injEq,List.mem_map,reduceCtorEq,
      and_false,exists_false,or_false]
    exact eq_comm
  | category group => exact (category_mem_chain kind group).symm

-- Along a chain: the recursion is on the height of the role it starts from.
theorem parent_mem_chain (start role above : Role) (member : role ∈ start.chain)
    (up : role.parent? = some above) : above ∈ start.chain := by
  rw [chain_eq] at member ⊢
  rcases List.mem_cons.mp member with rfl | further
  · rw [up,Option.elim_some,chain_eq above]
    exact List.mem_cons_of_mem role List.mem_cons_self
  · cases next : start.parent? with
    | none => rw [next] at further; cases further
    | some outer =>
      have lower := height_parent next
      rw [next] at further
      exact List.mem_cons_of_mem start (parent_mem_chain outer role above further up)
termination_by start.height

theorem root_mem_chain (role : Role) : .root ∈ role.chain := by
  rw [chain_eq]
  cases up : role.parent? with
  | none =>
    rw [eq_root_of_parent up]
    exact List.mem_cons_self
  | some above =>
    have lower := height_parent up
    exact List.mem_cons_of_mem role (root_mem_chain above)
termination_by role.height

end Role

/-- What is above a category that a kind also counts as, it is dispatched through. -/
private theorem Kind.facet_parent (kind : Kind) (facet above : Category)
    (listed : facet ∈ kind.facets) (up : facet.parent? = some above) : kind.isA above = true := by
  have table : ∀ facet ∈ kind.facets, facet.parent?.all kind.isA = true := by
    cases kind <;> decide
  have dispatched := table facet listed
  rw [up] at dispatched
  exact dispatched

theorem Category.admits_parent (category above : Category) (kind : Kind)
    (admitted : category.admits kind = true) (up : category.parent? = some above) :
    above.admits kind = true := by
  rw [Category.admits,Bool.or_eq_true] at admitted ⊢
  left
  rcases admitted with dispatched | facet
  · rw [← Role.category_mem_chain] at dispatched ⊢
    exact Role.parent_mem_chain _ _ _ dispatched (congrArg (Option.map Role.category) up)
  · exact kind.facet_parent category above (List.contains_iff_mem.mp facet) up

/-- A kind is never dispatched through a category that it also counts as. -/
theorem Kind.facet_apart (kind : Kind) (facet : Category) (listed : facet ∈ kind.facets) :
    kind.isA facet = false := by
  revert facet
  cases kind <;> decide

end DartTree
