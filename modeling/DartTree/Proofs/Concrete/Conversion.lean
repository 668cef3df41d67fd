import DartTree.Proofs.Concrete.Sites

/-! What a conversion that succeeds comes to, for every concrete tree: nothing
that it came to is too deep, every row of the tree comes of one node in order,
and what comes of nested nodes is nested. -/
namespace DartTree
namespace ConcreteNode

theorem converts_within (source : Source) (limits : Limits) (level : Nat)
    (above nodes : List ConcreteNode) (converted : Converted)
    (converts : Converts source limits level nodes converted) (depth : level = above.length + 1)
    (reachable : above.all entered = true) :
    ∀ site ∈ (sitesAll above nodes).filter ConcreteSite.visited,
      site.level ≤ limits.maxTreeDepth := by
  induction converts generalizing above with
  | nil level => exact nofun
  | cons _ _ one more =>
    rw [sitesAll_cons,List.filter_append,List.forall_mem_append]
    exact ⟨one above depth reachable,more above depth reachable⟩
  | closed node within closed =>
    rw [sitesAll_closed above node reachable closed,List.forall_mem_singleton]
    exact Nat.le_trans (Nat.le_of_eq depth.symm) within
  | hoisted node within enters _ _ below =>
    rw [sitesAll_visited above node reachable,List.forall_mem_cons]
    refine ⟨Nat.le_trans (Nat.le_of_eq depth.symm) within,?_⟩
    exact below (node :: above) (by simp [depth]) (reachable_below above node reachable enters)
  | regular node kind within proper other _ _ below =>
    have enters := entered_proper node proper other
    rw [sitesAll_visited above node reachable,List.forall_mem_cons]
    refine ⟨Nat.le_trans (Nat.le_of_eq depth.symm) within,?_⟩
    exact below (node :: above) (by simp [depth]) (reachable_below above node reachable enters)

private theorem fails_exceeds (limits : Limits) (level : Nat) (above nodes : List ConcreteNode)
    (fails : Fails limits level nodes) (depth : level = above.length + 1)
    (reachable : above.all entered = true) :
    ∃ site ∈ (sitesAll above nodes).filter ConcreteSite.visited,
      limits.maxTreeDepth < site.level := by
  induction fails generalizing above with
  | deep node rest exceeds =>
    rw [sitesAll_cons,List.filter_append,sitesAll_visited above node reachable]
    exact ⟨_,List.mem_append_left _ List.mem_cons_self,Nat.lt_of_lt_of_eq exceeds depth⟩
  | under node rest enters _ below =>
    obtain ⟨site,member,exceeds⟩ :=
      below (node :: above) (by simp [depth]) (reachable_below above node reachable enters)
    rw [sitesAll_cons,List.filter_append,sitesAll_visited above node reachable]
    exact ⟨site,List.mem_append_left _ (List.mem_cons_of_mem _ member),exceeds⟩
  | later _ more =>
    obtain ⟨site,member,exceeds⟩ := more above depth reachable
    rw [sitesAll_cons,List.filter_append]
    exact ⟨site,List.mem_append_right _ member,exceeds⟩

/-- The conversion fails exactly if a node that it comes to is too deep. -/
theorem convertAll_cases (source : Source) (limits : Limits) (nodes : List ConcreteNode) :
    (∃ converted, convertAll source limits 1 nodes = .ok converted ∧
        ∀ site ∈ (sitesAll [] nodes).filter ConcreteSite.visited,
          site.level ≤ limits.maxTreeDepth) ∨
      convertAll source limits 1 nodes = .error (.tooDeep limits.maxTreeDepth) ∧
        ∃ site ∈ (sitesAll [] nodes).filter ConcreteSite.visited,
          limits.maxTreeDepth < site.level := by
  rcases convertAll_settles source limits 1 nodes with ⟨converted,accepted,converts⟩ | ⟨failed,fails⟩
  · exact .inl ⟨converted,accepted,
      converts_within source limits 1 [] nodes converted converts rfl rfl⟩
  · exact .inr ⟨failed,fails_exceeds limits 1 [] nodes fails rfl rfl⟩

private theorem own_rows (source : Source) (above : List ConcreteNode) (node : ConcreteNode)
    (irregular : node.Irregular) :
    Node.rowsAll (levelBelow hoisted above) (node.own source).nodes =
      ConcreteSite.rows source ⟨above,node⟩ := by
  rcases irregular_cases node irregular with identifier | ⟨other,improper | unknown⟩
  · simp [own,identifier,ConcreteSite.rows,ConcreteSite.depth,Node.rowsAll,Node.rows,identifierNode,
      isDeclaredName]
  · simp [own,other,improper,ConcreteSite.rows,Node.rowsAll]
  · simp [own,other,unknown,ConcreteSite.rows,Node.rowsAll]

private theorem rows_regular (source : Source) (above : List ConcreteNode) (node : ConcreteNode)
    (kind : Kind) (proper : node.proper = true) (other : node.type ≠ identifierType)
    (known : ConcreteKind.ofType? node.type = some kind) :
    ConcreteSite.rows source ⟨above,node⟩ =
      [⟨levelBelow hoisted above,kind,node.span,node.leafText source⟩] := by
  simp [ConcreteSite.rows,isIdentifier,proper,other,known,ConcreteSite.depth]

theorem converts_rows (source : Source) (limits : Limits) (level : Nat)
    (above nodes : List ConcreteNode) (converted : Converted)
    (converts : Converts source limits level nodes converted)
    (reachable : above.all entered = true) :
    Node.rowsAll (levelBelow hoisted above) converted.nodes =
      ((sitesAll above nodes).filter ConcreteSite.visited).flatMap (ConcreteSite.rows source) := by
  induction converts generalizing above with
  | nil level => rfl
  | cons _ _ one more =>
    rw [sitesAll_cons,List.filter_append,List.flatMap_append,Converted.append,Node.rowsAll_append,
      one above reachable,more above reachable]
  | closed node _ closed =>
    rw [sitesAll_closed above node reachable closed,List.flatMap_singleton,
      own_rows source above node (.inl closed)]
  | hoisted node _ enters hoists _ below =>
    have rest := below (node :: above) (reachable_below above node reachable enters)
    rw [levelBelow_removed hoisted above node hoists] at rest
    rw [sitesAll_visited above node reachable,List.flatMap_cons,Converted.append,
      Node.rowsAll_append,own_rows source above node (.inr hoists),rest]
  | regular node kind _ proper other known _ below =>
    have enters := entered_proper node proper other
    have rest := below (node :: above) (reachable_below above node reachable enters)
    rw [levelBelow_kept hoisted above node (hoisted_regular node kind proper known)] at rest
    rw [sitesAll_visited above node reachable,List.flatMap_cons,
      rows_regular source above node kind proper other known,Node.rowsAll,Node.rows,Node.rowsAll,
      List.append_nil,rest]
    rfl

def Fits (root : ConcreteNode) (site : ConcreteSite) : Prop :=
  site.node.span.start ≤ site.node.span.stop ∧
    (site.above.headD root).span.encloses site.node.span = true

private theorem own_lies (source : Source) (node : ConcreteNode) (bounds : Span)
    (forward : node.span.start ≤ node.span.stop) (enclosed : bounds.encloses node.span = true) :
    Node.LiesAll bounds (node.own source).nodes := by
  unfold own
  split_ifs with identifier
  · exact ⟨⟨forward,enclosed,⟨forward,Span.encloses_refl node.span,trivial⟩,trivial⟩,trivial⟩
  · trivial

theorem converts_lies (source : Source) (limits : Limits) (level : Nat) (root : ConcreteNode)
    (above nodes : List ConcreteNode) (converted : Converted)
    (converts : Converts source limits level nodes converted)
    (fits : ∀ site ∈ sitesAll above nodes, Fits root site) :
    Node.LiesAll (above.headD root).span converted.nodes := by
  induction converts generalizing above with
  | nil level => trivial
  | cons _ _ one more =>
    rw [sitesAll_cons,List.forall_mem_append] at fits
    exact (Node.liesAll_append _ _ _).mpr ⟨one above fits.1,more above fits.2⟩
  | closed node _ _ =>
    rw [sitesAll_singleton,List.forall_mem_cons] at fits
    exact own_lies source node _ fits.1.1 fits.1.2
  | hoisted node _ _ _ _ below =>
    rw [sitesAll_singleton,List.forall_mem_cons] at fits
    obtain ⟨⟨forward,enclosed⟩,inside⟩ := fits
    have widened := Node.liesAll_wider _ node.span _ enclosed (below (node :: above) inside)
    exact (Node.liesAll_append _ _ _).mpr ⟨own_lies source node _ forward enclosed,widened⟩
  | regular node kind _ _ _ _ _ below =>
    rw [sitesAll_singleton,List.forall_mem_cons] at fits
    obtain ⟨⟨forward,enclosed⟩,inside⟩ := fits
    exact ⟨⟨forward,enclosed,below (node :: above) inside⟩,trivial⟩

end ConcreteNode
end DartTree
