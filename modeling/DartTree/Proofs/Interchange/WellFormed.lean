import DartTree.Proofs.Interchange.Import

/-! Whatever the import builds stands right. Each node is compared only with the
one above it in the interchange tree, which may be a region that is not kept;
since lying inside is transitive, nothing is lost where such regions go. -/
namespace DartTree

namespace Span

def largest : Span := ⟨0,.ofNatLT (UInt64.size - 1) (by decide)⟩

theorem largest_encloses (span : Span) : largest.encloses span = true := by
  have reached : span.stop.toNat ≤ UInt64.size - 1 := Nat.le_pred_of_lt span.stop.toNat_lt
  simp only [encloses,Bool.and_eq_true,decide_eq_true_eq]
  exact ⟨UInt64.zero_le,UInt64.le_iff_toNat_le.mpr reached⟩

end Span

namespace Built

structure Placed (limit level : Nat) (bounds : Span) (built : Built) : Prop where
  lies : Node.LiesAll bounds built.nodes
  shallow : Node.Shallow limit level built.nodes
  reported : ∀ error ∈ built.errors,
    error.span.start ≤ error.span.stop ∧ bounds.encloses error.span = true

private theorem placed_nil (limit level : Nat) (bounds : Span) (failure : Option ImportError) :
    Placed limit level bounds { failure := failure } :=
  ⟨trivial,Node.shallow_nil limit level,nofun⟩

private theorem placed_wider (limit level : Nat) (outer inner : Span) (built : Built)
    (wider : outer.encloses inner = true) (placed : Placed limit level inner built) :
    Placed limit level outer built where
  lies := Node.liesAll_wider outer inner built.nodes wider placed.lies
  shallow := placed.shallow
  reported error member :=
    have inside := placed.reported error member
    ⟨inside.1,Span.encloses_trans outer inner error.span wider inside.2⟩

private theorem placed_append (limit level : Nat) (bounds : Span) (first rest : Built)
    (placed : Placed limit level bounds first) (others : Placed limit level bounds rest) :
    Placed limit level bounds (first.append rest) where
  lies := (Node.liesAll_append bounds first.nodes rest.nodes).mpr ⟨placed.lies,others.lies⟩
  shallow := (Node.shallow_append limit level first.nodes rest.nodes).mpr
    ⟨placed.shallow,others.shallow⟩
  reported := List.forall_mem_append.mpr ⟨placed.reported,others.reported⟩

private theorem placed_withError (limit level : Nat) (bounds : Span) (below : Built)
    (error : SyntaxError) (forward : error.span.start ≤ error.span.stop)
    (enclosed : bounds.encloses error.span = true)
    (placed : Placed limit level error.span below) :
    Placed limit level bounds (below.withError error) :=
  have widened := placed_wider limit level bounds error.span below enclosed placed
  ⟨widened.lies,widened.shallow,List.forall_mem_cons.mpr ⟨⟨forward,enclosed⟩,widened.reported⟩⟩

/-- Of a failure below only the syntax errors are left, so that both ends of
the build are covered. -/
private theorem placed_wrap (limit level : Nat) (bounds : Span) (below : Built) (kind : Kind)
    (span : Span) (text : Option String) (within : level ≤ limit) (forward : span.start ≤ span.stop)
    (enclosed : bounds.encloses span = true) (placed : Placed limit (level + 1) span below) :
    Placed limit level bounds (below.wrap (⟨kind,span,text,·⟩)) := by
  have reported := (placed_wider limit (level + 1) bounds span below enclosed placed).reported
  unfold wrap
  cases below.failure with
  | some error => exact ⟨trivial,Node.shallow_nil limit level,reported⟩
  | none =>
    refine ⟨⟨⟨forward,enclosed,placed.lies⟩,trivial⟩,?_,reported⟩
    rw [Node.shallow_cons]
    exact ⟨within,placed.shallow,Node.shallow_nil limit level⟩

end Built

namespace RawNode

def extent (whole : Option Span) (above : List RawNode) : Span :=
  (boundsBelow whole above).getD .largest

private theorem offence_eq_none (limits : Limits) (bounds : Option Span) (level : Nat)
    (node : RawNode) (sound : node.offence limits bounds level = none) :
    level ≤ limits.maxTreeDepth ∧ node.span.start ≤ node.span.stop ∧
      (bounds.getD .largest).encloses node.span = true := by
  have checked := (Option.or_eq_none_iff.mp sound).1
  unfold check at checked
  split_ifs at checked with deep backward
  have forward : node.span.start ≤ node.span.stop := UInt64.not_lt.mp backward
  refine ⟨by omega,forward,?_⟩
  cases bounds with
  | none => exact Span.largest_encloses node.span
  | some parent => simpa using checked

theorem builds_placed {limits : Limits} {whole : Option Span} {above nodes : List RawNode}
    {built : Built} (builds : Builds limits whole 1 above nodes built) :
    Built.Placed limits.maxTreeDepth (levelBelow isError above) (extent whole above) built := by
  induction builds with
  | nil above => exact Built.placed_nil _ _ _ none
  | @cons above node rest one more head tail own others =>
    cases failed : one.failure with
    | some error =>
      rw [Built.andThen_failed one more (by simp [failed])]
      exact own
    | none =>
      rw [Built.andThen_built one more failed]
      exact Built.placed_append _ _ _ _ _ own others
  | refused node error wrong => exact Built.placed_nil _ _ _ _
  | token node sound missing =>
    obtain ⟨_,forward,enclosed⟩ := offence_eq_none limits _ _ node sound
    exact ⟨trivial,Node.shallow_nil _ _,List.forall_mem_singleton.mpr ⟨forward,enclosed⟩⟩
  | @region above _ node sound present broken inside below =>
    obtain ⟨_,forward,enclosed⟩ := offence_eq_none limits _ _ node sound
    rw [levelBelow_removed isError above node broken] at below
    exact Built.placed_withError _ _ _ _ _ forward enclosed below
  | @regular above _ node kind sound present parsed named inside below =>
    obtain ⟨within,forward,enclosed⟩ := offence_eq_none limits _ _ node sound
    have shallow : levelBelow isError above ≤ limits.maxTreeDepth := by
      have bound := levelBelow_le isError above
      dsimp only at within
      omega
    rw [levelBelow_kept isError above node parsed] at below
    exact Built.placed_wrap _ _ _ _ kind _ node.text shallow forward enclosed below

end RawNode

namespace File

private theorem le_max_offset (left right : Offset) :
    left ≤ max left right ∧ right ≤ max left right :=
  (Offset.max_le_iff left right _).mp (UInt64.le_refl _)

private theorem le_furthest (roots : List Node) (furthest : Offset) :
    furthest ≤ roots.foldl (fun furthest root => max furthest root.span.stop) furthest ∧
      ∀ root ∈ roots,
        root.span.stop ≤ roots.foldl (fun furthest root => max furthest root.span.stop) furthest := by
  induction roots generalizing furthest with
  | nil => exact ⟨UInt64.le_refl furthest,nofun⟩
  | cons first rest ih =>
    obtain ⟨earlier,own⟩ := le_max_offset furthest first.span.stop
    obtain ⟨onward,later⟩ := ih (max furthest first.span.stop)
    rw [List.foldl_cons,List.forall_mem_cons]
    exact ⟨UInt64.le_trans earlier onward,UInt64.le_trans own onward,later⟩

/-- A file that is as long as its furthest root reaches holds all of them. -/
private theorem ofRoots_lies (roots : List Node) (errors : List SyntaxError) (bounds : Span)
    (lies : Node.LiesAll bounds roots) :
    Node.LiesAll ⟨0,(File.ofRoots roots errors).sourceLength⟩ roots := by
  rw [Node.liesAll_iff] at lies ⊢
  refine ⟨?_,lies.2⟩
  intro root member
  simp only [Span.encloses,Bool.and_eq_true,decide_eq_true_eq]
  exact ⟨UInt64.zero_le,(le_furthest roots 0).2 root member⟩

end File

namespace RawFile

private theorem built_placed (limits : Limits) (file : RawFile) :
    Built.Placed limits.maxTreeDepth 1 (file.bounds.getD .largest)
      (RawNode.buildAll limits file.bounds 1 file.roots) :=
  RawNode.builds_placed (RawNode.builds limits file.bounds 1 [] file.roots)

private theorem toFile_placed (limits : Limits) (file : RawFile) (result : File)
    (imported : file.toFile limits = .ok result) :
    Built.Placed limits.maxTreeDepth 1 (file.bounds.getD .largest)
        ⟨result.roots,result.errors,none⟩ ∧
      result.sourceLength =
        file.sourceLength.getD (File.ofRoots result.roots result.errors).sourceLength := by
  have placed := built_placed limits file
  rw [toFile_eq] at imported
  generalize RawNode.buildAll limits file.bounds 1 file.roots = built at placed imported
  cases failure : built.failure with
  | some error => simp [failure] at imported
  | none =>
    simp only [failure,Except.ok.injEq] at imported
    subst imported
    exact ⟨⟨placed.lies,placed.shallow,placed.reported⟩,rfl⟩

/-- Without a given length the roots themselves say how far the file reaches. -/
private theorem toFile_lies (limits : Limits) (file : RawFile) (result : File)
    (imported : file.toFile limits = .ok result) :
    Node.LiesAll ⟨0,result.sourceLength⟩ result.roots := by
  obtain ⟨placed,length⟩ := toFile_placed limits file result imported
  have lies := placed.lies
  rw [length]
  cases given : file.sourceLength with
  | none => exact File.ofRoots_lies result.roots result.errors _ lies
  | some known =>
    rw [bounds,given] at lies
    exact lies

/-- An imported file is well formed, whatever regions are gone from between its
nodes: no node reaches beyond the file at any depth, and neither does a syntax
error if the length of the source was given. -/
theorem toFile_wellFormed (limits : Limits) (file : RawFile) (result : File)
    (imported : file.toFile limits = .ok result) :
    result.WellFormed limits.maxTreeDepth ∧
      (∀ node ∈ Node.preorderAll result.roots, node.span.stop ≤ result.sourceLength) ∧
      (∀ error ∈ result.errors, error.span.start ≤ error.span.stop) ∧
      (file.sourceLength.isSome = true → ∀ error ∈ result.errors,
        (Span.mk 0 result.sourceLength).encloses error.span = true) := by
  obtain ⟨placed,length⟩ := toFile_placed limits file result imported
  have lies := toFile_lies limits file result imported
  refine ⟨(File.wellFormed_iff _ _).mpr ⟨lies,placed.shallow⟩,?_,?_,?_⟩
  · intro node member
    have enclosed := Node.liesAll_encloses _ _ lies node member
    simp only [Span.encloses,Bool.and_eq_true,decide_eq_true_eq] at enclosed
    exact enclosed.2
  · intro error member
    exact (placed.reported error member).1
  · intro given error member
    obtain ⟨known,same⟩ := Option.isSome_iff_exists.mp given
    have enclosed := (placed.reported error member).2
    rw [bounds,same] at enclosed
    rw [length,same]
    exact enclosed

theorem brokenBlock_wellFormed :
    RawFile.toFile .standard { brokenBlock with sourceLength := some 24 } =
        .ok { brokenBlockFile with sourceLength := 24 } ∧
      File.WellFormed { brokenBlockFile with sourceLength := 24 } Limits.standard.maxTreeDepth ∧
      (∀ node ∈ Node.preorderAll brokenBlockFile.roots, node.span.stop ≤ 24) ∧
      ∀ error ∈ brokenBlockFile.errors, error.span.start ≤ error.span.stop ∧
        (Span.mk 0 24).encloses error.span = true := by
  have imported : RawFile.toFile .standard { brokenBlock with sourceLength := some 24 } =
      .ok { brokenBlockFile with sourceLength := 24 } := rfl
  obtain ⟨wellFormed,within,forward,enclosed⟩ := toFile_wellFormed _ _ _ imported
  refine ⟨imported,wellFormed,within,?_⟩
  intro error member
  exact ⟨forward error member,enclosed rfl error member⟩

end RawFile
end DartTree
