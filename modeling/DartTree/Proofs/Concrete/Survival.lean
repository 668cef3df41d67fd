import DartTree.Proofs.Concrete.Conversion
import DartTree.Proofs.Interchange.RoundTrip

/-! Files of a source through the interchange format. What the conversion makes
of a parsed tree lies right, so that only its depth is in question, and there
the row below an identifier is the one that the conversion does not count. -/
namespace DartTree

namespace ConcreteNode

/-- What a parser says of the tree of a source: nodes run forward and lie inside
the node above them, and the root lies inside the source. -/
structure ParsedFrom (source : Source) (root : ConcreteNode) : Prop where
  fits : ∀ site ∈ root.inner, Fits root site
  inside : (Span.mk 0 source.length).encloses root.span = true

/-- Every identifier that is converted leaves a level for its text. -/
def HasRoom (limits : Limits) (root : ConcreteNode) : Prop :=
  ∀ site ∈ root.inner.filter ConcreteSite.visited,
    site.node.isIdentifier = true → site.depth < limits.maxTreeDepth

private theorem rows_shallow_iff (source : Source) (limits : Limits) (site : ConcreteSite)
    (within : site.level ≤ limits.maxTreeDepth) :
    (∀ row ∈ site.rows source, row.level ≤ limits.maxTreeDepth) ↔
      (site.node.isIdentifier = true → site.depth < limits.maxTreeDepth) := by
  have shallow : site.depth ≤ limits.maxTreeDepth :=
    Nat.le_trans (levelBelow_le hoisted site.above) within
  unfold ConcreteSite.rows
  cases identifier : site.node.isIdentifier with
  | true =>
    rw [if_pos rfl,List.forall_mem_cons,List.forall_mem_singleton]
    exact ⟨fun levels _ => levels.2,fun deeper => ⟨shallow,deeper rfl⟩⟩
  | false =>
    simp only [Bool.false_eq_true,if_false,false_imp_iff,iff_true]
    intro row member
    split_ifs at member with proper
    · rw [Option.mem_toList,Option.map_eq_some_iff] at member
      obtain ⟨kind,_,rfl⟩ := member
      exact shallow
    · cases member

private theorem convertAll_shallow_iff (source : Source) (limits : Limits) (root : ConcreteNode)
    (converted : Converted) (accepted : convertAll source limits 1 root.children = .ok converted) :
    Node.Shallow limits.maxTreeDepth 1 converted.nodes ↔ root.HasRoom limits := by
  have converts := convertAll_converts source limits 1 root.children converted accepted
  have rows := converts_rows source limits 1 [] root.children converted converts rfl
  have within := converts_within source limits 1 [] root.children converted converts rfl rfl
  have levels := fun site member => rows_shallow_iff source limits site (within site member)
  change Node.rowsAll 1 converted.nodes = _ at rows
  unfold Node.Shallow HasRoom
  rw [rows]
  simp only [List.forall_mem_flatMap]
  exact forall₂_congr levels

end ConcreteNode

namespace File

theorem ofConcrete_ok (limits : Limits) (source : Source) (root : ConcreteNode) (file : File)
    (converted : File.ofConcrete limits source root = .ok file) :
    ConcreteNode.convertAll source limits 1 root.children = .ok ⟨file.roots,file.errors⟩ ∧
      file.sourceLength = source.length := by
  unfold ofConcrete at converted
  cases below : ConcreteNode.convertAll source limits 1 root.children with
  | error error => rw [below] at converted; cases converted
  | ok parts => rw [below] at converted; cases converted; exact ⟨rfl,rfl⟩

theorem ofConcrete_lies (limits : Limits) (source : Source) (root : ConcreteNode) (file : File)
    (parsed : root.ParsedFrom source) (converted : File.ofConcrete limits source root = .ok file) :
    Node.LiesAll ⟨0,file.sourceLength⟩ file.roots := by
  obtain ⟨accepted,length⟩ := ofConcrete_ok limits source root file converted
  have converts := ConcreteNode.convertAll_converts source limits 1 root.children _ accepted
  have lies := ConcreteNode.converts_lies source limits 1 root [] root.children _ converts parsed.fits
  rw [length]
  exact Node.liesAll_wider _ root.span _ parsed.inside lies

/-- A file of a source that parsed comes back from its text exactly if there is
a level for the text of every identifier. Otherwise it is too deep, although the
conversion accepted it. -/
theorem ofConcrete_survives_iff (limits : Limits) (source : Source) (root : ConcreteNode)
    (file : File) (parsed : root.ParsedFrom source)
    (converted : File.ofConcrete limits source root = .ok file) (clean : file.errors = []) :
    (File.ofText limits file.toText = .ok file ↔ root.HasRoom limits) ∧
      ((∀ row ∈ Node.rowsAll 1 file.roots, row.level ≤ limits.maxTreeDepth) ↔ root.HasRoom limits) ∧
      (root.HasRoom limits ∨
        File.ofText limits file.toText = .error (.tooDeep limits.maxTreeDepth)) := by
  have lies := ofConcrete_lies limits source root file parsed converted
  obtain ⟨accepted,_⟩ := ofConcrete_ok limits source root file converted
  have levels := ConcreteNode.convertAll_shallow_iff source limits root _ accepted
  -- spans are never at fault, so that being well formed is a matter of depth alone
  have sound : file.WellFormed limits.maxTreeDepth ↔ root.HasRoom limits := by
    rw [wellFormed_iff,← levels]
    exact and_iff_right lies
  have unchanged : ({ file with errors := [] } : File) = file := by rw [← clean]
  rcases ofText_toText_cases limits file with
    ⟨wellFormed,imported⟩ | ⟨malformed,error,refused,_,tooDeep⟩
  · rw [unchanged] at imported
    have room := sound.mp wellFormed
    exact ⟨⟨fun _ => room,fun _ => imported⟩,levels,.inl room⟩
  · rw [refused,tooDeep lies]
    exact ⟨⟨nofun,fun room => absurd (sound.mpr room) malformed⟩,levels,.inr rfl⟩

def librarySource : Source := ⟨"library foo;",by decide⟩

def libraryTree : ConcreteNode where
  type := "program"
  span := ⟨0,12⟩
  named := true
  children := [{
    type := "library_name"
    span := ⟨0,12⟩
    named := true
    children := [
      { type := "library",span := ⟨0,7⟩ },
      { type := "dotted_identifier_list",span := ⟨8,11⟩,named := true,children := [
        { type := "identifier",span := ⟨8,11⟩,named := true }] },
      { type := ";",span := ⟨11,12⟩ }] }]

def libraryFile : File where
  sourceLength := 12
  roots := [⟨.libraryStatement,⟨0,12⟩,none,[⟨.libraryId,⟨8,11⟩,none,[
    ⟨.referenceExpression,⟨8,11⟩,none,[⟨.id,⟨8,11⟩,some "foo",[]⟩]⟩]⟩]⟩]

private theorem libraryTree_parsed : libraryTree.ParsedFrom librarySource where
  fits := by
    simp only [ConcreteNode.inner,libraryTree,ConcreteNode.sitesAll,ConcreteNode.sites,
      ConcreteNode.Fits]
    decide
  inside := by decide

theorem library_survives_four_levels :
    libraryTree.ParsedFrom librarySource ∧
      File.ofConcrete { Limits.standard with maxTreeDepth := 4 } librarySource libraryTree =
        .ok libraryFile ∧
      libraryFile.errors = [] ∧
      libraryTree.HasRoom { Limits.standard with maxTreeDepth := 4 } ∧
      File.ofText { Limits.standard with maxTreeDepth := 4 } libraryFile.toText =
        .ok libraryFile := by
  have room : libraryTree.HasRoom { Limits.standard with maxTreeDepth := 4 } := by
    unfold ConcreteNode.HasRoom
    decide
  have converted : File.ofConcrete { Limits.standard with maxTreeDepth := 4 } librarySource
      libraryTree = .ok libraryFile := rfl
  have survives := ofConcrete_survives_iff _ librarySource libraryTree libraryFile
    libraryTree_parsed converted rfl
  exact ⟨libraryTree_parsed,converted,rfl,room,survives.1.mpr room⟩

theorem library_too_deep_for_three_levels :
    libraryTree.ParsedFrom librarySource ∧
      File.ofConcrete { Limits.standard with maxTreeDepth := 3 } librarySource libraryTree =
        .ok libraryFile ∧
      libraryFile.errors = [] ∧
      File.ofText { Limits.standard with maxTreeDepth := 3 } libraryFile.toText =
        .error (.tooDeep 3) := by
  refine ⟨libraryTree_parsed,rfl,rfl,?_⟩
  rw [ofText_toText]
  rfl

end File
end DartTree
