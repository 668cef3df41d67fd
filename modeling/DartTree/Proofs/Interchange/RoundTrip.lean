import DartTree.Interchange.Text
import DartTree.Proofs.Interchange.Codec
import DartTree.Proofs.Interchange.Sites

/-! Files through the interchange format and back. The text is transparent, so
that a file comes back exactly if the checks of the import accept its nodes. -/
namespace DartTree

theorem File.ofText_toText (limits : Limits) (file : File) :
    File.ofText limits file.toText = (RawFile.ofFile file).toFile limits := by
  unfold ofText toText
  rw [RawFile.read_render]

def Misplaced (limits : Limits) (error : ImportError) : Prop :=
  error = .tooDeep limits.maxTreeDepth ∨ (∃ start stop, error = .invalidSpan start stop) ∨
    ∃ child parent, error = .childOutOfBounds child parent

namespace RawNode

def Refuses (limits : Limits) (lies : Prop) (error : ImportError) : Prop :=
  Misplaced limits error ∧ (lies → error = .tooDeep limits.maxTreeDepth)

private theorem refuses_weaken (limits : Limits) (part whole : Prop) (error : ImportError)
    (contained : whole → part) (refuses : Refuses limits part error) :
    Refuses limits whole error :=
  ⟨refuses.1,fun lies => refuses.2 (contained lies)⟩

private theorem check_cases (limits : Limits) (bounds : Span) (level : Nat) (node : RawNode) :
    (node.check limits (some bounds) level = none ∧ level ≤ limits.maxTreeDepth ∧
        node.span.start ≤ node.span.stop ∧ bounds.encloses node.span = true) ∨
      ∃ error, node.check limits (some bounds) level = some error ∧
        Refuses limits (node.span.start ≤ node.span.stop ∧ bounds.encloses node.span = true) error ∧
        ¬(level ≤ limits.maxTreeDepth ∧
          node.span.start ≤ node.span.stop ∧ bounds.encloses node.span = true) := by
  unfold check
  split_ifs with deep backward
  · exact .inr ⟨_,rfl,⟨.inl rfl,fun _ => rfl⟩,fun placed => absurd placed.1 (by omega)⟩
  · have inverted : ¬node.span.start ≤ node.span.stop := UInt64.not_le.mpr backward
    exact .inr ⟨_,rfl,⟨.inr (.inl ⟨_,_,rfl⟩),fun lies => absurd lies.1 inverted⟩,
      fun placed => inverted placed.2.1⟩
  · cases enclosed : bounds.encloses node.span with
    | false =>
      refine .inr ⟨.childOutOfBounds node.span bounds,?_,⟨.inr (.inr ⟨_,_,rfl⟩),?_⟩,?_⟩
      · simp only [enclosed,Bool.false_eq_true,if_false]
      · exact fun lies => absurd lies.2 Bool.false_ne_true
      · exact fun placed => Bool.false_ne_true placed.2.2
    | true => exact .inl ⟨by simp [enclosed],by omega,UInt64.not_lt.mp backward,rfl⟩

private theorem build_ofNode (limits : Limits) (bounds : Option Span) (level : Nat) (kind : Kind)
    (span : Span) (text : Option String) (children : List Node) :
    build limits bounds level (ofNode ⟨kind,span,text,children⟩) =
      match (ofNode ⟨kind,span,text,children⟩).check limits bounds level with
      | some error => .fail error
      | none => (buildAll limits (some span) (level + 1) (ofNodes children)).wrap
          (⟨kind,span,text,·⟩) := by
  have present : isMissing (ofNode ⟨kind,span,text,children⟩) = false := kind.name_not_missing
  have parsed : isError (ofNode ⟨kind,span,text,children⟩) = false :=
    decide_eq_false kind.name_ne_error
  have known : Kind.ofName? (ofNode ⟨kind,span,text,children⟩).type = some kind := kind.ofName_name
  have placed : offence limits bounds level (ofNode ⟨kind,span,text,children⟩) =
      check limits bounds level (ofNode ⟨kind,span,text,children⟩) := by
    rw [offence,present,parsed,known]
    exact Option.or_none
  rw [build_eq,placed]
  simp only [present,parsed,known,Bool.false_eq_true,if_false]
  rfl

mutual

theorem build_exported (limits : Limits) (bounds : Span) (level : Nat) (node : Node) :
    (node.Lies bounds ∧ Node.Shallow limits.maxTreeDepth level [node] ∧
        build limits (some bounds) level (ofNode node) = { nodes := [node] }) ∨
      ¬(node.Lies bounds ∧ Node.Shallow limits.maxTreeDepth level [node]) ∧
        ∃ error, (build limits (some bounds) level (ofNode node)).failure = some error ∧
          Refuses limits (node.Lies bounds) error := by
  obtain ⟨kind,span,text,children⟩ := node
  rw [build_ofNode,Node.shallow_cons,Node.Lies]
  -- the node's own check comes first; only if it passes do its children decide
  rcases check_cases limits bounds level (ofNode ⟨kind,span,text,children⟩) with
    ⟨accepted,shallow,forward,enclosed⟩ | ⟨error,refused,refuses,unplaced⟩
  · rw [accepted]
    rcases buildAll_exported limits span (level + 1) children with
      ⟨lies,below,built⟩ | ⟨unfit,error,failed,refuses⟩
    · refine .inl ⟨⟨forward,enclosed,lies⟩,⟨shallow,below,Node.shallow_nil _ _⟩,?_⟩
      simp only [built,Built.wrap]
    · refine .inr ⟨fun fits => unfit ⟨fits.1.2.2,fits.2.2.1⟩,error,?_,?_⟩
      · simp only [Built.wrap,failed]
      · exact refuses_weaken limits _ _ error (·.2.2) refuses
  · rw [refused]
    refine .inr ⟨fun fits => unplaced ⟨fits.2.1,fits.1.1,fits.1.2.1⟩,error,rfl,?_⟩
    exact refuses_weaken limits _ _ error (fun lies => ⟨lies.1,lies.2.1⟩) refuses

private theorem buildAll_exported (limits : Limits) (bounds : Span) (level : Nat)
    (nodes : List Node) :
    (Node.LiesAll bounds nodes ∧ Node.Shallow limits.maxTreeDepth level nodes ∧
        buildAll limits (some bounds) level (ofNodes nodes) = { nodes := nodes }) ∨
      ¬(Node.LiesAll bounds nodes ∧ Node.Shallow limits.maxTreeDepth level nodes) ∧
        ∃ error, (buildAll limits (some bounds) level (ofNodes nodes)).failure = some error ∧
          Refuses limits (Node.LiesAll bounds nodes) error := by
  cases nodes with
  | nil => exact .inl ⟨trivial,Node.shallow_nil _ _,rfl⟩
  | cons node rest =>
    have apart := Node.shallow_append limits.maxTreeDepth level [node] rest
    rw [List.singleton_append] at apart
    rw [apart,Node.LiesAll,ofNodes,buildAll]
    rcases build_exported limits bounds level node with
      ⟨lies,shallow,built⟩ | ⟨unfit,error,failed,refuses⟩
    · rw [built]
      rcases buildAll_exported limits bounds level rest with
        ⟨others,deep,builtRest⟩ | ⟨unfit,error,failed,refuses⟩
      · refine .inl ⟨⟨lies,others⟩,⟨shallow,deep⟩,?_⟩
        simp only [builtRest,Built.append,List.singleton_append,List.append_nil]
      · exact .inr ⟨fun fits => unfit ⟨fits.1.2,fits.2.2⟩,error,failed,
          refuses_weaken limits _ _ error (·.2) refuses⟩
    · refine .inr ⟨fun fits => unfit ⟨fits.1.1,fits.2.1⟩,error,?_,
        refuses_weaken limits _ _ error (·.1) refuses⟩
      simp only [failed]

end

end RawNode

namespace File

theorem ofText_toText_cases (limits : Limits) (file : File) :
    (file.WellFormed limits.maxTreeDepth ∧
        File.ofText limits file.toText = .ok { file with errors := [] }) ∨
      ¬file.WellFormed limits.maxTreeDepth ∧
        ∃ error, File.ofText limits file.toText = .error error ∧
          RawNode.Refuses limits (Node.LiesAll ⟨0,file.sourceLength⟩ file.roots) error := by
  rw [ofText_toText,wellFormed_iff]
  unfold RawFile.toFile
  simp only [RawFile.ofFile,Option.map_some]
  rcases RawNode.buildAll_exported limits ⟨0,file.sourceLength⟩ 1 file.roots with
    ⟨lies,shallow,built⟩ | ⟨unfit,error,failed,refuses⟩
  · rw [built]
    exact .inl ⟨⟨lies,shallow⟩,rfl⟩
  · generalize RawNode.buildAll limits _ 1 _ = built at failed
    obtain ⟨nodes,errors,failure⟩ := built
    cases failed
    exact .inr ⟨unfit,error,rfl,refuses⟩

/-- A file comes back from its text, without its syntax errors, exactly if it
is well formed. Any other file is refused for where one of its nodes stands. -/
theorem ofText_toText_eq_ok_iff (limits : Limits) (file : File) :
    (File.ofText limits file.toText = .ok { file with errors := [] } ↔
        file.WellFormed limits.maxTreeDepth) ∧
      (file.WellFormed limits.maxTreeDepth ∨
        ∃ error, File.ofText limits file.toText = .error error ∧ Misplaced limits error) := by
  rcases ofText_toText_cases limits file with
    ⟨wellFormed,accepted⟩ | ⟨malformed,error,refused,misplaced,levels⟩
  · exact ⟨⟨fun _ => wellFormed,fun _ => accepted⟩,.inl wellFormed⟩
  · rw [refused]
    exact ⟨⟨nofun,fun wellFormed => absurd wellFormed malformed⟩,.inr ⟨error,rfl,misplaced⟩⟩

end File
end DartTree
