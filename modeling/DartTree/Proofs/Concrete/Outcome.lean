import DartTree.Proofs.Concrete.Survival

/-! What the conversion of a source comes to as a whole. It is settled by the
nodes that it comes to: if one of them is too deep there is no file, and
otherwise they give the syntax errors and the rows of the file in order. Since
the root stands for the file, a root that did not parse is not reported. -/
namespace DartTree

namespace ConcreteNode

def faulty (node : ConcreteNode) : Bool := node.error || node.missing

def skipped (node : ConcreteNode) : Bool :=
  node.missing || !node.error && (!node.named || node.extra || node.type = identifierType)

/-- The source parsed wherever the conversion does not look. -/
def ParsedWhereSkipped (root : ConcreteNode) : Prop :=
  ∀ site ∈ root.inner, site.above.any skipped = true → site.node.faulty = false

private theorem skipped_eq (node : ConcreteNode) : node.skipped = !node.entered := by
  unfold skipped entered
  cases node.missing <;> cases node.error <;> cases node.named <;> cases node.extra <;> simp

private theorem visited_eq (site : ConcreteSite) : site.visited = !site.above.any skipped := by
  unfold ConcreteSite.visited
  induction site.above with
  | nil => rfl
  | cons node rest ih => rw [List.all_cons,List.any_cons,ih,skipped_eq,Bool.not_or,Bool.not_not]

theorem complaint_eq_none_iff (source : Source) (site : ConcreteSite) :
    site.complaint? source = none ↔ site.node.faulty = false := by
  unfold ConcreteSite.complaint? faulty
  cases site.node.missing <;> cases site.node.error <;> simp

private theorem complaint_proper (source : Source) (above : List ConcreteNode) (node : ConcreteNode)
    (proper : node.proper = true) : ConcreteSite.complaint? source ⟨above,node⟩ = none := by
  obtain ⟨present,parsed,_,_⟩ := proper_fields node proper
  simp [complaint_eq_none_iff,faulty,present,parsed]

private theorem own_errors (source : Source) (above : List ConcreteNode) (node : ConcreteNode)
    (sites : List ConcreteSite) :
    (⟨above,node⟩ :: sites).filterMap (ConcreteSite.complaint? source) =
      (node.own source).errors ++ sites.filterMap (ConcreteSite.complaint? source) := by
  have same : ConcreteSite.complaint? source ⟨above,node⟩ =
      ConcreteSite.complaint? source ⟨[],node⟩ := rfl
  rw [List.filterMap_cons,same,own]
  cases ConcreteSite.complaint? source ⟨[],node⟩ <;> rfl

theorem converts_errors (source : Source) (limits : Limits) (level : Nat)
    (above nodes : List ConcreteNode) (converted : Converted)
    (converts : Converts source limits level nodes converted)
    (reachable : above.all entered = true) :
    converted.errors =
      ((sitesAll above nodes).filter ConcreteSite.visited).filterMap
        (ConcreteSite.complaint? source) := by
  induction converts generalizing above with
  | nil level => rfl
  | cons _ _ one more =>
    rw [sitesAll_cons,List.filter_append,List.filterMap_append,← one above reachable,
      ← more above reachable,Converted.append]
  | closed node _ closed =>
    rw [sitesAll_closed above node reachable closed,own_errors,List.filterMap_nil,List.append_nil]
  | hoisted node _ enters _ _ below =>
    have rest := below (node :: above) (reachable_below above node reachable enters)
    rw [sitesAll_visited above node reachable,own_errors,← rest,Converted.append]
  | regular node kind _ proper other _ _ below =>
    have enters := entered_proper node proper other
    rw [sitesAll_visited above node reachable,
      List.filterMap_cons_none (complaint_proper source above node proper)]
    exact below (node :: above) (reachable_below above node reachable enters)

end ConcreteNode

theorem Source.length_toNat (source : Source) :
    source.length.toNat = source.text.utf8ByteSize :=
  UInt64.toNat_ofNat_of_lt source.bounded

namespace File

private theorem ofConcrete_eq (limits : Limits) (source : Source) (root : ConcreteNode) :
    File.ofConcrete limits source root =
      (ConcreteNode.convertAll source limits 1 root.children).map fun converted =>
        ⟨none,source.length,converted.nodes,converted.errors⟩ := by
  unfold ofConcrete
  cases ConcreteNode.convertAll source limits 1 root.children <;> rfl

theorem ofConcrete_errors (limits : Limits) (source : Source) (root : ConcreteNode) (file : File)
    (converted : File.ofConcrete limits source root = .ok file) :
    file.errors =
      (root.inner.filter ConcreteSite.visited).filterMap (ConcreteSite.complaint? source) := by
  obtain ⟨accepted,_⟩ := ofConcrete_ok limits source root file converted
  have converts := ConcreteNode.convertAll_converts source limits 1 root.children _ accepted
  exact ConcreteNode.converts_errors source limits 1 [] root.children _ converts rfl

/-- The conversion is too deep exactly if a node that it comes to is, tokens and
comments included. Otherwise there is a file, as long as the source, with the
syntax errors and the rows of the nodes that it came to. -/
theorem ofConcrete_outcome (limits : Limits) (source : Source) (root : ConcreteNode) :
    (File.ofConcrete limits source root = .error (.tooDeep limits.maxTreeDepth) ↔
        ∃ site ∈ root.inner.filter ConcreteSite.visited, limits.maxTreeDepth < site.level) ∧
      (File.ofConcrete limits source root = .error (.tooDeep limits.maxTreeDepth) ∨
        ∃ file, File.ofConcrete limits source root = .ok file ∧
          file.sourceLength.toNat = source.text.utf8ByteSize ∧ file.name = none ∧
          file.errors = (root.inner.filter ConcreteSite.visited).filterMap
            (ConcreteSite.complaint? source) ∧
          Node.rowsAll 1 file.roots =
            (root.inner.filter ConcreteSite.visited).flatMap (ConcreteSite.rows source)) := by
  rw [ofConcrete_eq]
  rcases ConcreteNode.convertAll_cases source limits root.children with
    ⟨converted,accepted,within⟩ | ⟨failed,deeper⟩
  · have converts := ConcreteNode.convertAll_converts source limits 1 root.children converted accepted
    have rows := ConcreteNode.converts_rows source limits 1 [] root.children converted converts rfl
    have errors :=
      ConcreteNode.converts_errors source limits 1 [] root.children converted converts rfl
    rw [accepted]
    refine ⟨⟨nofun,?_⟩,.inr ⟨_,rfl,source.length_toNat,rfl,errors,rows⟩⟩
    rintro ⟨site,member,exceeds⟩
    exact absurd (within site member) (by omega)
  · rw [failed]
    exact ⟨⟨fun _ => deeper,fun _ => rfl⟩,.inl rfl⟩

private theorem isOk_iff_parsed_below (limits : Limits) (source : Source) (root : ConcreteNode)
    (file : File) (skipped : root.ParsedWhereSkipped)
    (converted : File.ofConcrete limits source root = .ok file) :
    file.isOk = true ↔ ∀ site ∈ root.inner, site.node.faulty = false := by
  rw [isOk,List.isEmpty_iff,ofConcrete_errors limits source root file converted,
    List.filterMap_eq_nil_iff]
  simp only [List.mem_filter,ConcreteNode.complaint_eq_none_iff]
  constructor
  · intro clean site member
    cases hidden : site.above.any ConcreteNode.skipped with
    | true => exact skipped site member hidden
    | false =>
      have visited : site.visited = true := by rw [ConcreteNode.visited_eq,hidden]; rfl
      exact clean site ⟨member,visited⟩
  · intro clean site visited
    exact clean site visited.1

/-- Where everything parsed that the conversion does not look at, a file has no
syntax errors exactly if everything below the root parsed. So the file says of
the whole tree whether it parsed, unless the root alone did not. -/
theorem ofConcrete_isOk_iff (limits : Limits) (source : Source) (root : ConcreteNode) (file : File)
    (skipped : root.ParsedWhereSkipped)
    (converted : File.ofConcrete limits source root = .ok file) :
    (file.isOk = true ↔ ∀ site ∈ root.inner, site.node.faulty = false) ∧
      ((file.isOk = true ↔
          root.faulty = false ∧ ∀ site ∈ root.inner, site.node.faulty = false) ↔
        (root.faulty = true → ∃ site ∈ root.inner, site.node.faulty = true)) := by
  have reported := isOk_iff_parsed_below limits source root file skipped converted
  refine ⟨reported,?_⟩
  rw [reported]
  constructor
  · intro agree broken
    by_contra none
    have inside : ∀ site ∈ root.inner, site.node.faulty = false := by
      intro site member
      exact eq_false_of_ne_true fun faulty => none ⟨site,member,faulty⟩
    exact Bool.false_ne_true ((agree.mp inside).1.symm.trans broken)
  · intro seen
    refine ⟨fun inside => ⟨?_,inside⟩,And.right⟩
    by_contra broken
    obtain ⟨site,member,faulty⟩ := seen (eq_true_of_ne_false broken)
    exact Bool.false_ne_true ((inside site member).symm.trans faulty)

def unclosedArguments : ConcreteNode where
  type := "program"
  span := ⟨0,12⟩
  named := true
  children := [{
    type := "expression_statement"
    span := ⟨0,12⟩
    named := true
    children := [
      { type := "identifier",span := ⟨0,4⟩,named := true },
      { type := "ERROR",span := ⟨4,11⟩,named := true,extra := true,error := true,children := [
        { type := "<",span := ⟨4,5⟩ },
        { type := "identifier",span := ⟨5,8⟩,named := true },
        { type := "identifier",span := ⟨9,11⟩,named := true }] },
      { type := ";",span := ⟨11,12⟩ }] }]

def unclosedArgumentsFile : File where
  sourceLength := 12
  roots := [
    ⟨.referenceExpression,⟨0,4⟩,none,[⟨.id,⟨0,4⟩,some "List",[]⟩]⟩,
    ⟨.referenceExpression,⟨5,8⟩,none,[⟨.id,⟨5,8⟩,some "int",[]⟩]⟩,
    ⟨.referenceExpression,⟨9,11⟩,none,[⟨.id,⟨9,11⟩,some "xs",[]⟩]⟩]
  errors := [.unexpected (some "<int xs") ⟨4,11⟩]

theorem unclosedArguments_reported :
    unclosedArguments.ParsedWhereSkipped ∧
      File.ofConcrete .standard ⟨"List<int xs;",by decide⟩ unclosedArguments =
        .ok unclosedArgumentsFile ∧
      unclosedArgumentsFile.isOk = false ∧
      ¬∀ site ∈ unclosedArguments.inner, site.node.faulty = false := by
  have skipped : unclosedArguments.ParsedWhereSkipped := by
    unfold ConcreteNode.ParsedWhereSkipped
    decide
  have converted : File.ofConcrete .standard ⟨"List<int xs;",by decide⟩ unclosedArguments =
      .ok unclosedArgumentsFile := rfl
  have reported := ofConcrete_isOk_iff _ _ unclosedArguments unclosedArgumentsFile skipped converted
  refine ⟨skipped,converted,rfl,?_⟩
  intro clean
  exact Bool.false_ne_true (reported.1.mpr clean)

/-- A loop without its condition, of which the parser makes no program at all:
only the root did not parse. -/
def unfinishedLoop : ConcreteNode where
  type := "ERROR"
  span := ⟨0,14⟩
  named := true
  error := true
  children := [
    { type := "function_signature",span := ⟨0,3⟩,named := true,children := [
      { type := "identifier",field := some "name",span := ⟨0,1⟩,named := true },
      { type := "formal_parameter_list",span := ⟨1,3⟩,named := true,children := [
        { type := "(",span := ⟨1,2⟩ },
        { type := ")",span := ⟨2,3⟩ }] }] },
    { type := "\x7b",span := ⟨4,5⟩ },
    { type := "do",span := ⟨6,8⟩ },
    { type := "set_or_map_literal",span := ⟨9,12⟩,named := true,children := [
      { type := "\x7b",span := ⟨9,10⟩ },
      { type := "\x7d",span := ⟨11,12⟩ }] },
    { type := "\x7d",span := ⟨13,14⟩ }]

def unfinishedLoopFile : File where
  sourceLength := 14
  roots := [
    ⟨.functionDeclarationWithBodyOrNative,⟨0,3⟩,none,[
      ⟨.componentName,⟨0,1⟩,none,[⟨.id,⟨0,1⟩,some "f",[]⟩]⟩,
      ⟨.formalParameterList,⟨1,3⟩,some "()",[]⟩]⟩,
    ⟨.mapLiteralExpression,⟨9,12⟩,some "\x7b \x7d",[]⟩]

theorem unfinishedLoop_unreported :
    unfinishedLoop.ParsedWhereSkipped ∧
      File.ofConcrete .standard ⟨"f() \x7b do \x7b \x7d \x7d",by decide⟩ unfinishedLoop =
        .ok unfinishedLoopFile ∧
      unfinishedLoopFile.isOk = true ∧ unfinishedLoop.faulty = true := by
  refine ⟨?_,rfl,rfl,rfl⟩
  unfold ConcreteNode.ParsedWhereSkipped
  decide

end File
end DartTree
