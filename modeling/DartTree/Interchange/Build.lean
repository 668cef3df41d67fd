import DartTree.ImportError
import DartTree.Interchange.Tree
import DartTree.Limits
import DartTree.Tree.Node

/-! Building the tree from the interchange tree. Every node is checked before
what lies below it; regions that did not parse give way to their children and
left-out tokens to nothing, and both are reported as syntax errors. -/
namespace DartTree

/-- What building comes to: the nodes and syntax errors that were found, up to
the failure if there is one. -/
structure Built where
  nodes : List Node := []
  errors : List SyntaxError := []
  failure : Option ImportError := none

namespace Built

def fail (error : ImportError) : Built := { failure := some error }

def append (first rest : Built) : Built :=
  ⟨first.nodes ++ rest.nodes,first.errors ++ rest.errors,rest.failure⟩

/-- The nodes become the children of one node; of a failure only the errors
remain. -/
def wrap (below : Built) (node : List Node → Node) : Built :=
  match below.failure with
  | some _ => { below with nodes := [] }
  | none => { below with nodes := [node below.nodes] }

def withError (below : Built) (error : SyntaxError) : Built :=
  { below with errors := error :: below.errors }

end Built

namespace RawNode

/-- What is wrong with a node that stands at `level` inside `bounds`, whatever
its type. -/
def check (limits : Limits) (bounds : Option Span) (level : Nat) (node : RawNode) :
    Option ImportError :=
  if limits.maxTreeDepth < level then some (.tooDeep limits.maxTreeDepth)
  else if node.stop < node.start then some (.invalidSpan node.start node.stop)
  else match bounds with
    | none => none
    | some parent =>
      if parent.encloses node.span then none else some (.childOutOfBounds node.span parent)

mutual

def build (limits : Limits) (bounds : Option Span) (level : Nat) : RawNode → Built
  | ⟨type,text,start,stop,children⟩ =>
    let node : RawNode := ⟨type,text,start,stop,children⟩
    match node.check limits bounds level with
    | some error => .fail error
    | none =>
      if node.isMissing then { errors := [.missing node.missingToken node.span] }
      else if node.isError then
        (buildAll limits (some node.span) (level + 1) children).withError
          (.unexpected text node.span)
      else match Kind.ofName? type with
        | none => .fail (.unknownKind type start)
        | some kind =>
          (buildAll limits (some node.span) (level + 1) children).wrap
            (⟨kind,node.span,text,·⟩)

def buildAll (limits : Limits) (bounds : Option Span) (level : Nat) : List RawNode → Built
  | [] => {}
  | node :: rest =>
    let first := build limits bounds level node
    match first.failure with
    | some _ => first
    | none => first.append (buildAll limits bounds level rest)

end

def toNode (node : RawNode) : Except ImportError Node :=
  match node.build .standard none 1 with
  | { failure := some error, .. } => .error error
  | { nodes, errors, failure := none } =>
    match nodes.getLast?, errors with
    | some root, [] => .ok root
    | _, errors => .error (.syntaxErrors errors)

end RawNode

/-- Nodes and syntax errors collected over several calls. What a failed call
found before its failure stays. -/
structure Builder where
  limits : Limits
  nodes : List Node := []
  errors : List SyntaxError := []

namespace Builder

def report (builder : Builder) (error : SyntaxError) : Builder :=
  { builder with errors := builder.errors ++ [error] }

def push (builder : Builder) (node : Node) : Builder :=
  { builder with nodes := builder.nodes ++ [node] }

/-- Goes back to the nodes of `outer` after the nodes below a node were built
apart: they become its children, or are dropped if one of them failed. The
syntax errors found on the way stay. -/
def close (outer below : Builder) (outcome : Except ImportError Unit) (node : List Node → Node) :
    Builder × Except ImportError Unit :=
  let after := { below with nodes := outer.nodes }
  match outcome with
  | .ok () => (after.push (node below.nodes),.ok ())
  | .error error => (after,.error error)

mutual

/-- Builds a node and adds what comes of it. The nodes below a region that did
not parse are added one by one, as they are found. -/
def add (builder : Builder) (bounds : Option Span) (level : Nat) :
    RawNode → Builder × Except ImportError Unit
  | ⟨type,text,start,stop,children⟩ =>
    let node : RawNode := ⟨type,text,start,stop,children⟩
    match node.check builder.limits bounds level with
    | some error => (builder,.error error)
    | none =>
      if node.isMissing then (builder.report (.missing node.missingToken node.span),.ok ())
      else if node.isError then
        addAll (builder.report (.unexpected text node.span)) (some node.span) (level + 1) children
      else match Kind.ofName? type with
        | none => (builder,.error (.unknownKind type start))
        | some kind =>
          let (below,outcome) :=
            addAll { builder with nodes := [] } (some node.span) (level + 1) children
          builder.close below outcome (⟨kind,node.span,text,·⟩)

def addAll (builder : Builder) (bounds : Option Span) (level : Nat) :
    List RawNode → Builder × Except ImportError Unit
  | [] => (builder,.ok ())
  | node :: rest =>
    match add builder bounds level node with
    | (after,.ok ()) => addAll after bounds level rest
    | (after,.error error) => (after,.error error)

end

end Builder

/-- Builds a file. Its syntax errors are recorded, and only what is no tree at
all fails. -/
def RawFile.toFile (limits : Limits) (file : RawFile) : Except ImportError File :=
  match RawNode.buildAll limits (file.sourceLength.map (⟨0,·⟩)) 1 file.roots with
  | { failure := some error, .. } => .error error
  | { nodes, errors, failure := none } =>
    let built := File.ofRoots nodes errors
    .ok { built with
      name := file.name
      sourceLength := file.sourceLength.getD built.sourceLength }

end DartTree
