import DartTree.Concrete.Kind
import DartTree.Concrete.Tree
import DartTree.ImportError
import DartTree.Limits
import DartTree.Tree.Node

/-! From the concrete tree of a source to the tree. Tokens and comments are
dropped, identifiers are wrapped by what they stand for, node types without a
kind leave their place to their children, and errors of the parser become
syntax errors. -/
namespace DartTree

structure Converted where
  nodes : List Node := []
  errors : List SyntaxError := []

namespace ConcreteNode

def identifierType : String := "identifier"

def nameField : String := "name"

def isDeclaredName (node : ConcreteNode) : Bool := node.field = some nameField

def identifierNode (source : Source) (node : ConcreteNode) : Node where
  kind := if node.isDeclaredName then .componentName else .referenceExpression
  span := node.span
  children := [{ kind := .id, span := node.span, text := some ((source.slice? node.span).getD "") }]

/-- The text a converted node carries: its source, if no named nodes are in it. -/
def leafText (source : Source) (node : ConcreteNode) : Option String :=
  if node.children.any (·.named) then none else source.slice? node.span

mutual

def convert (source : Source) (limits : Limits) (level : Nat) :
    ConcreteNode → Except ImportError Converted
  | ⟨type,field,span,named,extra,missing,error,children⟩ =>
    let node : ConcreteNode := ⟨type,field,span,named,extra,missing,error,children⟩
    if limits.maxTreeDepth < level then .error (.tooDeep limits.maxTreeDepth)
    else if missing then .ok { errors := [.missing type span] }
    else if error then do
      let below ← convertAll source limits (level + 1) children
      pure { below with errors := .unexpected (source.slice? span) span :: below.errors }
    else if !named || extra then .ok {}
    else if type = identifierType then .ok { nodes := [node.identifierNode source] }
    else match ConcreteKind.ofType? type with
      | none => convertAll source limits (level + 1) children
      | some kind => do
        let below ← convertAll source limits (level + 1) children
        pure { below with nodes := [⟨kind,span,node.leafText source,below.nodes⟩] }

def convertAll (source : Source) (limits : Limits) (level : Nat) :
    List ConcreteNode → Except ImportError Converted
  | [] => .ok {}
  | node :: rest => do
    let first ← convert source limits level node
    let others ← convertAll source limits level rest
    pure ⟨first.nodes ++ others.nodes,first.errors ++ others.errors⟩

end

end ConcreteNode

/-- The file of a source with the given concrete tree. The root of the concrete
tree stands for the file itself. -/
def File.ofConcrete (limits : Limits) (source : Source) (root : ConcreteNode) :
    Except ImportError File := do
  let converted ← ConcreteNode.convertAll source limits 1 root.children
  pure { File.ofRoots converted.nodes converted.errors with sourceLength := source.length }

end DartTree
