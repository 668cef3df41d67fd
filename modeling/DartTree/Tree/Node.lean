import DartTree.Grammar.Kind
import DartTree.SyntaxError

/-! The tree: nodes that own their children, and the file that holds a forest
of them together with its syntax errors. -/
namespace DartTree

structure Node where
  kind : Kind
  span : Span
  text : Option String := none
  children : List Node := []
deriving Inhabited

namespace Node

mutual

def decEq : (left right : Node) → Decidable (left = right)
  | ⟨kind,span,text,children⟩, ⟨kind',span',text',children'⟩ =>
    if same : kind = kind' ∧ span = span' ∧ text = text' then
      match decEqAll children children' with
      | isTrue sameChildren => isTrue (by obtain ⟨rfl,rfl,rfl⟩ := same; rw [sameChildren])
      | isFalse differ => isFalse (by rintro ⟨⟩; exact differ rfl)
    else isFalse (by rintro ⟨⟩; exact same ⟨rfl,rfl,rfl⟩)

def decEqAll : (left right : List Node) → Decidable (left = right)
  | [], [] => isTrue rfl
  | [], _ :: _ => isFalse (by rintro ⟨⟩)
  | _ :: _, [] => isFalse (by rintro ⟨⟩)
  | node :: rest, node' :: rest' =>
    match decEq node node' with
    | isTrue sameNode =>
      match decEqAll rest rest' with
      | isTrue sameRest => isTrue (by rw [sameNode,sameRest])
      | isFalse differ => isFalse (by rintro ⟨⟩; exact differ rfl)
    | isFalse differ => isFalse (by rintro ⟨⟩; exact differ rfl)

end

instance : DecidableEq Node := decEq

def addChild (node child : Node) : Node := { node with children := node.children ++ [child] }

def textOrEmpty (node : Node) : String := node.text.getD ""

def findChild (node : Node) (kind : Kind) : Option Node := node.children.find? (·.kind = kind)

def findChildren (node : Node) (kind : Kind) : List Node := node.children.filter (·.kind = kind)

end Node

structure File where
  name : Option String := none
  sourceLength : Offset := 0
  roots : List Node := []
  errors : List SyntaxError := []
deriving DecidableEq, Inhabited

namespace File

/-- A file of unknown name, as long as its furthest root reaches. -/
def ofRoots (roots : List Node) (errors : List SyntaxError) : File where
  sourceLength := roots.foldl (fun furthest root => max furthest root.span.stop) 0
  roots := roots
  errors := errors

def withName (file : File) (name : String) : File := { file with name := some name }

def isOk (file : File) : Bool := file.errors.isEmpty

end File
end DartTree
