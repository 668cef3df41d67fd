import DartTree.Span
import DartTree.Text.Blank

/-! The interchange tree: what a parser elsewhere hands over. Node types are
plain text, offsets are unchecked, and two types come from error recovery: one
for regions that did not parse and one for tokens that were left out. -/
namespace DartTree

structure RawNode where
  type : String
  text : Option String := none
  start : Offset
  stop : Offset
  children : List RawNode := []
deriving Inhabited

namespace RawNode

def errorType : String := "ERROR"

def missingMark : String := "MISSING"

def span (node : RawNode) : Span := ⟨node.start,node.stop⟩

def isError (node : RawNode) : Bool := node.type = errorType

def isMissing (node : RawNode) : Bool := missingMark.toList.isPrefixOf node.type.toList

/-- The token a missing node stands for: what follows the mark, or the whole
type if nothing does. -/
def missingToken (node : RawNode) : String :=
  let token := Text.trimChars (node.type.toList.drop missingMark.length)
  if token.isEmpty then node.type else String.ofList token

def findChild (node : RawNode) (type : String) : Option RawNode :=
  node.children.find? (·.type = type)

mutual

def decEq : (left right : RawNode) → Decidable (left = right)
  | ⟨type,text,start,stop,children⟩, ⟨type',text',start',stop',children'⟩ =>
    if same : type = type' ∧ text = text' ∧ start = start' ∧ stop = stop' then
      match decEqAll children children' with
      | isTrue sameChildren => isTrue (by obtain ⟨rfl,rfl,rfl,rfl⟩ := same; rw [sameChildren])
      | isFalse differ => isFalse (by rintro ⟨⟩; exact differ rfl)
    else isFalse (by rintro ⟨⟩; exact same ⟨rfl,rfl,rfl,rfl⟩)

def decEqAll : (left right : List RawNode) → Decidable (left = right)
  | [], [] => isTrue rfl
  | [], _ :: _ => isFalse (by rintro ⟨⟩)
  | _ :: _, [] => isFalse (by rintro ⟨⟩)
  | node :: rest, node' :: rest' =>
    match decEq node node' with
    | isTrue sameNode =>
      match decEqAll rest rest' with
      | isTrue sameRest => isTrue (by rw [sameNode,sameRest])
      | isFalse differ => isFalse (by rintro ⟨⟩; exact differ rfl)
    | isFalse differ => isFalse (by rintro ⟨⟩; exact differ rfl)

end

instance : DecidableEq RawNode := decEq

end RawNode

structure RawFile where
  name : Option String := none
  /-- Length of the source in bytes; roots must end within it. -/
  sourceLength : Option Offset := none
  roots : List RawNode
deriving DecidableEq, Inhabited

end DartTree
