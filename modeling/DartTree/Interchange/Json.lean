import DartTree.Interchange.Tree
import DartTree.Json.Record
import DartTree.Json.Value

/-! The interchange tree as JSON. A node is an object, and of a field that
comes more than once the last counts. -/
namespace DartTree
open Json

namespace RawNode

mutual

def toJson : RawNode → Value
  | ⟨type,text,start,stop,children⟩ =>
    .object ([("type",.string type)]
      ++ (text.map fun text => ("text",Value.string text)).toList
      ++ [("startIndex",.number start),("endIndex",.number stop)]
      ++ if children.isEmpty then [] else [("children",Value.array (toJsonAll children))])

def toJsonAll : List RawNode → List Value
  | [] => []
  | node :: rest => node.toJson :: toJsonAll rest

end

structure Draft where
  type : Option String := none
  text : Option String := none
  start : Option Offset := none
  stop : Option Offset := none
  children : Option (List RawNode) := none

def Draft.finish (draft : Draft) : Read RawNode := do
  let type ← required "type" draft.type
  let start ← required "startIndex" draft.start
  let stop ← required "endIndex" draft.stop
  pure ⟨type,draft.text,start,stop,draft.children.getD []⟩

inductive Slot where
  | type | text | start | stop | children
deriving DecidableEq, Repr

namespace Slot

def all : List Slot := [.type,.text,.start,.stop,.children]

def name : Slot → String
  | .type => "type"
  | .text => "text"
  | .start => "startIndex"
  | .stop => "endIndex"
  | .children => "children"

def ofName? (name : String) : Option Slot := all.find? (·.name == name)

end Slot

mutual

def ofJson : Scan → Read RawNode
  | .object members => do
    let draft ← readMembers members {}
    draft.finish
  | other => other.wrongType "a serialized tree node"

def readMembers : Members → Draft → Read Draft
  | .closed, draft => pure draft
  | .cut defect, _ => Json.stop defect
  | .member key value rest, draft => do
    let name ← key.read
    let draft ← readSlot (Slot.ofName? name) value draft
    readMembers rest draft

def readSlot (slot? : Option Slot) : Scan → Draft → Read Draft
  | value, draft =>
    match slot? with
    | none => do
      value.skip
      pure draft
    | some .type => do return { draft with type := some (← value.readString) }
    | some .text => do return { draft with text := ← value.readOptional Scan.readString }
    | some .start => do return { draft with start := some (← value.readOffset) }
    | some .stop => do return { draft with stop := some (← value.readOffset) }
    | some .children =>
      match value with
      | .array items => do return { draft with children := some (← readAll items) }
      | other => other.wrongType "a sequence"

def readAll : Items → Read (List RawNode)
  | .closed => pure []
  | .cut defect => Json.stop defect
  | .item value rest => do
    let node ← ofJson value
    let others ← readAll rest
    pure (node :: others)

end

def readForest : Scan → Read (List RawNode)
  | .array items => readAll items
  | other => other.wrongType "a sequence"

end RawNode

namespace RawFile

def toJson (file : RawFile) : Value :=
  .object ((file.name.map fun name => ("name",Value.string name)).toList
    ++ (file.sourceLength.map fun length => ("sourceLength",Value.number length)).toList
    ++ [("roots",.array (RawNode.toJsonAll file.roots))])

structure Draft where
  name : Option (Option String) := none
  sourceLength : Option (Option Offset) := none
  roots : Option (List RawNode) := none

def fields : List (RecordField Draft) := [
  { name := "name", omissible := true, isSet := (·.name.isSome)
    read := fun value draft => do
      return { draft with name := some (← value.readOptional Scan.readString) } },
  { name := "sourceLength", omissible := true, isSet := (·.sourceLength.isSome)
    read := fun value draft => do
      return { draft with sourceLength := some (← value.readOptional Scan.readOffset) } },
  { name := "roots", omissible := false, isSet := (·.roots.isSome)
    read := fun value draft => do
      return { draft with roots := some (← RawNode.readForest value) } }]

def ofJson (value : Scan) : Read RawFile := do
  let draft ← RecordField.readRecord "struct SerializedFile" fields {} value
  let roots ← required "roots" draft.roots
  pure ⟨draft.name.getD none,draft.sourceLength.getD none,roots⟩

end RawFile
end DartTree
