import DartTree.Grammar.Json
import DartTree.Tree.Node

/-! The tree and its parts as JSON. A field that may be left out is left out
when it is empty; the errors of a file are always written. -/
namespace DartTree
open Json

namespace Span

def toJson (span : Span) : Value :=
  .object [("start",.number span.start),("end",.number span.stop)]

structure Draft where
  start : Option Offset := none
  stop : Option Offset := none

def fields : List (RecordField Draft) := [
  { name := "start", omissible := false, isSet := (·.start.isSome)
    read := fun value draft => do return { draft with start := some (← value.readOffset) } },
  { name := "end", omissible := false, isSet := (·.stop.isSome)
    read := fun value draft => do return { draft with stop := some (← value.readOffset) } }]

def ofJson (value : Scan) : Read Span := do
  let draft ← RecordField.readRecord "struct Span" fields {} value
  let start ← required "start" draft.start
  let stop ← required "end" draft.stop
  pure ⟨start,stop⟩

end Span

namespace Complaint

def toJson : Complaint → Value
  | .unexpected text =>
    .object [("unexpected",.object [("text",(text.map Value.string).getD .null)])]
  | .missing expected => .object [("missing",.object [("expected",.string expected)])]

inductive Form where
  | unexpected
  | missing

def Form.select (name : String) : Read Form :=
  if name = "unexpected" then pure .unexpected
  else if name = "missing" then pure .missing
  else refuse (.unknownVariant name ["unexpected","missing"])

def unexpectedFields : List (RecordField (Option (Option String))) := [
  { name := "text", omissible := false, isSet := Option.isSome
    read := fun value _ => do return some (← value.readOptional Scan.readString) }]

def missingFields : List (RecordField (Option String)) := [
  { name := "expected", omissible := false, isSet := Option.isSome
    read := fun value _ => do return some (← value.readString) }]

def Form.readContent : Form → Scan → Read Complaint
  | .unexpected, value => do
    let text ← RecordField.readRecord "struct variant SyntaxErrorKind::Unexpected" unexpectedFields
      none value
    pure (.unexpected (text.getD none))
  | .missing, value => do
    let expected ← RecordField.readRecord "struct variant SyntaxErrorKind::Missing" missingFields
      none value
    let expected ← required "expected" expected
    pure (.missing expected)

def ofJson : Scan → Read Complaint :=
  Scan.readVariant Form.select (fun _ => refuse (.invalidType .bareVariant "struct variant"))
    Form.readContent

end Complaint

namespace SyntaxError

def toJson (error : SyntaxError) : Value :=
  .object [("kind",error.complaint.toJson),("span",error.span.toJson)]

structure Draft where
  complaint : Option Complaint := none
  span : Option Span := none

def fields : List (RecordField Draft) := [
  { name := "kind", omissible := false, isSet := (·.complaint.isSome)
    read := fun value draft => do
      return { draft with complaint := some (← Complaint.ofJson value) } },
  { name := "span", omissible := false, isSet := (·.span.isSome)
    read := fun value draft => do return { draft with span := some (← Span.ofJson value) } }]

def ofJson (value : Scan) : Read SyntaxError := do
  let draft ← RecordField.readRecord "struct SyntaxError" fields {} value
  let complaint ← required "kind" draft.complaint
  let span ← required "span" draft.span
  pure ⟨complaint,span⟩

end SyntaxError

namespace Node

mutual

def toJson : Node → Value
  | ⟨kind,span,text,children⟩ =>
    .object ([("kind",kind.toJson),("span",span.toJson)]
      ++ (if children.isEmpty then [] else [("children",Value.array (toJsonAll children))])
      ++ (text.map fun text => ("text",Value.string text)).toList)

def toJsonAll : List Node → List Value
  | [] => []
  | node :: rest => node.toJson :: toJsonAll rest

end

structure Draft where
  kind : Option Kind := none
  span : Option Span := none
  children : Option (List Node) := none
  text : Option (Option String) := none

inductive Slot where
  | kind | span | children | text
deriving DecidableEq, Repr

namespace Slot

/-- In the order of the array form. The last two may be left off. -/
def all : List Slot := [.kind,.span,.children,.text]

def name : Slot → String
  | .kind => "kind"
  | .span => "span"
  | .children => "children"
  | .text => "text"

def ofName? (name : String) : Option Slot := all.find? (·.name == name)

def isSet (draft : Draft) : Slot → Bool
  | .kind => draft.kind.isSome
  | .span => draft.span.isSome
  | .children => draft.children.isSome
  | .text => draft.text.isSome

end Slot

def Draft.finish (draft : Draft) : Read Node := do
  let kind ← required "kind" draft.kind
  let span ← required "span" draft.span
  pure ⟨kind,span,draft.text.getD none,draft.children.getD []⟩

mutual

def ofJson : Scan → Read Node
  | .object members => do
    let draft ← readMembers members {}
    draft.finish
  | .array items => do
    let draft ← readItems 0 Slot.all items {}
    draft.finish
  | other => other.wrongType "struct PsiNode"

def readMembers : Members → Draft → Read Draft
  | .closed, draft => pure draft
  | .cut defect, _ => stop defect
  | .member key value rest, draft => do
    let name ← key.read
    match Slot.ofName? name with
    | none =>
      value.skip
      readMembers rest draft
    | some slot =>
      if slot.isSet draft then refuse (.duplicateField name)
      else
        let draft ← readSlot slot value draft
        readMembers rest draft

def readItems (position : Nat) : List Slot → Items → Draft → Read Draft
  | [], .closed, draft => pure draft
  | [], .item _ _, _ => stop .malformed
  | slot :: slots, .item value rest, draft => do
    let draft ← readSlot slot value draft
    readItems (position + 1) slots rest draft
  | _ :: _, .closed, draft =>
    if position < 2 then
      refuse (.invalidLength position (titleWithLength "struct PsiNode" Slot.all.length))
    else pure draft
  | _, .cut defect, _ => stop defect

def readSlot (slot : Slot) : Scan → Draft → Read Draft
  | value, draft =>
    match slot with
    | .kind => do return { draft with kind := some (← Kind.ofJson value) }
    | .span => do return { draft with span := some (← Span.ofJson value) }
    | .children =>
      match value with
      | .array items => do return { draft with children := some (← readAll items) }
      | other => other.wrongType "a sequence"
    | .text => do return { draft with text := some (← value.readOptional Scan.readString) }

def readAll : Items → Read (List Node)
  | .closed => pure []
  | .cut defect => stop defect
  | .item value rest => do
    let node ← ofJson value
    let others ← readAll rest
    pure (node :: others)

end

def readForest : Scan → Read (List Node)
  | .array items => readAll items
  | other => other.wrongType "a sequence"

end Node

namespace File

def toJson (file : File) : Value :=
  .object ((file.name.map fun name => ("name",Value.string name)).toList
    ++ [("source_len",.number file.sourceLength),
      ("roots",.array (Node.toJsonAll file.roots)),
      ("errors",.array (file.errors.map SyntaxError.toJson))])

structure Draft where
  name : Option (Option String) := none
  sourceLength : Option Offset := none
  roots : Option (List Node) := none
  errors : Option (List SyntaxError) := none

def fields : List (RecordField Draft) := [
  { name := "name", omissible := true, isSet := (·.name.isSome)
    read := fun value draft => do
      return { draft with name := some (← value.readOptional Scan.readString) } },
  { name := "source_len", omissible := false, isSet := (·.sourceLength.isSome)
    read := fun value draft => do return { draft with sourceLength := some (← value.readOffset) } },
  { name := "roots", omissible := false, isSet := (·.roots.isSome)
    read := fun value draft => do return { draft with roots := some (← Node.readForest value) } },
  { name := "errors", omissible := true, isSet := (·.errors.isSome)
    read := fun value draft => do
      return { draft with errors := some (← value.readList SyntaxError.ofJson) } }]

def ofJson (value : Scan) : Read File := do
  let draft ← RecordField.readRecord "struct PsiFile" fields {} value
  let sourceLength ← required "source_len" draft.sourceLength
  let roots ← required "roots" draft.roots
  pure ⟨draft.name.getD none,sourceLength,roots,draft.errors.getD []⟩

end File
end DartTree
