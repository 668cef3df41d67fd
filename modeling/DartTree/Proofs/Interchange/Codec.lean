import DartTree.Interchange.Json
import DartTree.Proofs.Json.ReadBack

/-! The interchange tree survives its text: what is read back from the text of a
file is the file, whatever the types, texts and offsets of its nodes are. -/
namespace DartTree
open Json

namespace RawNode

-- No field is ever taken as set: of several the last counts.
def field (slot : Slot) : RecordField Draft := ⟨slot.name,false,fun _ => false,readSlot (some slot)⟩

def fields : List (RecordField Draft) := Slot.all.map field

theorem readMembers_eq (members : Members) (draft : Draft) :
    readMembers members draft = RecordField.readMembers fields members draft := by
  cases members with
  | closed => rfl
  | cut defect => rfl
  | member key value rest =>
    have onward := readMembers_eq rest
    rw [readMembers,RecordField.readMembers]
    congr 1
    funext name
    have found : fields.find? (·.name == name) = (Slot.ofName? name).map field :=
      List.find?_map ..
    rw [found]
    cases Slot.ofName? name with
    | none => simp only [Option.map_none,onward,readSlot,bind_assoc,pure_bind]
    | some slot => simp only [Option.map_some,onward,field,Bool.false_eq_true,if_false]

mutual

theorem ofJson_toJson (node : RawNode) : ofJson node.toJson.scan = .ok node := by
  obtain ⟨type,text,start,stop,children⟩ := node
  have below := readAll_toJsonAll children
  have typed : RecordField.Carries fields [("type",.string type)] {} { type := some type } :=
    .member _ rfl rfl rfl (.done _)
  have held := RecordField.carries_optional fields "text" Value.string
    (fun text => { type := some type, text := text }) text fun _ => .member _ rfl rfl rfl (.done _)
  have placed : RecordField.Carries fields
      [("startIndex",.number start),("endIndex",.number stop)]
      { type := some type, text := text } ⟨some type,text,some start,some stop,none⟩ :=
    .member _ rfl rfl (Read.bind_ok (Value.readOffset_scan start) _)
      (.member _ rfl rfl (Read.bind_ok (Value.readOffset_scan stop) _) (.done _))
  have nested : RecordField.Carries fields
      (if children.isEmpty then [] else [("children",.array (toJsonAll children))])
      ⟨some type,text,some start,some stop,none⟩
      ⟨some type,text,some start,some stop,if children.isEmpty then none else some children⟩ := by
    cases children with
    | nil => exact .done _
    | cons node rest => exact .member _ rfl rfl (Read.bind_ok below _) (.done _)
  have carries := RecordField.carries_append (RecordField.carries_append
    (RecordField.carries_append typed held) placed) nested
  rw [toJson,Value.scan,ofJson,readMembers_eq,RecordField.readMembers_carries carries]
  cases children <;> rfl

theorem readAll_toJsonAll (nodes : List RawNode) :
    readAll (Value.scanItems (toJsonAll nodes)) = .ok nodes := by
  cases nodes with
  | nil => rfl
  | cons node rest =>
    rw [toJsonAll,Value.scanItems,readAll,ofJson_toJson node,readAll_toJsonAll rest]
    rfl

end

end RawNode

namespace RawFile

theorem ofJson_toJson (file : RawFile) : ofJson file.toJson.scan = .ok file := by
  obtain ⟨name,length,roots⟩ := file
  have read (length : Offset) :
      (Value.number length).scan.readOptional Scan.readOffset = .ok (some length) :=
    congrArg (some <$> ·) (Value.readOffset_scan length)
  have named := RecordField.carries_optional fields "name" Value.string
    (fun name => { name := name.map some }) name fun _ => .member _ rfl rfl rfl (.done _)
  have measured := RecordField.carries_optional fields "sourceLength" Value.number
    (⟨name.map some,Option.map some ·,none⟩) length
    fun length => .member _ rfl rfl (Read.bind_ok (read length) _) (.done _)
  have listed : RecordField.Carries fields [("roots",.array (RawNode.toJsonAll roots))]
      ⟨name.map some,length.map some,none⟩ ⟨name.map some,length.map some,some roots⟩ :=
    .member _ rfl rfl (Read.bind_ok (RawNode.readAll_toJsonAll roots) _) (.done _)
  have carries : RecordField.Carries fields _ {} _ :=
    RecordField.carries_append (RecordField.carries_append named measured) listed
  rw [toJson,Value.scan,ofJson,RecordField.readRecord,RecordField.readMembers_carries carries]
  cases name <;> cases length <;> rfl

/-- A file is read back from its text, with nothing left over. -/
theorem read_render (file : RawFile) :
    (Document.ofText file.toJson.render).read ofJson = .ok file := by
  rw [Value.read_render,ofJson_toJson]

/-- Nothing of a file is lost in its text: it is read back from it whole, and
different files have different texts. -/
theorem text_lossless : Lossless RawFile.toJson RawFile.ofJson := by
  apply lossless_of_scan
  intro file
  exact ofJson_toJson file

end RawFile
end DartTree
