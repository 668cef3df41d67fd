import DartTree.Proofs.Grammar.Names
import DartTree.Proofs.Json.ReadBack
import DartTree.Tree.Json

/-! The tree survives its own JSON form. Reading is followed member by member
through what was written: a field that was left out leaves its place in the draft
empty, and what the draft makes of an empty place is what was left out. -/
namespace DartTree
open Json

theorem Kind.ofJson_toJson (kind : Kind) : Kind.ofJson kind.toJson.scan = .ok kind := by
  rw [toJson,Value.scan,ofJson,Scan.readName,Scan.readVariant,ofName_name]
  rfl

theorem Span.ofJson_toJson (span : Span) : ofJson span.toJson.scan = .ok span := by
  have start := Value.readOffset_scan span.start
  have stop := Value.readOffset_scan span.stop
  have carries : RecordField.Carries fields
      [("start",.number span.start),("end",.number span.stop)] {}
      ⟨some span.start,some span.stop⟩ :=
    .member _ rfl rfl (Read.bind_ok start _) (.member _ rfl rfl (Read.bind_ok stop _) (.done _))
  rw [toJson,Value.scan,ofJson,RecordField.readRecord,RecordField.readMembers_carries carries]
  rfl

theorem Complaint.ofJson_toJson (complaint : Complaint) :
    ofJson complaint.toJson.scan = .ok complaint := by
  cases complaint with
  | unexpected text => cases text <;> rfl
  | missing expected => rfl

theorem SyntaxError.ofJson_toJson (error : SyntaxError) :
    ofJson error.toJson.scan = .ok error := by
  have complaint := Complaint.ofJson_toJson error.complaint
  have span := Span.ofJson_toJson error.span
  have carries : RecordField.Carries fields
      [("kind",error.complaint.toJson),("span",error.span.toJson)] {}
      ⟨some error.complaint,some error.span⟩ :=
    .member _ rfl rfl (Read.bind_ok complaint _) (.member _ rfl rfl (Read.bind_ok span _) (.done _))
  rw [toJson,Value.scan,ofJson,RecordField.readRecord,RecordField.readMembers_carries carries]
  rfl

namespace Node

def field (slot : Slot) : RecordField Draft :=
  ⟨slot.name,slot = .children || slot = .text,slot.isSet,readSlot slot⟩

def fields : List (RecordField Draft) := Slot.all.map field

theorem readMembers_eq (members : Members) (draft : Draft) :
    readMembers members draft = RecordField.readMembers fields members draft := by
  cases members with
  | closed => rfl
  | cut defect => rfl
  | member key value rest =>
    have onward := readMembers_eq rest
    rw [readMembers,RecordField.readMembers]
    congr 1
    funext name
    have found : fields.find? (·.name == name) = (Slot.ofName? name).map field :=
      List.find?_map ..
    rw [found]
    cases Slot.ofName? name with
    | none => simp only [Option.map_none,onward]
    | some slot => simp only [Option.map_some,onward,field]

mutual

theorem ofJson_toJson (node : Node) : ofJson node.toJson.scan = .ok node := by
  obtain ⟨kind,span,text,children⟩ := node
  have below := readAll_toJsonAll children
  have always : RecordField.Carries fields [("kind",kind.toJson),("span",span.toJson)] {}
      ⟨some kind,some span,none,none⟩ :=
    .member _ rfl rfl (Read.bind_ok (Kind.ofJson_toJson kind) _)
      (.member _ rfl rfl (Read.bind_ok (Span.ofJson_toJson span) _) (.done _))
  have nested : RecordField.Carries fields
      (if children.isEmpty then [] else [("children",.array (toJsonAll children))])
      ⟨some kind,some span,none,none⟩
      ⟨some kind,some span,if children.isEmpty then none else some children,none⟩ := by
    cases children with
    | nil => exact .done _
    | cons node rest => exact .member _ rfl rfl (Read.bind_ok below _) (.done _)
  have held := RecordField.carries_optional fields "text" Value.string
    (⟨some kind,some span,if children.isEmpty then none else some children,Option.map some ·⟩) text
    fun _ => .member _ rfl rfl rfl (.done _)
  have carries := RecordField.carries_append (RecordField.carries_append always nested) held
  rw [toJson,Value.scan,ofJson,readMembers_eq,RecordField.readMembers_carries carries]
  -- a draft without children or text is finished as a node that has none
  cases children <;> cases text <;> rfl

theorem readAll_toJsonAll (nodes : List Node) :
    readAll (Value.scanItems (toJsonAll nodes)) = .ok nodes := by
  cases nodes with
  | nil => rfl
  | cons node rest =>
    rw [toJsonAll,Value.scanItems,readAll,ofJson_toJson node,readAll_toJsonAll rest]
    rfl

end

end Node

namespace File

theorem ofJson_toJson (file : File) : ofJson file.toJson.scan = .ok file := by
  obtain ⟨name,length,roots,errors⟩ := file
  have measured := Value.readOffset_scan length
  have listed := Node.readAll_toJsonAll roots
  have reported := Items.readAll_scanItems SyntaxError.toJson SyntaxError.ofJson
    SyntaxError.ofJson_toJson errors
  have named := RecordField.carries_optional fields "name" Value.string
    (fun name => { name := name.map some }) name fun _ => .member _ rfl rfl rfl (.done _)
  have always : RecordField.Carries fields
      [("source_len",.number length),("roots",.array (Node.toJsonAll roots)),
        ("errors",.array (errors.map SyntaxError.toJson))]
      { name := name.map some } ⟨name.map some,some length,some roots,some errors⟩ :=
    .member _ rfl rfl (Read.bind_ok measured _) (.member _ rfl rfl (Read.bind_ok listed _)
      (.member _ rfl rfl (Read.bind_ok reported _) (.done _)))
  have carries : RecordField.Carries fields _ {} _ := RecordField.carries_append named always
  rw [toJson,Value.scan,ofJson,RecordField.readRecord,RecordField.readMembers_carries carries]
  cases name <;> rfl

/-- Nothing of a file is lost in its own form, its syntax errors included, nor
of a node or a syntax error alone. -/
theorem json_lossless :
    Lossless File.toJson File.ofJson ∧ Lossless Node.toJson Node.ofJson ∧
      Lossless SyntaxError.toJson SyntaxError.ofJson := by
  refine ⟨?_,?_,?_⟩
  · apply lossless_of_scan
    intro file
    exact ofJson_toJson file
  · apply lossless_of_scan
    intro node
    exact Node.ofJson_toJson node
  · apply lossless_of_scan
    intro error
    exact SyntaxError.ofJson_toJson error

end File
end DartTree
