import DartTree.Json.Reading

/-! Reading records and variants. A record is an object with its fields in any
order and others passed over, or an array of its fields in order; no field may
come twice. A variant is a name, alone or as the one key of an object that
holds its content. -/
namespace DartTree.Json

structure RecordField (δ : Type) where
  name : String
  /-- May be left off at the end of an array. -/
  omissible : Bool
  isSet : δ → Bool
  read : Scan → δ → Read δ

def required {α : Type} (name : String) : Option α → Read α
  | some content => pure content
  | none => refuse (.missingField name)

def titleWithLength (title : String) (length : Nat) : String :=
  title ++ " with " ++ toString length ++ (if length = 1 then " element" else " elements")

namespace RecordField
variable {δ : Type}

def readMembers (fields : List (RecordField δ)) : Members → δ → Read δ
  | .closed, draft => pure draft
  | .cut defect, _ => stop defect
  | .member key value rest, draft => do
    let name ← key.read
    match fields.find? (·.name == name) with
    | none =>
      value.skip
      readMembers fields rest draft
    | some field =>
      if field.isSet draft then refuse (.duplicateField name)
      else
        let draft ← field.read value draft
        readMembers fields rest draft

/-- Reads the fields of an array that starts `position` fields into a record
with the given title and length. -/
def readItems (expected : String) (position : Nat) : List (RecordField δ) → Items → δ → Read δ
  | [], .closed, draft => pure draft
  | [], .item _ _, _ => stop .malformed
  | field :: fields, .item value rest, draft => do
    let draft ← field.read value draft
    readItems expected (position + 1) fields rest draft
  | field :: fields, .closed, draft =>
    match (field :: fields).findIdx? (!·.omissible) with
    | none => pure draft
    | some index => refuse (.invalidLength (position + index) expected)
  | _, .cut defect, _ => stop defect

def readRecord (title : String) (fields : List (RecordField δ)) (draft : δ) : Scan → Read δ
  | .object members => readMembers fields members draft
  | .array items => readItems (titleWithLength title fields.length) 0 fields items draft
  | other => other.wrongType title

end RecordField

def Members.readEnd : Members → Read Unit
  | .closed => pure ()
  | .cut defect => stop defect
  | .member _ _ _ => stop .malformed

/-- Reads a variant: `select` finds it by its name, `bare` is its meaning
without content and `content` reads what it holds. -/
def Scan.readVariant {ν α : Type} (select : String → Read ν) (bare : ν → Read α)
    (content : ν → Scan → Read α) : Scan → Read α
  | .string name => do
    let variant ← select name
    bare variant
  | .object .closed => stop .malformed
  | .object (.cut defect) => stop defect
  | .object (.member key value rest) => do
    let name ← key.read
    let variant ← select name
    let held ← content variant value
    rest.readEnd
    pure held
  | .broken flaw => stop flaw.whenNamed
  | _ => stop .malformed

def Scan.readName {α : Type} (find? : String → Option α) (known : List String) : Scan → Read α :=
  readVariant
    (fun name => match find? name with
      | some variant => pure variant
      | none => refuse (.unknownVariant name known))
    pure
    (fun variant value => do
      value.readUnit
      pure variant)

end DartTree.Json
