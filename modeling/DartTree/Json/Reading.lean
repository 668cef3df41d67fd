import DartTree.Json.Document
import DartTree.Text.Quoted

/-! Reading scans as data. A reader goes through a scan in the order of the text
and stops at the first thing that is wrong: a flaw of the text, or a value that
does not have the shape it should have. -/
namespace DartTree.Json

inductive Found where
  | null
  | boolean (value : Bool)
  | integer (value : Int)
  | floating (value : Float)
  | string (text : String)
  | sequence
  | map
  | bareVariant

/-- How floating-point numbers are shown: with an exponent from `1e+16` on and
below `1e-5`. -/
def floatStyle : Decimal.Style := ⟨-4,16⟩

def Found.describe : Found → String
  | .null => "null"
  | .boolean value => "boolean `" ++ (if value then "true" else "false") ++ "`"
  | .integer value => "integer `" ++ toString value ++ "`"
  | .floating value => "floating point `" ++ Decimal.writtenFloat floatStyle value ++ "`"
  | .string text => "string " ++ Text.quote text
  | .sequence => "sequence"
  | .map => "map"
  | .bareVariant => "unit variant"

inductive Mismatch where
  | invalidType (found : Found) (expected : String)
  | invalidValue (found : Found) (expected : String)
  | invalidLength (length : Nat) (expected : String)
  | missingField (name : String)
  | duplicateField (name : String)
  | unknownVariant (name : String) (known : List String)

def alternatives (names : List String) : String :=
  let quoted := names.map fun name => "`" ++ name ++ "`"
  match quoted with
  | [only] => only
  | [first,second] => first ++ " or " ++ second
  | _ => "one of " ++ ", ".intercalate quoted

def Mismatch.message : Mismatch → String
  | .invalidType found expected => "invalid type: " ++ found.describe ++ ", expected " ++ expected
  | .invalidValue found expected =>
    "invalid value: " ++ found.describe ++ ", expected " ++ expected
  | .invalidLength length expected =>
    "invalid length " ++ toString length ++ ", expected " ++ expected
  | .missingField name => "missing field `" ++ name ++ "`"
  | .duplicateField name => "duplicate field `" ++ name ++ "`"
  | .unknownVariant name known =>
    "unknown variant `" ++ name ++ "`, expected " ++ alternatives known

inductive ReadError where
  | defect (cause : Defect)
  | mismatch (cause : Mismatch)

def ReadError.message : ReadError → String
  | .defect .malformed => "malformed text"
  | .defect .truncated => "unexpected end of text"
  | .mismatch cause => cause.message

abbrev Read := Except ReadError

def refuse {α : Type} (mismatch : Mismatch) : Read α := .error (.mismatch mismatch)

def stop {α : Type} (defect : Defect) : Read α := .error (.defect defect)

namespace Key

def read : Key → Read String
  | .name text => pure text
  | .unpaired => stop .malformed
  | .broken flaw => stop flaw.whenRead

def skip : Key → Read Unit
  | .name _ | .unpaired => pure ()
  | .broken flaw => stop flaw.whenSkipped

end Key

namespace Scan

/-- The failure of a reader that expected something else here. Of an array or
an object only the bracket is looked at. -/
def wrongType {α : Type} (expected : String) : Scan → Read α
  | .null => refuse (.invalidType .null expected)
  | .bool value => refuse (.invalidType (.boolean value) expected)
  | .number numeral =>
    match numeral.number with
    | .natural value => refuse (.invalidType (.integer value) expected)
    | .negative magnitude => refuse (.invalidType (.integer (-magnitude)) expected)
    | .floating value => refuse (.invalidType (.floating value) expected)
    | .tooLarge => stop .malformed
  | .string text => refuse (.invalidType (.string text) expected)
  | .unpaired => stop .malformed
  | .array _ => refuse (.invalidType .sequence expected)
  | .object _ => refuse (.invalidType .map expected)
  | .broken flaw => stop flaw.whenRead

def readString : Scan → Read String
  | .string text => pure text
  | other => other.wrongType "a string"

def readOffset : Scan → Read UInt64
  | .number numeral =>
    match numeral.number with
    | .natural value => pure (.ofNat value)
    | .negative magnitude => refuse (.invalidValue (.integer (-magnitude)) "usize")
    | _ => (Scan.number numeral).wrongType "usize"
  | other => other.wrongType "usize"

def readUnit : Scan → Read Unit
  | .null => pure ()
  | other => other.wrongType "unit"

def readOptional {α : Type} (reader : Scan → Read α) : Scan → Read (Option α)
  | .null => pure none
  | other => some <$> reader other

mutual

def skip : Scan → Read Unit
  | .null | .bool _ | .number _ | .string _ | .unpaired => pure ()
  | .array items => skipItems items
  | .object members => skipMembers members
  | .broken flaw => stop flaw.whenSkipped

def skipItems : Items → Read Unit
  | .closed => pure ()
  | .cut defect => stop defect
  | .item value rest => do
    value.skip
    skipItems rest

def skipMembers : Members → Read Unit
  | .closed => pure ()
  | .cut defect => stop defect
  | .member key value rest => do
    key.skip
    value.skip
    skipMembers rest

end

end Scan

def Items.readAll {α : Type} (reader : Scan → Read α) : Items → Read (List α)
  | .closed => pure []
  | .cut defect => stop defect
  | .item value rest => do
    let first ← reader value
    let others ← rest.readAll reader
    pure (first :: others)

def Scan.readList {α : Type} (reader : Scan → Read α) : Scan → Read (List α)
  | .array items => items.readAll reader
  | other => other.wrongType "a sequence"

/-- What `reader` makes of the whole text. What follows the value is looked at
last. -/
def Document.read {α : Type} (document : Document) (reader : Scan → Read α) : Read α := do
  let value ← reader document.value
  if document.trailing then stop .malformed else pure value

end DartTree.Json
