import DartTree.Json.Numeral

/-! JSON text as far as it is well formed. A scan is the tree of a text up to
the first place where no reader can go on; that place is part of the tree, so
that whoever reads the tree in order meets it where the text has it. -/
namespace DartTree.Json

inductive Defect where
  | malformed
  | truncated
deriving DecidableEq, Repr, Inhabited

inductive Flaw where
  /-- The end of the text. -/
  | absent
  | junk
  | cutLiteral
  | cutNumber
  /-- A string that breaks off. `paired` tells whether surrogate escapes before
  that place came in pairs. -/
  | badString (paired : Bool) (defect : Defect)
deriving DecidableEq, Repr, Inhabited

inductive Key where
  | name (text : String)
  | unpaired
  | broken (flaw : Flaw)
deriving DecidableEq, Repr, Inhabited

mutual

inductive Scan where
  | null
  | bool (value : Bool)
  | number (numeral : Numeral)
  | string (text : String)
  /-- A string with a surrogate escape that has no other half: no text, but
  nothing that stops a reader who passes over it. -/
  | unpaired
  | array (items : Items)
  | object (members : Members)
  | broken (flaw : Flaw)

/-- The items of an array, to its end or to where it is cut off. A comma is
always followed by an item, if only a broken one. -/
inductive Items where
  | closed
  | cut (defect : Defect)
  | item (value : Scan) (rest : Items)

inductive Members where
  | closed
  | cut (defect : Defect)
  | member (key : Key) (value : Scan) (rest : Members)

end

instance : Inhabited Scan := ⟨.null⟩

def Items.prepend (before : List Scan) (rest : Items) : Items :=
  before.foldl (fun rest value => .item value rest) rest

def Members.prepend (before : List (Key × Scan)) (rest : Members) : Members :=
  before.foldl (fun rest member => .member member.1 member.2 rest) rest

namespace Flaw

def whenRead : Flaw → Defect
  | .absent | .cutLiteral | .cutNumber => .truncated
  | .junk => .malformed
  | .badString paired defect => if paired then defect else .malformed

def whenSkipped : Flaw → Defect
  | .absent | .cutLiteral => .truncated
  | .junk | .cutNumber => .malformed
  | .badString _ defect => defect

/-- What is reported where only a string or an object will do: anything else is
refused at its first character. -/
def whenNamed : Flaw → Defect
  | .absent => .truncated
  | .junk | .cutLiteral | .cutNumber => .malformed
  | .badString paired defect => if paired then defect else .malformed

end Flaw
end DartTree.Json
