import DartTree.Interchange.Build
import DartTree.Interchange.Json

/-! Files in and out of the interchange format's text. -/
namespace DartTree
open Json

namespace RawNode

mutual

def ofNode : Node → RawNode
  | ⟨kind,span,text,children⟩ => ⟨kind.name,text,span.start,span.stop,ofNodes children⟩

def ofNodes : List Node → List RawNode
  | [] => []
  | node :: rest => ofNode node :: ofNodes rest

end

end RawNode

/-- A file in the interchange format. Syntax errors are not part of it. -/
def RawFile.ofFile (file : File) : RawFile where
  name := file.name
  sourceLength := some file.sourceLength
  roots := RawNode.ofNodes file.roots

namespace File

/-- The file that a text in the interchange format describes. The text is read
to its end before anything is built. -/
def ofText (limits : Limits) (text : String) : Except ImportError File :=
  match (Document.ofText text).read RawFile.ofJson with
  | .error error => .error (.unreadable error)
  | .ok raw => raw.toFile limits

def toText (file : File) : String := (RawFile.ofFile file).toJson.render

end File
end DartTree
