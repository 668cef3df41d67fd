import DartTree.Json.Reading
import DartTree.SyntaxError

/-! Why no tree comes of an import. -/
namespace DartTree

inductive ImportError where
  | unknownKind (type : String) (start : Offset)
  | invalidSpan (start stop : Offset)
  | childOutOfBounds (child parent : Span)
  | tooDeep (limit : Nat)
  | syntaxErrors (errors : List SyntaxError)
  | unreadable (error : Json.ReadError)

def ImportError.message : ImportError → String
  | .unknownKind type start => "unknown node type `" ++ type ++ "` at byte " ++ toString start
  | .invalidSpan start stop => "invalid span " ++ toString start ++ ".." ++ toString stop
  | .childOutOfBounds child parent =>
    "child " ++ child.describe ++ " lies outside parent " ++ parent.describe
  | .tooDeep limit => "tree nesting exceeds " ++ toString limit ++ " levels"
  | .syntaxErrors errors => toString errors.length ++ " syntax error(s) in tree"
  | .unreadable error => "malformed serialized tree: " ++ error.message

end DartTree
