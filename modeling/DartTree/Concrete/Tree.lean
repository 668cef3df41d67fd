import DartTree.Span

/-! The concrete tree that a grammar's parser makes of a source: every token is
a node, and nodes may carry the name of a field of their parent. -/
namespace DartTree

structure Source where
  text : String
  bounded : text.utf8ByteSize < UInt64.size

namespace Source

def ofText? (text : String) : Option Source :=
  if bounded : text.utf8ByteSize < UInt64.size then some ⟨text,bounded⟩ else none

def length (source : Source) : Offset := .ofNat source.text.utf8ByteSize

/-- The text of a span, if both its ends lie between characters of the source
and it is not inverted. -/
def slice? (source : Source) (span : Span) : Option String :=
  let start : String.Pos.Raw := ⟨span.start.toNat⟩
  let stop : String.Pos.Raw := ⟨span.stop.toNat⟩
  if span.start ≤ span.stop && start.isValid source.text && stop.isValid source.text then
    some (String.Pos.Raw.extract source.text start stop)
  else none

end Source

structure ConcreteNode where
  type : String
  field : Option String := none
  span : Span
  /-- A node of its own, and not a mere token. -/
  named : Bool := false
  /-- Allowed anywhere, such as a comment. -/
  extra : Bool := false
  missing : Bool := false
  error : Bool := false
  children : List ConcreteNode := []
deriving Inhabited

end DartTree
