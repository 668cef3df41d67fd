/-! Byte ranges of a source text. A span is any pair of offsets: an inverted
one is an ordinary value that is empty and contains no offset. -/
namespace DartTree

abbrev Offset := UInt64

/-- The bytes from `start` on, up to but without `stop`. -/
structure Span where
  start : Offset := 0
  stop : Offset := 0
deriving DecidableEq, Repr, Inhabited

namespace Span

/-- Number of bytes covered; an inverted span covers none. -/
def length (span : Span) : Offset :=
  if span.start < span.stop then span.stop - span.start else 0

def isEmpty (span : Span) : Bool := span.stop ≤ span.start

def contains (span : Span) (offset : Offset) : Bool :=
  span.start ≤ offset && offset < span.stop

def encloses (outer inner : Span) : Bool :=
  outer.start ≤ inner.start && inner.stop ≤ outer.stop

def merge (left right : Span) : Span :=
  ⟨min left.start right.start,max left.stop right.stop⟩

def describe (span : Span) : String :=
  "Span \x7b start: " ++ toString span.start ++ ", end: " ++ toString span.stop ++ " \x7d"

end Span
end DartTree
