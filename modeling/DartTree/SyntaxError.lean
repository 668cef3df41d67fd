import DartTree.Span

/-! Syntax errors found while a source was parsed. They are data of a file, and
no failure of the library. -/
namespace DartTree

inductive Complaint where
  /-- A region that fits nowhere in the grammar, with its text when known. -/
  | unexpected (text : Option String)
  | missing (expected : String)
deriving DecidableEq, Repr, Inhabited

def Complaint.message : Complaint → String
  | .unexpected (some text) => "unexpected `" ++ text ++ "`"
  | .unexpected none => "unexpected input"
  | .missing expected => "missing `" ++ expected ++ "`"

structure SyntaxError where
  complaint : Complaint
  span : Span
deriving DecidableEq, Repr, Inhabited

namespace SyntaxError

def unexpected (text : Option String) (span : Span) : SyntaxError := ⟨.unexpected text,span⟩

def missing (expected : String) (span : Span) : SyntaxError := ⟨.missing expected,span⟩

def message (error : SyntaxError) : String :=
  error.complaint.message ++ " at byte " ++ toString error.span.start

end SyntaxError
end DartTree
