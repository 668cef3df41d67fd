import DartTree.Visitor.Basic

/-! Visitors that record what they see. Each override is a list of steps; the
state is the list of calls that were logged and a counter for each role. -/
namespace DartTree

inductive RecordStep where
  | log
  | count
  | ask (request : Request)
deriving DecidableEq, Repr, Inhabited

structure Recording where
  trace : Array View := #[]
  counts : List (Role × Nat) := []

namespace Recording

def log (recording : Recording) (view : View) : Recording :=
  { recording with trace := recording.trace.push view }

def countOf (recording : Recording) (role : Role) : Nat :=
  (recording.counts.lookup role).getD 0

def count (recording : Recording) (role : Role) : Recording :=
  { recording with
    counts := (role,recording.countOf role + 1) :: recording.counts.filter (·.1 ≠ role) }

def clearTrace (recording : Recording) : Recording := { recording with trace := #[] }

def script (view : View) : List RecordStep → Recording → Script Recording
  | [], recording => .done recording
  | .log :: rest, recording => script view rest (recording.log view)
  | .count :: rest, recording => script view rest (recording.count view.role)
  | .ask request :: rest, recording => .ask request recording (script view rest)

def visitor (overrides : List (Role × List RecordStep)) : Visitor Recording where
  override? role := (overrides.lookup role).map fun steps view => script view steps

end Recording
end DartTree
