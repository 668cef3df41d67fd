/-! Limits on what is imported. -/
namespace DartTree

/-- Bounds that hold for one import. Only the nesting bound shows in results;
the other two size the stack of whoever runs the import. -/
structure Limits where
  /-- The deepest level accepted, roots being at level 1. Levels are counted
  without end. In machine words they would run over only where this is the largest
  word and a build starts so deep that a level below it has no word; such starts
  are left out. -/
  maxTreeDepth : Nat
  stackRedZone : Nat
  stackSize : Nat
deriving DecidableEq, Repr, Inhabited

inductive LimitsError where
  | zeroTreeDepth
  | redZoneTooLarge (redZone stackSize : Nat)
deriving DecidableEq, Repr, Inhabited

def LimitsError.message : LimitsError → String
  | .zeroTreeDepth => "max_tree_depth must be positive"
  | .redZoneTooLarge redZone stackSize =>
    "stack red zone (" ++ toString redZone ++ ") must be smaller than the stack size ("
      ++ toString stackSize ++ ")"

namespace Limits

def defaultTreeDepth : Nat := 4096

def defaultRedZone : Nat := 64 * 1024

def defaultStackSize : Nat := 2 * 1024 * 1024

def standard : Limits := ⟨defaultTreeDepth,defaultRedZone,defaultStackSize⟩

/-- Limits from their values: the depth is positive and the red zone leaves
room in the stack. -/
def make (maxTreeDepth stackRedZone stackSize : Nat) : Except LimitsError Limits :=
  if maxTreeDepth = 0 then .error .zeroTreeDepth
  else if stackSize ≤ stackRedZone then .error (.redZoneTooLarge stackRedZone stackSize)
  else .ok ⟨maxTreeDepth,stackRedZone,stackSize⟩

def withMaxTreeDepth (limits : Limits) (maxTreeDepth : Nat) : Except LimitsError Limits :=
  make maxTreeDepth limits.stackRedZone limits.stackSize

end Limits
end DartTree
