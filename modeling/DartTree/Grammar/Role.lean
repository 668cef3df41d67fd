import DartTree.Grammar.Kind

/-! The roles a node can be seen in: its own kind, or a category of the
grammar. Every role has a typed view and a visitor operation, and all but the
root have one role above them. -/
namespace DartTree

inductive Role where
  | kind (own : Kind)
  | category (group : Category)
deriving DecidableEq, Repr, Inhabited

namespace Role

def root : Role := .category .root

def all : List Role := Category.all.map .category ++ Kind.all.map .kind

/-- The name of the role's view: words run together, each with a capital. -/
def name : Role → String
  | .kind own => String.join ((own.name.splitOn "_").map String.capitalize)
  | .category group => group.name

def operation : Role → String
  | .kind own => own.operation
  | .category group => group.operation

def ofName? (text : String) : Option Role := all.find? (·.name == text)

def ofOperation? (text : String) : Option Role := all.find? (·.operation == text)

def parent? : Role → Option Role
  | .kind own => some (.category own.category)
  | .category group => group.parent?.map .category

/-- How many roles stand above. -/
def height : Role → Nat
  | .kind own => own.category.depth + 1
  | .category group => group.depth

theorem height_parent {role above : Role} (up : role.parent? = some above) :
    above.height < role.height := by
  cases role with
  | kind own =>
    cases up
    exact Nat.lt_succ_self own.category.depth
  | category group =>
    obtain ⟨outer,found,rfl⟩ := Option.map_eq_some_iff.mp up
    exact Category.depth_parent found

theorem height_root {role : Role} (other : role ≠ .root) : Role.root.height < role.height := by
  cases role with
  | kind own => exact Nat.succ_pos own.category.depth
  | category group =>
    cases up : group.parent? with
    | none => exact absurd (congrArg Role.category (Category.eq_root_of_parent up)) other
    | some above => exact Nat.lt_of_le_of_lt (Nat.zero_le above.depth) (Category.depth_parent up)

def chain : Role → List Role
  | .kind own => .kind own :: own.categoryChain.map .category
  | .category group => group.ancestors.map .category

def canView : Role → Kind → Bool
  | .kind own, given => given == own
  | .category group, given => given.isA group

/-- A node of `kind` can be viewed in this role, facets counted too. -/
def admits : Role → Kind → Bool
  | .kind own, given => given == own
  | .category group, given => group.admits given

end Role
end DartTree
