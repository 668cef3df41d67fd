/-! The categories of the grammar: a tree of groupings of node kinds, rooted at
the category every element belongs to. -/
namespace DartTree

inductive Category where
  | element | composite | classLike | component | scope | expression | named | operator
  | qualifiedNamed | reference
deriving DecidableEq, Repr, Inhabited

namespace Category

def all : List Category :=
  [.element,.composite,.classLike,.component,.scope,.expression,.named,.operator,
    .qualifiedNamed,.reference]

def root : Category := .element

def name : Category → String
  | .element => "Element"
  | .composite => "PsiCompositeElement"
  | .classLike => "Class"
  | .component => "Component"
  | .scope => "ExecutionScope"
  | .expression => "Expression"
  | .named => "NamedElement"
  | .operator => "Operator"
  | .qualifiedNamed => "QNamedElement"
  | .reference => "Reference"

def operation : Category → String
  | .element => "visit_element"
  | .composite => "visit_psi_composite_element"
  | .classLike => "visit_class"
  | .component => "visit_component"
  | .scope => "visit_execution_scope"
  | .expression => "visit_expression"
  | .named => "visit_named_element"
  | .operator => "visit_operator"
  | .qualifiedNamed => "visit_q_named_element"
  | .reference => "visit_reference"

def ofName? (text : String) : Option Category := all.find? (·.name == text)

def parent? : Category → Option Category
  | .element => none
  | .composite => some .element
  | .classLike | .component | .scope | .expression | .named | .operator | .qualifiedNamed
  | .reference => some .composite

def isRoot (category : Category) : Bool := category.parent?.isNone

def maxDepth : Nat := 8

/-- The category and those above it, at most `steps + 1` of them. -/
def climb (category : Category) : Nat → List Category
  | 0 => [category]
  | steps + 1 =>
    category :: match category.parent? with
      | none => []
      | some above => above.climb steps

def ancestors (category : Category) : List Category := category.climb maxDepth

def depth (category : Category) : Nat := category.ancestors.length - 1

theorem depth_parent {category above : Category} (up : category.parent? = some above) :
    above.depth < category.depth := by
  cases category <;> cases up <;> decide

theorem eq_root_of_parent {category : Category} (top : category.parent? = none) :
    category = .root := by
  cases category <;> cases top
  rfl

def isWithin (category other : Category) : Bool := category.ancestors.contains other

def index (category : Category) : Nat := category.ctorIdx

instance : LE Category := ⟨fun left right => left.index ≤ right.index⟩

instance (left right : Category) : Decidable (left ≤ right) :=
  inferInstanceAs (Decidable (left.index ≤ right.index))

end Category
end DartTree
