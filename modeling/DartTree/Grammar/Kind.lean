import DartTree.Grammar.Category

/-! The node kinds of the grammar: the name each is written with, the one
category it is dispatched through, and the facets, further categories it
counts as without being dispatched through them. -/
namespace DartTree

inductive Kind where
  | abstractOperatorDeclaration | additiveExpression | additiveOperator | argumentList
  | arguments | arrayAccessExpression | asExpression | assertStatement | assignExpression
  | assignmentOperator | bitwiseExpression | bitwiseOperator | block | breakStatement
  | callExpression | cascadeReferenceExpression | catchPart | classBody | classDefinition
  | compareExpression | componentName | compoundLiteralExpression | constConstructorExpression
  | continueStatement | defaultCase | defaultFactory | defaultFormalNamedParameter
  | doWhileStatement | equalityOperator | exportStatement | expressionList
  | factoryConstructorDeclaration | factorySpecification | fieldFormalParameter
  | fieldInitializer | finalVarOrType | finallyPart | forInPart | forLoopParts
  | forLoopPartsInBraces | forStatement | formalParameterList | functionBody
  | functionDeclaration | functionDeclarationWithBody | functionDeclarationWithBodyOrNative
  | functionExpression | functionExpressionBody | functionTypeAlias | getterDeclaration
  | hideCombinator | id | ifStatement | importStatement | initializers | interfaceBody
  | interfaceDefinition | interfaces | isExpression | iteratorExpression | label
  | libraryComponentReferenceExpression | libraryId | libraryReferenceList | libraryStatement
  | listLiteralExpression | literalExpression | logicAndExpression | logicOrExpression
  | longTemplateEntry | mapLiteralEntry | mapLiteralExpression | metadata | methodDeclaration
  | methodPrototypeDeclaration | mixins | multiplicativeExpression | multiplicativeOperator
  | namedArgument | namedConstructorDeclaration | namedFormalParameters | nativeStatement
  | newExpression | normalFormalParameter | onPart | operatorDeclaration | operatorPrototype
  | parenthesizedExpression | partOfStatement | pathOrLibraryReference | prefixExpression
  | prefixOperator | qualifiedComponentName | redirection | referenceExpression
  | relationalOperator | resourceStatement | returnStatement | returnType | setterDeclaration
  | shiftExpression | shiftOperator | shiftRightOperator | shortTemplateEntry | showCombinator
  | sourceStatement | statements | stringLiteralExpression | suffixExpression
  | superCallOrFieldInitializer | superExpression | superclass | superinterfaces | switchCase
  | switchStatement | ternaryExpression | thisExpression | throwStatement | tryStatement | type
  | typeArguments | typeList | typeParameter | typeParameters | userDefinableOperator
  | valueExpression | varAccessDeclaration | varDeclaration | varDeclarationList
  | varDeclarationListPart | varInit | whileStatement
deriving DecidableEq, Repr, Inhabited

namespace Kind

def all : List Kind := [
  .abstractOperatorDeclaration,.additiveExpression,.additiveOperator,.argumentList,.arguments,
  .arrayAccessExpression,.asExpression,.assertStatement,.assignExpression,.assignmentOperator,
  .bitwiseExpression,.bitwiseOperator,.block,.breakStatement,.callExpression,
  .cascadeReferenceExpression,.catchPart,.classBody,.classDefinition,.compareExpression,
  .componentName,.compoundLiteralExpression,.constConstructorExpression,.continueStatement,
  .defaultCase,.defaultFactory,.defaultFormalNamedParameter,.doWhileStatement,
  .equalityOperator,.exportStatement,.expressionList,.factoryConstructorDeclaration,
  .factorySpecification,.fieldFormalParameter,.fieldInitializer,.finalVarOrType,.finallyPart,
  .forInPart,.forLoopParts,.forLoopPartsInBraces,.forStatement,.formalParameterList,
  .functionBody,.functionDeclaration,.functionDeclarationWithBody,
  .functionDeclarationWithBodyOrNative,.functionExpression,.functionExpressionBody,
  .functionTypeAlias,.getterDeclaration,.hideCombinator,.id,.ifStatement,.importStatement,
  .initializers,.interfaceBody,.interfaceDefinition,.interfaces,.isExpression,
  .iteratorExpression,.label,.libraryComponentReferenceExpression,.libraryId,
  .libraryReferenceList,.libraryStatement,.listLiteralExpression,.literalExpression,
  .logicAndExpression,.logicOrExpression,.longTemplateEntry,.mapLiteralEntry,
  .mapLiteralExpression,.metadata,.methodDeclaration,.methodPrototypeDeclaration,.mixins,
  .multiplicativeExpression,.multiplicativeOperator,.namedArgument,
  .namedConstructorDeclaration,.namedFormalParameters,.nativeStatement,.newExpression,
  .normalFormalParameter,.onPart,.operatorDeclaration,.operatorPrototype,
  .parenthesizedExpression,.partOfStatement,.pathOrLibraryReference,.prefixExpression,
  .prefixOperator,.qualifiedComponentName,.redirection,.referenceExpression,
  .relationalOperator,.resourceStatement,.returnStatement,.returnType,.setterDeclaration,
  .shiftExpression,.shiftOperator,.shiftRightOperator,.shortTemplateEntry,.showCombinator,
  .sourceStatement,.statements,.stringLiteralExpression,.suffixExpression,
  .superCallOrFieldInitializer,.superExpression,.superclass,.superinterfaces,.switchCase,
  .switchStatement,.ternaryExpression,.thisExpression,.throwStatement,.tryStatement,.type,
  .typeArguments,.typeList,.typeParameter,.typeParameters,.userDefinableOperator,
  .valueExpression,.varAccessDeclaration,.varDeclaration,.varDeclarationList,
  .varDeclarationListPart,.varInit,.whileStatement]

structure Entry where
  name : String
  category : Category
  facets : List Category := []

def entry : Kind → Entry
  | .abstractOperatorDeclaration => ⟨"abstract_operator_declaration",.operator,[]⟩
  | .additiveExpression => ⟨"additive_expression",.expression,[.reference]⟩
  | .additiveOperator => ⟨"additive_operator",.composite,[]⟩
  | .argumentList => ⟨"argument_list",.composite,[]⟩
  | .arguments => ⟨"arguments",.composite,[]⟩
  | .arrayAccessExpression => ⟨"array_access_expression",.expression,[.reference]⟩
  | .asExpression => ⟨"as_expression",.expression,[.reference]⟩
  | .assertStatement => ⟨"assert_statement",.composite,[]⟩
  | .assignExpression => ⟨"assign_expression",.expression,[]⟩
  | .assignmentOperator => ⟨"assignment_operator",.composite,[]⟩
  | .bitwiseExpression => ⟨"bitwise_expression",.expression,[.reference]⟩
  | .bitwiseOperator => ⟨"bitwise_operator",.composite,[]⟩
  | .block => ⟨"block",.composite,[]⟩
  | .breakStatement => ⟨"break_statement",.composite,[]⟩
  | .callExpression => ⟨"call_expression",.expression,[.reference]⟩
  | .cascadeReferenceExpression => ⟨"cascade_reference_expression",.expression,[.reference]⟩
  | .catchPart => ⟨"catch_part",.composite,[]⟩
  | .classBody => ⟨"class_body",.scope,[]⟩
  | .classDefinition => ⟨"class_definition",.classLike,[]⟩
  | .compareExpression => ⟨"compare_expression",.expression,[.reference]⟩
  | .componentName => ⟨"component_name",.named,[]⟩
  | .compoundLiteralExpression => ⟨"compound_literal_expression",.expression,[.reference]⟩
  | .constConstructorExpression => ⟨"const_constructor_expression",.expression,[.reference]⟩
  | .continueStatement => ⟨"continue_statement",.composite,[]⟩
  | .defaultCase => ⟨"default_case",.composite,[]⟩
  | .defaultFactory => ⟨"default_factory",.composite,[]⟩
  | .defaultFormalNamedParameter => ⟨"default_formal_named_parameter",.composite,[]⟩
  | .doWhileStatement => ⟨"do_while_statement",.composite,[]⟩
  | .equalityOperator => ⟨"equality_operator",.composite,[]⟩
  | .exportStatement => ⟨"export_statement",.composite,[]⟩
  | .expressionList => ⟨"expression_list",.composite,[]⟩
  | .factoryConstructorDeclaration => ⟨"factory_constructor_declaration",.component,[]⟩
  | .factorySpecification => ⟨"factory_specification",.composite,[]⟩
  | .fieldFormalParameter => ⟨"field_formal_parameter",.composite,[]⟩
  | .fieldInitializer => ⟨"field_initializer",.composite,[]⟩
  | .finalVarOrType => ⟨"final_var_or_type",.composite,[]⟩
  | .finallyPart => ⟨"finally_part",.composite,[]⟩
  | .forInPart => ⟨"for_in_part",.composite,[]⟩
  | .forLoopParts => ⟨"for_loop_parts",.composite,[]⟩
  | .forLoopPartsInBraces => ⟨"for_loop_parts_in_braces",.composite,[]⟩
  | .forStatement => ⟨"for_statement",.composite,[]⟩
  | .formalParameterList => ⟨"formal_parameter_list",.composite,[]⟩
  | .functionBody => ⟨"function_body",.composite,[]⟩
  | .functionDeclaration => ⟨"function_declaration",.component,[]⟩
  | .functionDeclarationWithBody => ⟨"function_declaration_with_body",.component,[]⟩
  | .functionDeclarationWithBodyOrNative =>
    ⟨"function_declaration_with_body_or_native",.component,[]⟩
  | .functionExpression => ⟨"function_expression",.expression,[.component]⟩
  | .functionExpressionBody => ⟨"function_expression_body",.composite,[]⟩
  | .functionTypeAlias => ⟨"function_type_alias",.component,[]⟩
  | .getterDeclaration => ⟨"getter_declaration",.component,[]⟩
  | .hideCombinator => ⟨"hide_combinator",.composite,[]⟩
  | .id => ⟨"id",.composite,[]⟩
  | .ifStatement => ⟨"if_statement",.composite,[]⟩
  | .importStatement => ⟨"import_statement",.composite,[]⟩
  | .initializers => ⟨"initializers",.composite,[]⟩
  | .interfaceBody => ⟨"interface_body",.scope,[]⟩
  | .interfaceDefinition => ⟨"interface_definition",.classLike,[]⟩
  | .interfaces => ⟨"interfaces",.composite,[]⟩
  | .isExpression => ⟨"is_expression",.expression,[]⟩
  | .iteratorExpression => ⟨"iterator_expression",.expression,[]⟩
  | .label => ⟨"label",.component,[]⟩
  | .libraryComponentReferenceExpression =>
    ⟨"library_component_reference_expression",.expression,[.reference]⟩
  | .libraryId => ⟨"library_id",.reference,[]⟩
  | .libraryReferenceList => ⟨"library_reference_list",.composite,[]⟩
  | .libraryStatement => ⟨"library_statement",.composite,[]⟩
  | .listLiteralExpression => ⟨"list_literal_expression",.expression,[.reference]⟩
  | .literalExpression => ⟨"literal_expression",.expression,[.reference]⟩
  | .logicAndExpression => ⟨"logic_and_expression",.expression,[.reference]⟩
  | .logicOrExpression => ⟨"logic_or_expression",.expression,[.reference]⟩
  | .longTemplateEntry => ⟨"long_template_entry",.composite,[]⟩
  | .mapLiteralEntry => ⟨"map_literal_entry",.composite,[]⟩
  | .mapLiteralExpression => ⟨"map_literal_expression",.expression,[.reference]⟩
  | .metadata => ⟨"metadata",.composite,[]⟩
  | .methodDeclaration => ⟨"method_declaration",.component,[]⟩
  | .methodPrototypeDeclaration => ⟨"method_prototype_declaration",.component,[]⟩
  | .mixins => ⟨"mixins",.composite,[]⟩
  | .multiplicativeExpression => ⟨"multiplicative_expression",.expression,[.reference]⟩
  | .multiplicativeOperator => ⟨"multiplicative_operator",.composite,[]⟩
  | .namedArgument => ⟨"named_argument",.composite,[]⟩
  | .namedConstructorDeclaration => ⟨"named_constructor_declaration",.component,[]⟩
  | .namedFormalParameters => ⟨"named_formal_parameters",.composite,[]⟩
  | .nativeStatement => ⟨"native_statement",.composite,[]⟩
  | .newExpression => ⟨"new_expression",.expression,[.reference]⟩
  | .normalFormalParameter => ⟨"normal_formal_parameter",.composite,[]⟩
  | .onPart => ⟨"on_part",.composite,[]⟩
  | .operatorDeclaration => ⟨"operator_declaration",.operator,[]⟩
  | .operatorPrototype => ⟨"operator_prototype",.operator,[]⟩
  | .parenthesizedExpression => ⟨"parenthesized_expression",.expression,[.reference]⟩
  | .partOfStatement => ⟨"part_of_statement",.composite,[]⟩
  | .pathOrLibraryReference => ⟨"path_or_library_reference",.reference,[]⟩
  | .prefixExpression => ⟨"prefix_expression",.expression,[.reference]⟩
  | .prefixOperator => ⟨"prefix_operator",.composite,[]⟩
  | .qualifiedComponentName => ⟨"qualified_component_name",.qualifiedNamed,[]⟩
  | .redirection => ⟨"redirection",.composite,[]⟩
  | .referenceExpression => ⟨"reference_expression",.expression,[.reference]⟩
  | .relationalOperator => ⟨"relational_operator",.composite,[]⟩
  | .resourceStatement => ⟨"resource_statement",.composite,[]⟩
  | .returnStatement => ⟨"return_statement",.composite,[]⟩
  | .returnType => ⟨"return_type",.composite,[]⟩
  | .setterDeclaration => ⟨"setter_declaration",.component,[]⟩
  | .shiftExpression => ⟨"shift_expression",.expression,[.reference]⟩
  | .shiftOperator => ⟨"shift_operator",.composite,[]⟩
  | .shiftRightOperator => ⟨"shift_right_operator",.composite,[]⟩
  | .shortTemplateEntry => ⟨"short_template_entry",.composite,[]⟩
  | .showCombinator => ⟨"show_combinator",.composite,[]⟩
  | .sourceStatement => ⟨"source_statement",.composite,[]⟩
  | .statements => ⟨"statements",.scope,[]⟩
  | .stringLiteralExpression => ⟨"string_literal_expression",.expression,[.reference]⟩
  | .suffixExpression => ⟨"suffix_expression",.expression,[.reference]⟩
  | .superCallOrFieldInitializer => ⟨"super_call_or_field_initializer",.composite,[]⟩
  | .superExpression => ⟨"super_expression",.expression,[.reference]⟩
  | .superclass => ⟨"superclass",.composite,[]⟩
  | .superinterfaces => ⟨"superinterfaces",.composite,[]⟩
  | .switchCase => ⟨"switch_case",.composite,[]⟩
  | .switchStatement => ⟨"switch_statement",.composite,[]⟩
  | .ternaryExpression => ⟨"ternary_expression",.expression,[]⟩
  | .thisExpression => ⟨"this_expression",.expression,[.reference]⟩
  | .throwStatement => ⟨"throw_statement",.composite,[]⟩
  | .tryStatement => ⟨"try_statement",.composite,[]⟩
  | .type => ⟨"type",.composite,[]⟩
  | .typeArguments => ⟨"type_arguments",.composite,[]⟩
  | .typeList => ⟨"type_list",.composite,[]⟩
  | .typeParameter => ⟨"type_parameter",.component,[]⟩
  | .typeParameters => ⟨"type_parameters",.composite,[]⟩
  | .userDefinableOperator => ⟨"user_definable_operator",.composite,[]⟩
  | .valueExpression => ⟨"value_expression",.expression,[]⟩
  | .varAccessDeclaration => ⟨"var_access_declaration",.component,[]⟩
  | .varDeclaration => ⟨"var_declaration",.composite,[]⟩
  | .varDeclarationList => ⟨"var_declaration_list",.composite,[]⟩
  | .varDeclarationListPart => ⟨"var_declaration_list_part",.component,[]⟩
  | .varInit => ⟨"var_init",.composite,[]⟩
  | .whileStatement => ⟨"while_statement",.composite,[]⟩

def name (kind : Kind) : String := kind.entry.name

def operation (kind : Kind) : String := "visit_" ++ kind.name

def category (kind : Kind) : Category := kind.entry.category

/-- Categories the kind also counts as; they take no part in dispatch. -/
def facets (kind : Kind) : List Category := kind.entry.facets

def index (kind : Kind) : Nat := kind.ctorIdx

instance : LE Kind := ⟨fun left right => left.index ≤ right.index⟩

instance (left right : Kind) : Decidable (left ≤ right) :=
  inferInstanceAs (Decidable (left.index ≤ right.index))

def ofName? (text : String) : Option Kind := all.find? (·.name == text)

structure Unknown where
  text : String
deriving DecidableEq, Repr, Inhabited

def Unknown.message (unknown : Unknown) : String := "unknown node kind `" ++ unknown.text ++ "`"

def ofName (text : String) : Except Unknown Kind :=
  match ofName? text with
  | some kind => .ok kind
  | none => .error ⟨text⟩

def categoryChain (kind : Kind) : List Category := kind.category.ancestors

/-- Dispatch of the kind passes through `category`. -/
def isA (kind : Kind) (category : Category) : Bool := kind.category.isWithin category

def hasFacet (kind : Kind) (category : Category) : Bool := kind.facets.contains category

end Kind

namespace Category

def admits (category : Category) (kind : Kind) : Bool :=
  kind.isA category || kind.hasFacet category

def directKinds (category : Category) : List Kind :=
  Kind.all.filter (·.category = category)

end Category

namespace Kind

def isReferenceLike (kind : Kind) : Bool := Category.reference.admits kind

def isComponentLike (kind : Kind) : Bool := Category.component.admits kind

end Kind
end DartTree
