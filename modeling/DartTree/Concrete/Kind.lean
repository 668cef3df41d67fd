import DartTree.Grammar.Kind

/-! The node types of the concrete tree that have a kind of their own. -/
namespace DartTree

namespace ConcreteKind

def table : List (String × Kind) := [
  -- Directives
  ("library_name",.libraryStatement),
  ("library_import",.importStatement),
  ("library_export",.exportStatement),
  ("part_directive",.sourceStatement),
  ("part_of_directive",.partOfStatement),
  ("uri",.pathOrLibraryReference),
  ("configurable_uri",.pathOrLibraryReference),
  ("dotted_identifier_list",.libraryId),
  ("annotation",.metadata),
  -- Classes
  ("class_definition",.classDefinition),
  ("class_body",.classBody),
  ("superclass",.superclass),
  ("interfaces",.interfaces),
  ("mixins",.mixins),
  ("type_alias",.functionTypeAlias),
  -- Members and functions
  ("function_signature",.functionDeclarationWithBodyOrNative),
  ("method_signature",.methodDeclaration),
  ("getter_signature",.getterDeclaration),
  ("setter_signature",.setterDeclaration),
  ("operator_signature",.operatorDeclaration),
  ("constructor_signature",.namedConstructorDeclaration),
  ("constant_constructor_signature",.namedConstructorDeclaration),
  ("factory_constructor_signature",.factoryConstructorDeclaration),
  ("redirecting_factory_constructor_signature",.factoryConstructorDeclaration),
  ("function_body",.functionBody),
  ("function_expression_body",.functionExpressionBody),
  ("formal_parameter_list",.formalParameterList),
  ("formal_parameter",.normalFormalParameter),
  ("optional_formal_parameters",.namedFormalParameters),
  ("initializers",.initializers),
  ("field_initializer",.fieldInitializer),
  -- Types
  ("type_identifier",.type),
  ("void_type",.type),
  ("function_type",.type),
  ("type_arguments",.typeArguments),
  ("type_parameters",.typeParameters),
  ("type_parameter",.typeParameter),
  -- Variables
  ("local_variable_declaration",.varDeclarationList),
  ("initialized_variable_definition",.varDeclarationList),
  ("initialized_identifier",.varDeclarationListPart),
  ("static_final_declaration",.varDeclarationListPart),
  -- Statements
  ("block",.block),
  ("if_statement",.ifStatement),
  ("for_statement",.forStatement),
  ("for_loop_parts",.forLoopParts),
  ("while_statement",.whileStatement),
  ("do_statement",.doWhileStatement),
  ("switch_statement",.switchStatement),
  ("switch_statement_case",.switchCase),
  ("switch_statement_default",.defaultCase),
  ("try_statement",.tryStatement),
  ("catch_clause",.catchPart),
  ("finally_clause",.finallyPart),
  ("return_statement",.returnStatement),
  ("break_statement",.breakStatement),
  ("continue_statement",.continueStatement),
  ("assert_statement",.assertStatement),
  ("throw_expression",.throwStatement),
  ("label",.label),
  -- Expressions
  ("assignment_expression",.assignExpression),
  ("conditional_expression",.ternaryExpression),
  ("logical_or_expression",.logicOrExpression),
  ("logical_and_expression",.logicAndExpression),
  ("equality_expression",.compareExpression),
  ("relational_expression",.compareExpression),
  ("bitwise_or_expression",.bitwiseExpression),
  ("bitwise_xor_expression",.bitwiseExpression),
  ("bitwise_and_expression",.bitwiseExpression),
  ("shift_expression",.shiftExpression),
  ("additive_expression",.additiveExpression),
  ("multiplicative_expression",.multiplicativeExpression),
  ("unary_expression",.prefixExpression),
  ("postfix_expression",.suffixExpression),
  ("parenthesized_expression",.parenthesizedExpression),
  ("new_expression",.newExpression),
  ("const_object_expression",.constConstructorExpression),
  ("lambda_expression",.functionExpression),
  ("type_cast_expression",.asExpression),
  ("type_test_expression",.isExpression),
  ("cascade_section",.cascadeReferenceExpression),
  ("this",.thisExpression),
  ("super",.superExpression),
  ("arguments",.arguments),
  ("named_argument",.namedArgument),
  -- Literals
  ("list_literal",.listLiteralExpression),
  ("set_or_map_literal",.mapLiteralExpression),
  ("pair",.mapLiteralEntry),
  ("string_literal",.stringLiteralExpression),
  ("template_substitution",.longTemplateEntry),
  ("decimal_integer_literal",.literalExpression),
  ("hex_integer_literal",.literalExpression),
  ("decimal_floating_point_literal",.literalExpression),
  ("true",.literalExpression),
  ("false",.literalExpression),
  ("null_literal",.literalExpression),
  -- Operators
  ("additive_operator",.additiveOperator),
  ("multiplicative_operator",.multiplicativeOperator),
  ("relational_operator",.relationalOperator),
  ("equality_operator",.equalityOperator),
  ("shift_operator",.shiftOperator),
  ("prefix_operator",.prefixOperator)]

def ofType? (type : String) : Option Kind := table.lookup type

end ConcreteKind
end DartTree
