import SourceOutline.Java.Lexicon
import SourceOutline.Syntax.Repair

/-!
# The grammar of Java

Java up to records, sealed types, pattern switches and text blocks. Declarations have their full
tree; operators of an expression are nested to the left, whatever their rank, and strings are
leaves, since an outline does not look at them.
-/

namespace SourceOutline.Java

open Syntax Syntax.Gram

/-- The rules of the grammar. -/
inductive Rule where
  | program | declaration | modifiers | note | elementValue | dottedName
  | type | plainType | simpleType | typeArguments | dimensions | typeParameters | typeList
  | classBody | classMember | interfaceBody | noteBody | enumBody
  | formalParameters | declarators | initializer
  | block | statement | localVariable | switchBlock | switchLabel | pattern | recordPattern
  | expression | operand | plainExpression | plainOperand | primary | arguments
  | lambdaParameters
  deriving DecidableEq, Repr

/-- An expression over the rules of Java. -/
abbrev Syn := Gram Rule

namespace Syn

/-! ## Leaves -/

/-- A name in a place where other words have a meaning. -/
def name : Syn := lexeme "identifier" scanName

/-- A name in a place where nothing but a name can stand. -/
def anyName : Syn := lexeme "identifier" scanWord

/-- The name of a type. -/
def typeName : Syn := lexeme "type_identifier" scanName

/-- A leaf that is one of some words. -/
def leafOf (kind : String) (ws : List String) : Syn :=
  node kind (words ws)

/-- A leaf that is one of some words, the word not being a child of its own. -/
def bareLeaf (kind w : String) : Syn :=
  lexeme kind fun cs => (scanWord cs).filter fun n => String.ofList (cs.take n) = w

/-- Annotations, any number of them. -/
def notes : Syn := many (rule .note)

/-- Modifiers, if there are any. -/
def modifiers : Syn := maybe (rule .modifiers)

/-! ## Types -/

/-- A type under the field name that declarations use. -/
def typed : Syn := field "type" (rule .plainType)

/-- Bracket pairs after a name. -/
def dims : Syn := maybe (field "dimensions" (rule .dimensions))

/-- The bounds of a type parameter. -/
def bound : Syn :=
  node "type_bound" (all [word "extends", sepBy (sign "&") (rule .type)])

/-- A wildcard with or without a bound. -/
def wildcard : Syn :=
  node "wildcard" (all [notes, sign "?", maybe (all [first [word "extends", node "super" (word "super")],
    rule .type])])

/-! ## Declarations -/

/-- The type parameters of a declaration. -/
def parametrized : Syn := maybe (field "type_parameters" (rule .typeParameters))

/-- The interfaces of a class. -/
def implementing : Syn :=
  maybe (field "interfaces" (node "super_interfaces" (all [word "implements", rule .typeList])))

/-- The permitted subtypes. -/
def permitting : Syn :=
  maybe (field "permits" (node "permits" (all [word "permits", rule .typeList])))

/-- A class. -/
def classDeclaration : Syn :=
  node "class_declaration" (all [modifiers, word "class", field "name" anyName, parametrized,
    maybe (field "superclass" (node "superclass" (all [word "extends", rule .type]))),
    implementing, permitting, field "body" (rule .classBody)])

/-- A record. -/
def recordDeclaration : Syn :=
  node "record_declaration" (all [modifiers, word "record", field "name" anyName, parametrized,
    field "parameters" (rule .formalParameters), implementing, field "body" (rule .classBody)])

/-- An interface. -/
def interfaceDeclaration : Syn :=
  node "interface_declaration" (all [modifiers, word "interface", field "name" anyName,
    parametrized, maybe (node "extends_interfaces" (all [word "extends", rule .typeList])),
    permitting, field "body" (rule .interfaceBody)])

/-- An enum. -/
def enumDeclaration : Syn :=
  node "enum_declaration" (all [modifiers, word "enum", field "name" anyName, implementing,
    field "body" (rule .enumBody)])

/-- An annotation type. -/
def noteDeclaration : Syn :=
  node "annotation_type_declaration" (all [modifiers, sign "@interface", field "name" anyName,
    field "body" (rule .noteBody)])

/-- The declarations of types that may stand anywhere. -/
def typeDeclarations : List Syn :=
  [classDeclaration, recordDeclaration, interfaceDeclaration, enumDeclaration, noteDeclaration]

/-- What a method may throw. -/
def throwing : Syn :=
  maybe (node "throws" (all [word "throws", sepBy (sign ",") (rule .type)]))

/-- A method. -/
def methodDeclaration : Syn :=
  node "method_declaration" (all [modifiers,
    maybe (all [field "type_parameters" (rule .typeParameters), notes]), typed,
    field "name" anyName, field "parameters" (rule .formalParameters), dims, throwing,
    first [field "body" (rule .block), sign ";"]])

/-- A constructor hands over to another one. -/
def otherConstructor : Syn :=
  node "explicit_constructor_invocation" (all [maybe (field "type_arguments" (rule .typeArguments)),
    field "constructor" (first [bareLeaf "this" "this", bareLeaf "super" "super"]),
    field "arguments" (rule .arguments), sign ";"])

/-- A constructor. -/
def constructorDeclaration : Syn :=
  node "constructor_declaration" (all [modifiers, parametrized, field "name" name,
    field "parameters" (rule .formalParameters), throwing,
    field "body" (node "constructor_body" (braces (all [maybe otherConstructor,
      items (rule .statement)])))])

/-- The short constructor of a record. -/
def compactConstructor : Syn :=
  node "compact_constructor_declaration" (all [modifiers, field "name" name,
    field "body" (rule .block)])

/-- Variables of one type: fields of a class or constants of an interface. -/
def variableList (kind : String) : Syn :=
  node kind (all [modifiers, typed, rule .declarators, sign ";"])

/-- A declared name with its bracket pairs. -/
def declared : Syn := all [field "name" anyName, dims]

/-- A declared name with its first value. -/
def declarator : Syn :=
  node "variable_declarator" (all [declared,
    maybe (all [sign "=", field "value" (rule .initializer)])])

/-- A constant of an enum. -/
def enumConstant : Syn :=
  node "enum_constant" (all [modifiers, field "name" name,
    maybe (field "arguments" (rule .arguments)), maybe (field "body" (rule .classBody))])

/-- An element of an annotation type. -/
def element : Syn :=
  node "annotation_type_element_declaration" (all [modifiers, typed, field "name" anyName,
    sign "(", sign ")", dims,
    maybe (all [word "default", field "value" (rule .elementValue)]), sign ";"])

/-- A package. -/
def packageDeclaration : Syn :=
  node "package_declaration" (all [notes, word "package", rule .dottedName, sign ";"])

/-- An import. -/
def importDeclaration : Syn :=
  node "import_declaration" (all [word "import", maybe (word "static"), rule .dottedName,
    maybe (all [sign ".", node "asterisk" (sign "*")]), sign ";"])

/-- A directive of a module. -/
def moduleDirective : Syn :=
  let names := sepBy (sign ",") (rule .dottedName)
  first [
    node "requires_module_directive" (all [word "requires",
      many (node "requires_modifier" (words ["transitive", "static"])),
      field "module" (rule .dottedName), sign ";"]),
    node "exports_module_directive" (all [word "exports", field "package" (rule .dottedName),
      maybe (all [word "to", names]), sign ";"]),
    node "opens_module_directive" (all [word "opens", field "package" (rule .dottedName),
      maybe (all [word "to", names]), sign ";"]),
    node "uses_module_directive" (all [word "uses", field "type" (rule .dottedName), sign ";"]),
    node "provides_module_directive" (all [word "provides", field "provided" (rule .dottedName),
      word "with", names, sign ";"])]

/-- A module. -/
def moduleDeclaration : Syn :=
  node "module_declaration" (all [notes, maybe (word "open"), word "module",
    field "name" (rule .dottedName),
    field "body" (node "module_body" (braces (items moduleDirective)))])

/-! ## Parameters -/

/-- A parameter. -/
def formalParameter : Syn :=
  node "formal_parameter" (all [modifiers, typed, declared])

/-- A parameter for any number of arguments. -/
def spreadParameter : Syn :=
  node "spread_parameter" (all [modifiers, rule .plainType, sign "...", notes, declarator])

/-- The object itself, written as a parameter. -/
def receiverParameter : Syn :=
  node "receiver_parameter" (all [notes, rule .plainType, many (all [name, sign "."]),
    bareLeaf "this" "this"])

/-! ## Statements -/

/-- A condition in its brackets. -/
def condition : Syn :=
  node "parenthesized_expression" (round (rule .expression))

/-- What initialises and updates a loop. -/
def loopHead : Syn :=
  all [first [field "init" (rule .localVariable),
      all [commaSep (field "init" (rule .expression)), sign ";"]],
    maybe (field "condition" (rule .expression)), sign ";",
    commaSep (field "update" (rule .expression))]

/-- The head of a loop over elements. -/
def elementHead : Syn :=
  all [modifiers, typed, declared, sign ":", field "value" (rule .expression)]

/-- A clause that handles exceptions. -/
def catchClause : Syn :=
  node "catch_clause" (all [word "catch", round (node "catch_formal_parameter" (all [modifiers,
    node "catch_type" (sepBy (sign "|") (rule .plainType)), declared])),
    field "body" (rule .block)])

/-- A clause that is always carried out. -/
def finallyClause : Syn :=
  node "finally_clause" (all [word "finally", rule .block])

/-- A resource that a statement closes. -/
def resource : Syn :=
  node "resource" (first [
    all [modifiers, typed, declared, sign "=", field "value" (rule .expression)],
    rule .primary])

/-- The resources of a statement. -/
def resources : Syn :=
  node "resource_specification" (round (all [sepBy (sign ";") resource, maybe (sign ";")]))

/-- Statements that begin with a word of their own. -/
def keywordStatements : List Syn :=
  [node "if_statement" (all [word "if", field "condition" condition,
      field "consequence" (rule .statement),
      maybe (all [word "else", field "alternative" (rule .statement)])]),
    node "while_statement" (all [word "while", field "condition" condition,
      field "body" (rule .statement)]),
    node "for_statement" (all [word "for", round loopHead, field "body" (rule .statement)]),
    node "enhanced_for_statement" (all [word "for", round elementHead,
      field "body" (rule .statement)]),
    node "assert_statement" (all [word "assert", rule .expression,
      maybe (all [sign ":", rule .expression]), sign ";"]),
    node "do_statement" (all [word "do", field "body" (rule .statement), word "while",
      field "condition" condition, sign ";"]),
    node "break_statement" (all [word "break", maybe name, sign ";"]),
    node "continue_statement" (all [word "continue", maybe name, sign ";"]),
    node "return_statement" (all [word "return", maybe (rule .expression), sign ";"]),
    node "yield_statement" (all [word "yield", rule .expression, sign ";"]),
    node "synchronized_statement" (all [word "synchronized", condition,
      field "body" (rule .block)]),
    node "throw_statement" (all [word "throw", rule .expression, sign ";"]),
    node "try_with_resources_statement" (all [word "try", field "resources" resources,
      field "body" (rule .block), many catchClause, maybe finallyClause]),
    node "try_statement" (all [word "try", field "body" (rule .block),
      first [all [many catchClause, finallyClause], atLeastOnce catchClause]])]

/-- An expression as a statement. -/
def expressionStatement : Syn :=
  node "expression_statement" (all [rule .expression, sign ";"])

/-- A switch, as a statement or an expression. -/
def switch : Syn :=
  node "switch_expression" (all [word "switch", field "condition" condition,
    field "body" (rule .switchBlock)])

/-! ## Expressions -/

/-- A literal. -/
def literal : Syn :=
  first [
    lexeme "hex_floating_point_literal" scanHexFloat,
    lexeme "decimal_floating_point_literal" scanFloat,
    lexeme "hex_integer_literal" scanHex,
    lexeme "binary_integer_literal" scanBinary,
    lexeme "decimal_integer_literal" scanInteger,
    lexeme "character_literal" scanCharacter,
    lexeme "string_literal" scanTextBlock,
    lexeme "string_literal" scanString,
    bareLeaf "true" "true", bareLeaf "false" "false", bareLeaf "null_literal" "null"]

/-- The signs between the two sides of an expression. -/
def binarySigns : List String :=
  ["==", "!=", "<=", ">=", "&&", "||", ">>>", ">>", "<<", "<", ">", "+", "-", "*", "/", "%", "&",
    "|", "^"]

/-- The signs that assign. -/
def assignmentSigns : List String :=
  ["=", "+=", "-=", "*=", "/=", "&=", "|=", "^=", "%=", "<<=", ">>>=", ">>="]

/-- What may be created: objects and arrays. -/
def creation : Syn :=
  ofKind ["object_creation_expression", "array_creation_expression"] <|
    grow false
      (all [word "new", notes, maybe (field "type_arguments" (rule .typeArguments)), notes,
        field "type" (rule .simpleType)])
      [{ kind := "object_creation_expression"
         body := all [field "arguments" (rule .arguments), maybe (rule .classBody)] },
       { kind := "array_creation_expression"
         body := first [
           all [field "dimensions" (rule .dimensions), field "value" (rule .initializer)],
           all [field "dimensions" (atLeastOnce (node "dimensions_expr"
             (all [notes, square (rule .expression)]))), dims]] }]

/-- The literal of a class. -/
def classLiteral : Syn :=
  node "class_literal" (all [rule .plainType, sign ".", word "class"])

/-- What follows the colons of a method reference. -/
def referenced : Syn :=
  all [sign "::", maybe (rule .typeArguments), first [word "new", name]]

/-- Where a primary expression begins. -/
def primaryStart : Syn :=
  first [literal, classLiteral,
    node "method_reference" (all [ofKind ["array_type", "generic_type"] (rule .plainType), referenced]),
    node "method_invocation" (all [field "name" name, field "arguments" (rule .arguments)]),
    creation, condition, bareLeaf "this" "this", bareLeaf "super" "super", name, switch]

/-- How a primary expression goes on. -/
def primaryForms : List (Form Syn) :=
  [{ kind := "method_invocation", base := some "object"
     body := all [sign ".", maybe (all [bareLeaf "super" "super", sign "."]),
       maybe (field "type_arguments" (rule .typeArguments)),
       field "name" (first [name, bareLeaf "super" "super", bareLeaf "this" "this"]),
       field "arguments" (rule .arguments)] },
   { kind := "field_access", base := some "object"
     body := all [sign ".", field "field" (first [name, bareLeaf "this" "this",
       bareLeaf "super" "super"])] },
   { kind := "object_creation_expression", body := all [sign ".", creation] },
   { kind := "template_expression", body := all [sign ".", literal] },
   { kind := "array_access", base := some "array"
     body := square (field "index" (rule .expression)) },
   { kind := "method_reference", body := referenced },
   { kind := "update_expression", body := first [sign "++", sign "--"] }]

/-- An assignment of some expression, grown from what is assigned to. -/
def assignmentOf (value : Rule) : Form Syn where
  kind := "assignment_expression"
  base := some "left"
  baseKinds := ["identifier", "field_access", "array_access"]
  body := all [field "operator" (signs assignmentSigns), field "right" (rule value)]

/-- A function written in place. -/
def lambda : Syn :=
  node "lambda_expression" (all [field "parameters" (rule .lambdaParameters), sign "->",
    field "body" (first [rule .block, rule .expression])])

/-- Some operand under another type. -/
def castOf (value : Rule) : Syn :=
  node "cast_expression" (all [round (sepBy (sign "&") (field "type" (rule .type))),
    field "value" (rule value)])

/-- An operand that is no function, built of operands `o` and expressions `e`. -/
def operandOf (o e : Rule) : Syn :=
  first [castOf o,
    node "unary_expression" (all [field "operator" (signs ["+", "-", "!", "~"]),
      field "operand" (rule o)]),
    node "update_expression" (all [first [sign "++", sign "--"], rule o]),
    grow false (rule .primary) [assignmentOf e]]

/-- How an expression of operands `o` goes on. -/
def expressionForms (o : Rule) : List (Form Syn) :=
  [{ kind := "instanceof_expression", base := some "left"
     body := all [word "instanceof", maybe (word "final"),
       first [field "pattern" (rule .recordPattern),
         all [field "right" (rule .type), maybe (field "name" name)]]] },
   { kind := "binary_expression", base := some "left"
     body := all [field "operator" (signs binarySigns), field "right" (rule o)] }]

/-- An expression of operands `o`; what stands behind a condition and a colon is an expression
`e`. -/
def expressionOf (o e : Rule) : Syn :=
  grow false (grow true (rule o) (expressionForms o))
    [{ kind := "ternary_expression", base := some "condition"
       body := all [sign "?", field "consequence" (rule .expression), sign ":",
         field "alternative" (rule e)] }]

end Syn

open Syn

/-- What each rule stands for. -/
def Rule.syn : Rule → Syn
  | program =>
    items (first [packageDeclaration, importDeclaration, moduleDeclaration, rule .declaration,
      methodDeclaration, rule .statement])
  | declaration => first typeDeclarations
  | modifiers =>
    node "modifiers" (atLeastOnce (first [rule .note, words ["public", "protected", "private",
      "abstract", "static", "final", "strictfp", "default", "synchronized", "native", "transient",
      "volatile", "sealed"], sign "non-sealed"]))
  | note =>
    first [
      node "annotation" (all [sign "@", field "name" (rule .dottedName),
        field "arguments" (node "annotation_argument_list" (round (commaSep
          (node "element_value_pair" (all [field "key" name, sign "=",
            field "value" (rule .elementValue)])))))]),
      node "annotation" (all [sign "@", field "name" (rule .dottedName),
        field "arguments" (node "annotation_argument_list" (round (rule .elementValue)))]),
      node "marker_annotation" (all [sign "@", field "name" (rule .dottedName),
        absent (sign "(")])]
  | elementValue =>
    first [
      node "element_value_array_initializer" (braces (all [commaSep (rule .elementValue),
        maybe (sign ",")])),
      rule .note, rule .expression]
  | dottedName =>
    grow true name [{ kind := "scoped_identifier", base := some "scope"
                      body := all [sign ".", field "name" name] }]
  | type =>
    first [node "annotated_type" (all [atLeastOnce (rule .note), rule .plainType]),
      rule .plainType]
  | plainType =>
    grow false (rule .simpleType)
      [{ kind := "array_type", base := some "element"
         body := field "dimensions" (rule .dimensions) }]
  | simpleType =>
    first [bareLeaf "void_type" "void",
      leafOf "integral_type" ["byte", "short", "int", "long", "char"],
      leafOf "floating_point_type" ["float", "double"], bareLeaf "boolean_type" "boolean",
      grow true typeName
        [{ kind := "generic_type", baseKinds := ["type_identifier", "scoped_type_identifier"]
           body := rule .typeArguments },
         { kind := "scoped_type_identifier", body := all [sign ".", notes, typeName] }]]
  | typeArguments =>
    node "type_arguments" (all [sign "<", commaSep (first [wildcard, rule .type]), sign ">"])
  | dimensions =>
    node "dimensions" (atLeastOnce (all [notes, sign "[", sign "]"]))
  | typeParameters =>
    node "type_parameters" (all [sign "<", sepBy (sign ",") (node "type_parameter" (all [notes,
      typeName, maybe bound])), sign ">"])
  | typeList => node "type_list" (sepBy (sign ",") (rule .type))
  | classBody => node "class_body" (braces (items (rule .classMember)))
  | classMember =>
    first (typeDeclarations ++ [methodDeclaration, variableList "field_declaration",
      constructorDeclaration, compactConstructor, rule .block,
        node "static_initializer" (all [word "static", rule .block]), sign ";"])
  | interfaceBody =>
    node "interface_body" (braces (items (first (typeDeclarations ++ [methodDeclaration,
      variableList "constant_declaration", sign ";"]))))
  | noteBody =>
    node "annotation_type_body" (braces (items (first (typeDeclarations ++ [element,
      variableList "constant_declaration", sign ";"]))))
  | enumBody =>
    node "enum_body" (braces (all [commaSep enumConstant, maybe (sign ","),
      maybe (node "enum_body_declarations" (all [sign ";", items (rule .classMember)]))]))
  | formalParameters =>
    node "formal_parameters" (round (commaSep (first [receiverParameter, spreadParameter,
      formalParameter])))
  | declarators => sepBy (sign ",") (field "declarator" declarator)
  | initializer =>
    first [
      node "array_initializer" (braces (all [commaSep (rule .initializer), maybe (sign ",")])),
      rule .expression]
  | block => node "block" (braces (items (rule .statement)))
  | statement =>
    first ([rule .block, sign ";", rule .declaration] ++ keywordStatements
      ++ [rule .localVariable,
        node "labeled_statement" (all [name, sign ":", rule .statement]),
        expressionStatement, switch])
  | localVariable => variableList "local_variable_declaration"
  | switchBlock =>
    node "switch_block" (braces (first [
      all [atLeastOnce (node "switch_rule" (all [rule .switchLabel, sign "->",
        first [rule .block, node "throw_statement" (all [word "throw", rule .expression, sign ";"]),
          expressionStatement]])), ahead (sign "\x7d")],
      many (node "switch_block_statement_group" (all [
        atLeastOnce (all [rule .switchLabel, sign ":"]), items (rule .statement)]))]))
  | switchLabel =>
    node "switch_label" (first [
      all [word "case", first [
        all [rule .pattern, first [ahead (sign "->"), ahead (sign ":"), ahead (word "when")]],
        sepBy (sign ",") (first [word "default", rule .plainExpression])],
        maybe (node "guard" (all [word "when", rule .plainExpression]))],
      word "default"])
  | pattern =>
    node "pattern" (first [rule .recordPattern,
      node "type_pattern" (all [maybe (word "final"), rule .plainType, name])])
  | recordPattern =>
    let component : Syn := node "record_pattern_component" (all [rule .plainType, name])
    node "record_pattern" (all [rule .simpleType,
      node "record_pattern_body" (round (commaSep (first [rule .recordPattern, component, name])))])
  | expression => expressionOf .operand .expression
  | operand => first [lambda, operandOf .operand .expression]
  | plainExpression => expressionOf .plainOperand .plainExpression
  | plainOperand => operandOf .plainOperand .plainExpression
  | primary => grow true primaryStart primaryForms
  | arguments => node "argument_list" (round (commaSep (rule .expression)))
  | lambdaParameters =>
    first [all [name, ahead (sign "->")],
      all [node "inferred_parameters" (round (sepBy (sign ",") name)), ahead (sign "->")],
      all [rule .formalParameters, ahead (sign "->")]]

/-- The grammar of Java. -/
def grammar : Grammar Rule where
  lexicon := lexicon
  rules := Rule.syn
  start := .program
  rootKind := "program"
  commentKinds := ["line_comment", "block_comment"]

/-- The syntax tree of a Java source. -/
def parse (source : String) : Node :=
  grammar.parse source

end SourceOutline.Java
