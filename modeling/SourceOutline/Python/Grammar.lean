import SourceOutline.Python.Lexicon
import SourceOutline.Syntax.Repair

/-!
# The grammar of Python

Python up to type parameters, exception groups and nested format strings, with the `print` and
`exec` statements of old. Blocks are told by their indents; a line that stands deeper than its
block without need, or an empty block, is let pass. Operators of an expression are nested to the
left, whatever their rank, since an outline does not look at them.
-/

namespace SourceOutline.Python

open Syntax Syntax.Gram

/-- The rules of the grammar. -/
inductive Rule where
  | module | statement | simpleStatements | suite | dottedName
  | classDefinition | functionDefinition
  | assignment | assigned | target | targets
  | expression | expressions | operand | primary | yielding
  | arguments | clauses | string | interpolation
  deriving DecidableEq, Repr

/-- An expression over the rules of Python. -/
abbrev Syn := Gram Rule

namespace Syn

/-! ## Leaves and lists -/

/-- A name in a place where other words have a meaning. -/
def name : Syn := lexeme "identifier" scanName

/-- A name in a place where nothing but a name can stand. -/
def anyName : Syn := lexeme "identifier" scanWord

/-- Nothing. -/
def nothing : Syn := all []

/-- More items after a comma, and perhaps a comma at the end. -/
def moreOf (g : Syn) : Syn :=
  all [many (all [sign ",", sameLine g]), maybe (sign ",")]

/-- A comma, and perhaps items after it. -/
def commaAnd (g : Syn) : Syn :=
  all [sign ",", maybe (all [g, moreOf g])]

/-- The word before what is done aside, or nothing. -/
def async? : Syn := first [word "async", nothing]

/-- A clause of the statement before it, on a line of its own. -/
def clause? (g : Syn) : Syn :=
  first [aligned g, nothing]

/-! ## Imports -/

/-- An imported name, with another name perhaps. -/
def imported : Syn :=
  field "name" (grow false (rule .dottedName)
    [{ kind := "aliased_import", base := some "name"
       body := all [word "as", field "alias" anyName] }])

/-- Imported names. -/
def importList : Syn := all [imported, moreOf imported]

/-- Imported names, in brackets or not. -/
def importNames : Syn := first [round importList, importList]

/-- An import of modules. -/
def importStatement : Syn :=
  node "import_statement" (all [word "import", importList])

/-- An import of features of the language. -/
def futureImport : Syn :=
  node "future_import_statement" (all [word "from", word "__future__", word "import", importNames])

/-- A module that is named from the current one. -/
def relativeModule : Syn :=
  node "relative_import" (all [node "import_prefix" (atLeastOnce (sign ".")),
    maybe (rule .dottedName)])

/-- An import from a module. -/
def fromImport : Syn :=
  node "import_from_statement" (all [word "from",
    field "module_name" (first [relativeModule, rule .dottedName]), word "import",
    first [node "wildcard_import" (sign "*"), importNames]])

/-! ## Types and parameters -/

/-- A type. -/
def typed : Syn :=
  node "type" (first [
    node "splat_type" (all [first [sign "**", sign "*"], name]),
    rule .expression])

/-- A type parameter. -/
def typeParameter : Syn :=
  node "type" (first [
    node "splat_type" (all [first [sign "**", sign "*"], name]),
    grow false (rule .expression) [
      { kind := "constrained_type", body := all [sign ":", rule .expression] }]])

/-- The type parameters of a definition. -/
def typeParameters : Syn :=
  maybe (field "type_parameters" (node "type_parameter"
    (square (all [typeParameter, moreOf typeParameter]))))

/-- The default of a parameter. -/
def defaultValue : Syn := all [sign "=", field "value" (rule .expression)]

/-- A parameter with stars. -/
def splat : Syn :=
  first [node "dictionary_splat_pattern" (all [sign "**", name]),
    node "list_splat_pattern" (all [sign "*", name])]

/-- The signs that separate parameters by kind. -/
def separator : Syn :=
  first [node "keyword_separator" (sign "*"), node "positional_separator" (sign "/")]

/-- A parameter of a function. -/
def parameter : Syn :=
  first [
    grow false splat [{ kind := "typed_parameter", body := all [sign ":", field "type" typed] }],
    separator,
    grow false name [
      { kind := "typed_default_parameter", base := some "name"
        body := all [sign ":", field "type" typed, defaultValue] },
      { kind := "typed_parameter", body := all [sign ":", field "type" typed] },
      { kind := "default_parameter", base := some "name", body := defaultValue }],
    grow false (rule .target) [
      { kind := "default_parameter", base := some "name", body := defaultValue }]]

/-- The parameters of a function. -/
def parameters : Syn :=
  node "parameters" (round (all [maybe (all [parameter, moreOf parameter])]))

/-- A parameter of a function written in place. -/
def lambdaParameter : Syn :=
  first [splat, separator,
    grow false (first [name, rule .target]) [
      { kind := "default_parameter", base := some "name", body := defaultValue }]]

/-! ## Definitions -/

/-- The block of a compound statement. -/
def body (fieldName : String) : Syn :=
  all [sign ":", field fieldName (rule .suite)]

/-- A class. -/
def classDefinition : Syn :=
  node "class_definition" (all [word "class", field "name" anyName, typeParameters,
    maybe (field "superclasses" (rule .arguments)), body "body"])

/-- A function. -/
def functionDefinition : Syn :=
  node "function_definition" (all [async?, word "def", field "name" anyName,
    typeParameters, field "parameters" parameters,
    maybe (all [sign "->", field "return_type" typed]), body "body"])

/-- A decorator on its line. -/
def decorator : Syn :=
  node "decorator" (all [sign "@", rule .expression, lineEnd])

/-- A definition with decorators. -/
def decoratedDefinition : Syn :=
  node "decorated_definition" (all [decorator, items decorator,
    field "definition" (first [rule .classDefinition, rule .functionDefinition])])

/-! ## Compound statements -/

/-- What is done otherwise. -/
def elseClause : Syn :=
  node "else_clause" (all [word "else", body "body"])

/-- What is done in any case. -/
def finallyClause : Syn :=
  node "finally_clause" (all [word "finally", sign ":", rule .suite])

/-- A choice between blocks. -/
def ifStatement : Syn :=
  node "if_statement" (all [word "if", field "condition" (rule .expression), body "consequence",
    items (field "alternative" (node "elif_clause" (all [word "elif",
      field "condition" (rule .expression), body "consequence"]))),
    clause? (field "alternative" elseClause)])

/-- A loop over elements. -/
def forStatement : Syn :=
  node "for_statement" (all [async?, word "for", field "left" (rule .targets),
    word "in", field "right" (rule .expressions), body "body",
    clause? (field "alternative" elseClause)])

/-- A loop under a condition. -/
def whileStatement : Syn :=
  node "while_statement" (all [word "while", field "condition" (rule .expression), body "body",
    clause? (field "alternative" elseClause)])

/-- A handler of exceptions. -/
def exceptClause : Syn :=
  node "except_clause" (all [word "except", maybe (sign "*"),
    maybe (all [field "value" (rule .expression),
      many (all [sign ",", rule .expression])]), sign ":", rule .suite])

/-- A block with handlers. -/
def tryStatement : Syn :=
  node "try_statement" (all [word "try", body "body", first [
    all [aligned exceptClause, items exceptClause, clause? elseClause, clause? finallyClause],
    aligned finallyClause]])

/-- A block with contexts. -/
def withStatement : Syn :=
  let item : Syn := node "with_item" (field "value" (rule .expression))
  node "with_statement" (all [async?, word "with",
    node "with_clause" (all [item, moreOf item]), body "body"])

/-- A case of a match. -/
def caseClause : Syn :=
  let pattern : Syn := node "case_pattern" (rule .expression)
  node "case_clause" (all [word "case", pattern, moreOf pattern,
    maybe (field "guard" (node "if_clause" (all [word "if", rule .expression]))),
    body "consequence"])

/-- A choice by patterns. -/
def matchStatement : Syn :=
  node "match_statement" (all [word "match", sameLine (field "subject" (rule .expression)),
    moreOf (field "subject" (rule .expression)), sign ":",
    field "body" (node "block" (first [
      all [indent, items (field "alternative" caseClause), dedent],
      lineEnd]))])

/-! ## Simple statements -/

/-- The beginning of an expression that cannot go on the expression before it. -/
def freshOperand : Syn :=
  ahead (first [name, lexeme "float" scanFloat, lexeme "integer" scanInteger, rule .string])

/-- The statements of old. -/
def oldStatements : List Syn :=
  [node "print_statement" (all [word "print", sameLine freshOperand,
      field "argument" (rule .expression), moreOf (field "argument" (rule .expression))]),
    node "exec_statement" (all [word "exec", sameLine freshOperand,
      field "code" (first [rule .string, name]),
      maybe (all [word "in", rule .expression, moreOf (rule .expression)])])]

/-- A statement on a line. -/
def simpleStatement : Syn :=
  first ([futureImport, importStatement, fromImport,
    node "assert_statement" (all [word "assert", rule .expression,
      many (all [sign ",", rule .expression])]),
    node "return_statement" (all [word "return", maybe (rule .expressions)]),
    node "delete_statement" (all [word "del", rule .expressions]),
    node "raise_statement" (all [word "raise", maybe (rule .expressions),
      maybe (all [word "from", field "cause" (rule .expression)])]),
    node "pass_statement" (word "pass"), node "break_statement" (word "break"),
    node "continue_statement" (word "continue"),
    node "global_statement" (all [word "global", name, many (all [sign ",", name])]),
    node "nonlocal_statement" (all [word "nonlocal", name, many (all [sign ",", name])]),
    node "type_alias_statement" (all [word "type", sameLine (ahead name), field "left" typed,
      sign "=", field "right" typed])]
    ++ oldStatements
    ++ [node "expression_statement" (first [rule .assignment, rule .yielding,
      all [rule .expression, maybe (commaAnd (rule .expression))]])])

/-! ## Expressions -/

/-- The signs that compute and assign. -/
def augmentedSigns : List String :=
  ["+=", "-=", "*=", "/=", "@=", "//=", "%=", "**=", ">>=", "<<=", "&=", "^=", "|="]

/-- The signs between two operands. -/
def binarySigns : List String :=
  ["+", "-", "**", "*", "@", "//", "/", "%", "|", "&", "^", "<<", ">>"]

/-- The signs and words that compare. -/
def comparison : Syn :=
  first [signs ["<=", "<>", "<", "==", "!=", ">=", ">"], word "in", all [word "not", word "in"],
    all [word "is", word "not"], word "is"]

/-- How an expression goes on. -/
def expressionForms : List (Form Syn) :=
  [{ kind := "binary_operator", base := some "left"
     body := all [field "operator" (signs binarySigns), field "right" (rule .operand)] },
   { kind := "comparison_operator"
     body := all [field "operators" comparison, rule .operand] },
   { kind := "boolean_operator", base := some "left"
     body := all [field "operator" (words ["and", "or"]), field "right" (rule .operand)] },
   { kind := "conditional_expression"
     body := all [word "if", rule .expression, word "else", rule .expression] },
   { kind := "named_expression", base := some "name", baseKinds := ["identifier"]
     body := all [sign ":=", field "value" (rule .expression)] },
   { kind := "as_pattern"
     body := all [word "as", field "alias" (node "as_pattern_target" (rule .expression))] }]

/-- A spread list. -/
def listSplat : Syn := node "list_splat" (all [sign "*", rule .operand])

/-- A spread dictionary. -/
def dictionarySplat : Syn := node "dictionary_splat" (all [sign "**", rule .expression])

/-- What stands in round brackets: a value, a tuple or a generator. -/
def parenthesized : Syn :=
  let item : Syn := first [rule .yielding, rule .expression]
  first [node "tuple" (all [sign "(", nested (sign ")")]),
    all [ahead (sign "("), nested (ofKind ["parenthesized_expression", "generator_expression",
      "tuple"] (grow false (all [sign "(", item]) [
        { kind := "parenthesized_expression", body := sign ")" },
        { kind := "generator_expression", body := all [rule .clauses, sign ")"] },
        { kind := "tuple", body := all [commaAnd item, sign ")"] }]))]]

/-- What stands in square brackets: a list or a comprehension. -/
def bracketed : Syn :=
  let item : Syn := first [rule .yielding, rule .expression]
  first [node "list" (all [sign "[", nested (sign "]")]),
    all [ahead (sign "["), nested (ofKind ["list", "list_comprehension"]
      (grow false (all [sign "[", item]) [
        { kind := "list_comprehension", body := all [rule .clauses, sign "]"] },
        { kind := "list", body := all [moreOf item, sign "]"] }]))]]

/-- What stands in braces: a dictionary, a set or a comprehension. -/
def braced : Syn :=
  let pair : Form Syn := { kind := "pair", base := some "key"
                           body := all [sign ":", field "value" (rule .expression)] }
  let entry : Syn := first [dictionarySplat, ofKind ["pair"] (grow false (rule .expression) [pair])]
  let item : Syn := first [dictionarySplat, grow false (rule .expression) [pair]]
  first [node "dictionary" (all [sign "\x7b", nested (sign "\x7d")]),
    all [ahead (sign "\x7b"), nested (ofKind ["dictionary", "dictionary_comprehension", "set",
      "set_comprehension"] (grow false (all [sign "\x7b", item]) [
        { kind := "dictionary_comprehension", baseKinds := ["pair"]
          body := all [rule .clauses, sign "\x7d"] },
        { kind := "dictionary", baseKinds := ["pair", "dictionary_splat"]
          body := all [moreOf entry, sign "\x7d"] },
        { kind := "set_comprehension", barredKinds := ["pair", "dictionary_splat"]
          body := all [rule .clauses, sign "\x7d"] },
        { kind := "set", barredKinds := ["pair", "dictionary_splat"]
          body := all [moreOf (rule .expression), sign "\x7d"] }]))]]

/-- A word that is a value of its own. -/
def constant (kind w : String) : Syn := lexeme kind (scanFixed w)

/-- Where a primary expression begins. -/
def atom : Syn :=
  first [
    grow false (rule .string) [
      { kind := "concatenated_string", body := atLeastOnce (rule .string) }],
    lexeme "float" scanFloat, lexeme "integer" scanInteger,
    constant "true" "True", constant "false" "False", constant "none" "None",
    node "await" (all [word "await", sameLine (rule .primary)]),
    name, node "ellipsis" (sign "..."), parenthesized, bracketed, braced]

/-- What a subscript holds. -/
def subscripted : Syn :=
  let bound : Syn := maybe (rule .expression)
  let rest : Syn := all [sign ":", bound, maybe (all [sign ":", bound])]
  first [node "slice" rest, grow false (rule .expression) [{ kind := "slice", body := rest }]]

/-- How a primary expression goes on. -/
def primaryForms : List (Form Syn) :=
  [{ kind := "attribute", base := some "object"
     body := all [sign ".", field "attribute" anyName] },
   { kind := "subscript", base := some "value"
     body := square (all [field "subscript" subscripted, moreOf (field "subscript" subscripted)]) },
   { kind := "call", base := some "function", body := field "arguments" (rule .arguments) }]

/-- An argument of a call. -/
def argument : Syn :=
  first [
    node "keyword_argument" (all [field "name" name, sign "=",
      field "value" (rule .expression)]),
    dictionarySplat,
    grow false (rule .expression) [{ kind := "generator_expression", body := rule .clauses }]]

/-- A function written in place. -/
def lambda : Syn :=
  node "lambda" (all [word "lambda",
    maybe (field "parameters" (node "lambda_parameters" (all [lambdaParameter,
      moreOf lambdaParameter]))),
    sign ":", field "body" (rule .expression)])

/-- Where the elements of a comprehension come from. -/
def forClause : Syn :=
  node "for_in_clause" (all [async?, word "for", field "left" (rule .targets),
    word "in", field "right" (rule .expression)])

/-! ## Strings -/

/-- An expression in a string, and how its value is shown, which may hold expressions too. -/
def interpolation : Syn :=
  node "interpolation" (all [ahead (piece "\x7b" scanBrace), sign "\x7b", nested (all [
    field "expression" (first [rule .yielding, rule .expressions]), maybe (sign "="),
    maybe (field "type_conversion" (lexeme "type_conversion" scanConversion)),
    maybe (field "format_specifier" (node "format_specifier" (all [sign ":",
      many (first [piece "format_text" scanFormat,
        renamed "format_expression" (rule .interpolation)])]))),
    sign "\x7d"])])

/-- A string of one kind. -/
def stringOf (q : Quotes) : Syn :=
  let part : Syn :=
    if q.expressions then first [piece "string_content" q.scanContent, rule .interpolation]
    else piece "string_content" q.scanContent
  let whole : Syn := if q.expressions then nothing else ahead (lexeme "string" q.scanPlain)
  node "string" (all [whole, lexeme "string_start" q.scanStart, many part,
    piece "string_end" q.scanEnd])

end Syn

open Syn

/-- What each rule stands for. -/
def Rule.syn : Rule → Syn
  | module => items (rule .statement)
  | statement =>
    first [ifStatement, forStatement, whileStatement, tryStatement, withStatement,
      rule .functionDefinition, rule .classDefinition, decoratedDefinition, matchStatement,
      rule .simpleStatements]
  | simpleStatements =>
    all [simpleStatement, many (all [sign ";", sameLine simpleStatement]), maybe (sign ";"),
      lineEnd]
  | suite =>
    first [node "block" (all [indent, items (rule .statement), dedent]), node "block" lineEnd,
      node "block" (rule .simpleStatements)]
  | dottedName => node "dotted_name" (sepBy (sign ".") name)
  | classDefinition => Syn.classDefinition
  | functionDefinition => Syn.functionDefinition
  | assignment =>
    ofKind ["assignment", "augmented_assignment"] (grow false (rule .targets) [
      { kind := "assignment", base := some "left"
        body := first [
          all [sign "=", field "right" (rule .assigned)],
          all [sign ":", field "type" typed,
            maybe (all [sign "=", field "right" (rule .assigned)])]] },
      { kind := "augmented_assignment", base := some "left"
        body := all [field "operator" (signs augmentedSigns), field "right" (rule .assigned)] }])
  | assigned => first [rule .assignment, rule .yielding, rule .expressions]
  | target =>
    let inner : Syn := maybe (all [rule .target, moreOf (rule .target)])
    first [node "list_splat_pattern" (all [sign "*",
        ofKind ["identifier", "attribute", "subscript"] (rule .primary)]),
      ofKind ["identifier", "attribute", "subscript"] (rule .primary),
      node "tuple_pattern" (round inner), node "list_pattern" (square inner)]
  | targets =>
    grow false (rule .target) [{ kind := "pattern_list", body := commaAnd (rule .target) }]
  | expression => grow true (rule .operand) expressionForms
  | expressions =>
    grow false (rule .expression)
      [{ kind := "expression_list", body := commaAnd (rule .expression) }]
  | operand =>
    first [node "not_operator" (all [word "not", field "argument" (rule .operand)]), lambda,
      node "unary_operator" (all [field "operator" (signs ["+", "-", "~"]),
        field "argument" (rule .operand)]),
      listSplat, rule .primary]
  | primary => grow true atom primaryForms
  | yielding =>
    node "yield" (all [word "yield",
      first [all [word "from", rule .expression], maybe (rule .expressions)]])
  | arguments =>
    node "argument_list" (round (all [maybe (all [argument, moreOf argument])]))
  | clauses =>
    all [forClause, many (first [forClause, node "if_clause" (all [word "if", rule .expression])])]
  | string => first (Quotes.all.map stringOf)
  | interpolation => Syn.interpolation

/-- The grammar of Python. -/
def grammar : Grammar Rule where
  lexicon := lexicon
  rules := Rule.syn
  start := .module
  rootKind := "module"
  commentKinds := ["comment"]

/-- The syntax tree of a Python source. -/
def parse (source : String) : Node :=
  grammar.parse source

end SourceOutline.Python
