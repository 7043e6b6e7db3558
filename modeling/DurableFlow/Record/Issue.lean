/-!
Issues found while a record is read from a JSON value. An issue says where it was found and what was
expected there; a list of issues has a text of its own.
-/

namespace DurableFlow

/-- What is wrong with the value of a field. -/
inductive IssueKind where
  | missing
  | stringExpected
  | dictionaryExpected
  | listExpected
  | recordExpected (name : String)
  | choiceExpected (choices : List String)
  | integerText
  | integerExpected
  | integerFraction
  | integerSize
  | finiteExpected
  | greaterThan (bound : Int)
  | atLeast (bound : Int)
  | pattern (text : String)
  | booleanText
  | booleanExpected
  | numberText
  | numberExpected
  | keyExpected
  | refused (reason : String)
  deriving DecidableEq, Repr

namespace IssueKind

def code : IssueKind → String
  | missing => "missing"
  | stringExpected => "string_type"
  | dictionaryExpected => "dict_type"
  | listExpected => "list_type"
  | recordExpected _ => "model_type"
  | choiceExpected _ => "literal_error"
  | integerText => "int_parsing"
  | integerExpected => "int_type"
  | integerFraction => "int_from_float"
  | integerSize => "int_parsing_size"
  | finiteExpected => "finite_number"
  | greaterThan _ => "greater_than"
  | atLeast _ => "greater_than_equal"
  | pattern _ => "string_pattern_mismatch"
  | booleanText => "bool_parsing"
  | booleanExpected => "bool_type"
  | numberText => "float_parsing"
  | numberExpected => "float_type"
  | keyExpected => "invalid_key"
  | refused _ => "value_error"

/-- Choices in quotes, the last two joined by `or`. -/
def choiceText : List String → String
  | [] => ""
  | [a] => "'" ++ a ++ "'"
  | [a, b] => "'" ++ a ++ "' or '" ++ b ++ "'"
  | a :: rest => "'" ++ a ++ "', " ++ choiceText rest

def message : IssueKind → String
  | missing => "Field required"
  | stringExpected => "Input should be a valid string"
  | dictionaryExpected => "Input should be a valid dictionary"
  | listExpected => "Input should be a valid list"
  | recordExpected name => "Input should be a valid dictionary or instance of " ++ name
  | choiceExpected choices => "Input should be " ++ choiceText choices
  | integerText => "Input should be a valid integer, unable to parse string as an integer"
  | integerExpected => "Input should be a valid integer"
  | integerFraction => "Input should be a valid integer, got a number with a fractional part"
  | integerSize => "Unable to parse input string as an integer, exceeded maximum size"
  | finiteExpected => "Input should be a finite number"
  | greaterThan bound => "Input should be greater than " ++ toString bound
  | atLeast bound => "Input should be greater than or equal to " ++ toString bound
  | pattern text => "String should match pattern '" ++ text ++ "'"
  | booleanText => "Input should be a valid boolean, unable to interpret input"
  | booleanExpected => "Input should be a valid boolean"
  | numberText => "Input should be a valid number, unable to parse string as a number"
  | numberExpected => "Input should be a valid number"
  | keyExpected => "Keys should be strings"
  | refused reason => "Value error, " ++ reason

end IssueKind

/-- An issue at a place, which is a path of field names and positions. -/
structure Issue where
  path : List String
  kind : IssueKind
  deriving DecidableEq, Repr

namespace Issue

def location (i : Issue) : String := ".".intercalate i.path

/-- The issue below a field of that name. -/
def under (name : String) (i : Issue) : Issue := { i with path := name :: i.path }

/-- Two lines: the place, then the message with the short name of the kind. -/
def text (i : Issue) : String :=
  i.location ++ "\n  " ++ i.kind.message ++ " [type=" ++ i.kind.code ++ "]"

def summary (record : String) (found : List Issue) : String :=
  let count := toString found.length ++ " validation error" ++ (if found.length = 1 then "" else "s")
  "\n".intercalate ((count ++ " for " ++ record) :: found.map text)

end Issue

end DurableFlow
