import Footprint.Data

namespace Footprint

inductive Problem
  | notAnObject
  | noTag
  | unknownTag (shown : String) (expected : List String)
  | missing
  | unexpected
  | notText
  | notUnicode
  | tooShort
  | notBytes
  | notOneOf (expected : List String)
  | notBoolean
  | unclearBoolean
  | notInteger
  | fractional
  | unclearInteger
  | oversizedInteger
  | notFinite
  | notNumber
  | unclearNumber
  | invalidAddress
  | familyMismatch (family : String) (version : Nat)
  deriving DecidableEq, Repr

namespace Problem

def code : Problem → String
  | notAnObject => "model_attributes_type"
  | noTag => "union_tag_not_found"
  | unknownTag .. => "union_tag_invalid"
  | missing => "missing"
  | unexpected => "extra_forbidden"
  | notText => "string_type"
  | notUnicode => "string_unicode"
  | tooShort => "string_too_short"
  | notBytes => "bytes_type"
  | notOneOf _ => "literal_error"
  | notBoolean => "bool_type"
  | unclearBoolean => "bool_parsing"
  | notInteger => "int_type"
  | fractional => "int_from_float"
  | unclearInteger => "int_parsing"
  | oversizedInteger => "int_parsing_size"
  | notFinite => "finite_number"
  | notNumber => "float_type"
  | unclearNumber => "float_parsing"
  | invalidAddress | familyMismatch .. => "value_error"

def inQuotes (words : List String) : List String := words.map fun word => s!"'{word}'"

def message : Problem → String
  | notAnObject => "Input should be a valid dictionary or object to extract fields from"
  | noTag => "Unable to extract tag using discriminator 'kind'"
  | unknownTag shown expected =>
    let listed := ", ".intercalate (inQuotes expected)
    s!"Input tag '{shown}' found using 'kind' does not match any of the expected tags: {listed}"
  | missing => "Field required"
  | unexpected => "Extra inputs are not permitted"
  | notText => "Input should be a valid string"
  | notUnicode => "Input should be a valid string, unable to parse raw data as a unicode string"
  | tooShort => "String should have at least 1 character"
  | notBytes => "Input should be a valid bytes"
  | notOneOf expected => "Input should be " ++ " or ".intercalate (inQuotes expected)
  | notBoolean => "Input should be a valid boolean"
  | unclearBoolean => "Input should be a valid boolean, unable to interpret input"
  | notInteger => "Input should be a valid integer"
  | fractional => "Input should be a valid integer, got a number with a fractional part"
  | unclearInteger => "Input should be a valid integer, unable to parse string as an integer"
  | oversizedInteger => "Unable to parse input string as an integer, exceeded maximum size"
  | notFinite => "Input should be a finite number"
  | notNumber => "Input should be a valid number"
  | unclearNumber => "Input should be a valid number, unable to parse string as a number"
  | invalidAddress => "Value error, value is not a valid IP address"
  | familyMismatch family version =>
    s!"Value error, family '{family}' does not match an IPv{version} address"

end Problem

structure Issue where
  problem : Problem
  path : List String
  input : Data

namespace Issue

def within (segment : String) (issue : Issue) : Issue :=
  { issue with path := segment :: issue.path }

def report (issue : Issue) : String :=
  let about := ", ".intercalate [s!"type={issue.problem.code}",
    s!"input_value={issue.input.quoted}", s!"input_type={issue.input.typeName}"]
  let text := s!"  {issue.problem.message} [{about}]"
  if issue.path.isEmpty then text else ".".intercalate issue.path ++ "\n" ++ text

def reportAll (title : String) (issues : List Issue) : String :=
  let noun := if issues.length == 1 then "error" else "errors"
  "\n".intercalate (s!"{issues.length} validation {noun} for {title}" :: issues.map report)

end Issue
end Footprint
