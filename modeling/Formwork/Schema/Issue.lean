import Formwork.Text.Display
/-!
# Validation issues

The entries of a `ValidationError`: where an issue arose, what it is, and the input at that place.  A complaint has
an error type (`Complaint.kind`), a message (`Complaint.message`) and the values that the message mentions
(`Complaint.context`).
-/
namespace Formwork

/-- One step of a `loc`: a member of an object or an item of an array. -/
inductive Place
  | key (name : String)
  | index (position : Nat)
deriving DecidableEq, Inhabited

/-- A step as text. -/
def Place.text : Place → String
  | key name => name
  | index position => toString position

/-- The errors that reading a value can report. -/
inductive Complaint
  | noText
  | noTruthValue
  | unclearTruthValue
  | noInteger
  | unclearInteger
  | fractionalInteger
  | endlessInteger
  | hugeInteger
  | negative
  | noList
  /-- A value that is no object, where the model of this name is expected. -/
  | noObject (model : String)
  /-- A value that is no object, in a request. -/
  | noAttributes
  /-- A value that is none of these names. -/
  | noMember (choices : List String)
  /-- A value other than this literal. -/
  | otherWord (expected : String)
  | missing
  /-- A tagged union without the member of this name. -/
  | noTag (discriminator : String)
  /-- A tag that is none of the expected ones. -/
  | unknownTag (tag discriminator : String) (expected : List String)
  | unexpected
  /-- A body that is no JSON, with the parser's message. -/
  | noJson (words : String)
deriving DecidableEq, Inhabited

namespace Complaint

/-- The error type. -/
def kind : Complaint → String
  | noText => "string_type"
  | noTruthValue => "bool_type"
  | unclearTruthValue => "bool_parsing"
  | noInteger => "int_type"
  | unclearInteger => "int_parsing"
  | fractionalInteger => "int_from_float"
  | endlessInteger => "finite_number"
  | hugeInteger => "int_parsing_size"
  | negative => "greater_than_equal"
  | noList => "list_type"
  | noObject _ => "model_type"
  | noAttributes => "model_attributes_type"
  | noMember _ => "enum"
  | otherWord _ => "literal_error"
  | missing => "missing"
  | noTag _ => "union_tag_not_found"
  | unknownTag .. => "union_tag_invalid"
  | unexpected => "extra_forbidden"
  | noJson _ => "json_invalid"

/-- A list of alternatives: commas, and `or` before the last one. -/
def alternatives : List String → String
  | [] => ""
  | [word] => word
  | [word, last] => s!"{word} or {last}"
  | word :: rest => s!"{word}, {alternatives rest}"

/-- A name between apostrophes. -/
def apostrophes (word : String) : String := s!"'{word}'"

/-- The message of an error. -/
def message : Complaint → String
  | noText => "Input should be a valid string"
  | noTruthValue => "Input should be a valid boolean"
  | unclearTruthValue => "Input should be a valid boolean, unable to interpret input"
  | noInteger => "Input should be a valid integer"
  | unclearInteger => "Input should be a valid integer, unable to parse string as an integer"
  | fractionalInteger => "Input should be a valid integer, got a number with a fractional part"
  | endlessInteger => "Input should be a finite number"
  | hugeInteger => "Unable to parse input string as an integer, exceeded maximum size"
  | negative => "Input should be greater than or equal to 0"
  | noList => "Input should be a valid list"
  | noObject model => s!"Input should be a valid dictionary or instance of {model}"
  | noAttributes => "Input should be a valid dictionary or object to extract fields from"
  | noMember choices => s!"Input should be {alternatives (choices.map apostrophes)}"
  | otherWord expected => s!"Input should be {apostrophes expected}"
  | missing => "Field required"
  | noTag discriminator =>
    s!"Unable to extract tag using discriminator {apostrophes discriminator}"
  | unknownTag tag discriminator expected =>
    s!"Input tag '{tag}' found using {apostrophes discriminator} does not match any of the "
      ++ "expected tags: " ++ String.intercalate ", " (expected.map apostrophes)
  | unexpected => "Extra inputs are not permitted"
  | noJson _ => "JSON decode error"

/-- The `ctx` of an error. -/
def context : Complaint → Fields
  | negative => [("ge", .int 0)]
  | noObject model => [("class_name", .str model)]
  | noMember choices => [("expected", .str (alternatives (choices.map apostrophes)))]
  | otherWord expected => [("expected", .str (apostrophes expected))]
  | noTag discriminator => [("discriminator", .str (apostrophes discriminator))]
  | unknownTag tag discriminator expected => [
      ("discriminator", .str (apostrophes discriminator)),
      ("tag", .str tag),
      ("expected_tags", .str (String.intercalate ", " (expected.map apostrophes)))]
  | noJson words => [("error", .str words)]
  | _ => []

end Complaint

/-- An error at a place. -/
structure Issue where
  /-- The `loc`: the path from the whole value. -/
  place : List Place
  /-- The error. -/
  complaint : Complaint
  /-- The input at the place; for a missing member, the object that lacks it. -/
  given : Json
deriving DecidableEq, Inhabited

/-- An issue in the text of a `ValidationError`: the path, if it is not empty, and then the message with the
input, which is shortened if it is long. -/
def Issue.report (issue : Issue) : String :=
  let place := if issue.place.isEmpty then "" else ".".intercalate (issue.place.map Place.text) ++ "\n"
  let given := String.ofList (Text.shorten issue.given.displayValue)
  s!"{place}  {issue.complaint.message} [type={issue.complaint.kind}, input_value={given}, "
    ++ s!"input_type={issue.given.typeName}]"

/-- The issue with one more step in front of its path. -/
def Issue.under (step : Place) (issue : Issue) : Issue := { issue with place := step :: issue.place }

end Formwork
