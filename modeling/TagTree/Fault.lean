import TagTree.Matcher.Expression
import TagTree.Settings.Basic
import TagTree.Text.Utf8
import TagTree.Value

/-!
# Faults

Why an operation failed, with one wording for each cause.
-/

namespace TagTree

/-- What an argument was expected to be. -/
inductive Shape
  | node
  | function
  | object
  | array
  | string
  | dict
  | matcher
  deriving DecidableEq, Repr

def Shape.phrase : Shape → String
  | .node => "an instance of Node"
  | .function => "a function"
  | .object => "an object"
  | .array => "an array"
  | .string => "a string"
  | .dict => "a dict"
  | .matcher => "a string, pattern or collection of them"

/-- What is wrong with an argument. -/
inductive Complaint
  | expected (label : String) (shape : Shape)
  | noSink
  | reserved (key : String)
  | stated (message : String)
  deriving DecidableEq, Repr

def Complaint.message : Complaint → String
  | .expected label shape => "expected \"" ++ label ++ "\" to be " ++ shape.phrase
  | .noSink => "expected \"compiler.append\" or \"compiler.emit\" to be a function"
  | .reserved key => "\"" ++ key ++ "\" is a reserved node attribute"
  | .stated message => message

/-- Why a template cannot be filled in. -/
inductive TemplateFlaw
  | unfinished
  | unclosedName
  | unknownConversion (c : Char) (index : Nat)
  | hugeWidth
  | hugePrecision
  | notANumber
  | infinite
  | noCharacter
  | widthOutOfRange
  | precisionOutOfRange
  /-- A whole number would have too many digits. -/
  | tooManyDigits
  /-- A whole number has too many digits. -/
  | longNumber
  deriving DecidableEq, Repr

/-- Whether a flaw is a number that is out of range. -/
def TemplateFlaw.isOverflow : TemplateFlaw → Bool
  | .infinite | .noCharacter | .widthOutOfRange | .precisionOutOfRange
  | .tooManyDigits => true
  | _ => false

def TemplateFlaw.message : TemplateFlaw → String
  | .unfinished => "incomplete format"
  | .unclosedName => "incomplete format key"
  | .unknownConversion c index =>
    let shown := if 31 ≤ c.toNat ∧ c.toNat ≤ 126 then c else '?'
    "unsupported format character '" ++ String.ofList [shown] ++ "' (0x" ++
      String.ofList (Nat.toDigits 16 c.toNat) ++ ") at index " ++ toString index
  | .hugeWidth => "width too big"
  | .hugePrecision => "precision too big"
  | .notANumber => "cannot convert float NaN to integer"
  | .infinite => "cannot convert float infinity to integer"
  | .noCharacter => "%c arg not in range(0x110000)"
  | .widthOutOfRange => "Python int too large to convert to C ssize_t"
  | .precisionOutOfRange => "Python int too large to convert to C int"
  | .tooManyDigits => "precision too large"
  | .longNumber =>
    "Exceeds the limit (4300 digits) for integer string conversion; use " ++
      "sys.set_int_max_str_digits() to increase the limit"

/-- Why a time cannot be written. -/
inductive TimeFlaw
  /-- It is too far away to be counted in seconds. -/
  | outOfRange
  | notANumber
  /-- Its year is too far away for the calendar. -/
  | noSuchYear
  /-- Its year is in the calendar and still too late to be written. -/
  | hugeYear
  /-- The template for it holds a null character. -/
  | nullInTemplate
  deriving DecidableEq, Repr

def TimeFlaw.message : TimeFlaw → String
  | .outOfRange => "timestamp out of range for platform time_t"
  | .notANumber => "Invalid value NaN (not a number)"
  | .noSuchYear => ""
  | .hugeYear => "signed integer is greater than maximum"
  | .nullInTemplate => "embedded null character"

/-- Why an operation failed. -/
inductive Fault
  /-- An argument does not have the shape that the operation documents. -/
  | argument (complaint : Complaint) (argument : Value)
  /-- A node is left although none was ever entered. -/
  | neverEntered (key : String)
  /-- A matcher expression does not follow the grammar. -/
  | expression (text : String) (mismatch : Matcher.Mismatch)
  /-- A pattern in a matcher expression is malformed. -/
  | malformedPattern (body source : List Char) (flaw : Pattern.Flaw) (position : Option Nat)
  /-- A pattern in a matcher expression asks for too much. -/
  | refusedPattern (reason : Pattern.Failure)
  /-- A text cannot be used as a pattern. -/
  | unusablePattern (source : String) (reason : Pattern.Failure)
  /-- Something else was given where settings are needed. -/
  | notSettings (typeName : String)
  /-- A file does not hold acceptable settings. -/
  | settingsFile (reason path : String)
  | invalidSettings (issues : List Settings.Issue)
  | noSuchField (name : String)
  /-- An attribute is missing, or cannot be changed. -/
  | missingAttribute
  /-- A value does not support what was asked of it. -/
  | unsupported
  /-- A mapping has no such key, which is given in its written form. -/
  | missingKey (key : String)
  /-- A list has no item at an index. -/
  | missingIndex (empty : Bool)
  /-- Something that should be a pair has another number of items. -/
  | notPair (size : Nat)
  | reservedRecordField
  | unknownLevel (name : String)
  | formatStyle (format : String)
  /-- A record has no such field, which is given in its written form. -/
  | formatField (name : String)
  /-- A template cannot be filled in, or a value in a text cannot be written. -/
  | template (flaw : TemplateFlaw)
  /-- A whole number is too large to be taken for one that need not be whole. -/
  | hugeNumber
  /-- The time of a record cannot be written. -/
  | time (flaw : TimeFlaw)
  /-- A function supplied from outside failed. -/
  | raised (text : String)
  | isDirectory
  | fileExists
  | notDirectory
  | noSuchFile
  /-- The content of a file is no text. -/
  | notText (e : Text.Utf8Error)
  | nameTooLong
  | nullByte
  /-- Something to be stored contains itself. -/
  | circular
  /-- A text would be longer than any that can be held. -/
  | outOfMemory
  /-- A walk went deeper than any that is provided for. -/
  | exhausted
  deriving DecidableEq, Repr

def Matcher.Terminal.name : Matcher.Terminal → String
  | .pattern => "REGEX"
  | .typeName => "TYPE_NAME"
  | .comma => "COMMA"
  | .finish => "$END"

/-- The first line of the explanation of a mismatch. -/
def Matcher.Mismatch.message : Matcher.Mismatch → String
  | .word terminal text place _ =>
    "Unexpected token Token(" ++ Text.quote terminal.name ++ ", " ++
      Text.quote (String.ofList text) ++ ") at line " ++ toString place.line ++ ", column " ++
      toString place.column ++ "."
  | .char c place _ =>
    "No terminal matches '" ++ String.ofList [c] ++ "' in the current parser context, at line " ++
      toString place.line ++ " col " ++ toString place.column

/-- The explanation of a pattern that is well formed and still refused. -/
def Pattern.Failure.reason : Pattern.Failure → String
  | .hugeRepeat => "the repetition number is too large"
  | .longNumber digits =>
    "Exceeds the limit (4300 digits) for integer string conversion: value has " ++
      toString digits ++ " digits; use sys.set_int_max_str_digits() to increase the limit"
  | .flagClash => "ASCII and UNICODE flags are incompatible"
  | .malformed flaw _ => flaw.message

/-- The explanation of a pattern that cannot be used, with the place of a flaw. -/
def Pattern.Failure.explain (source : List Char) : Pattern.Failure → String
  | .malformed flaw position => flaw.explain position source
  | other => other.reason

/-- The wording of a fault. Faults that are told apart by their kind alone have none. -/
def Fault.message : Fault → String
  | .argument complaint _ => complaint.message
  | .neverEntered key =>
    "expected \"state.inside\" to be an object when removing " ++ Text.quote key
  | .expression _ mismatch => "Invalid matcher expression: " ++ mismatch.message
  | .malformedPattern _ source flaw position =>
    "Invalid regex /" ++ String.ofList source ++ "/: " ++ flaw.explain position source
  | .refusedPattern reason => "Error trying to process rule \"REGEX\":\n\n" ++ reason.reason
  | .unusablePattern source reason => Pattern.Failure.explain source.toList reason
  | .notSettings typeName => "Expected NodeUtilsConfig, got " ++ typeName
  | .settingsFile reason _ => reason
  | .noSuchField name => "\"NodeUtilsConfig\" object has no field " ++ "\"" ++ name ++ "\""
  | .missingKey key => key
  | .missingIndex empty => if empty then "pop from empty list" else "pop index out of range"
  | .notPair size =>
    if size < 2 then
      "not enough values to unpack (expected 2, got " ++ toString size ++ ")"
    else "too many values to unpack (expected 2)"
  | .reservedRecordField => "\"Attempt to overwrite 'importance' in LogRecord\""
  | .unknownLevel name => "Unknown level: " ++ Text.quote name
  | .formatStyle format => "Invalid format '" ++ format ++ "' for '%' style"
  | .formatField name => "Formatting field not found in record: " ++ name
  | .template flaw => flaw.message
  | .time flaw => flaw.message
  | .hugeNumber => "int too large to convert to float"
  | .raised text => text
  | .nullByte => "embedded null byte"
  | .circular => "Circular reference detected"
  | .notText e => e.message
  | .invalidSettings _ | .missingAttribute | .unsupported | .isDirectory
  | .fileExists | .notDirectory | .noSuchFile | .nameTooLong | .outOfMemory | .exhausted => ""

end TagTree
