import TagTree.Table
import TagTree.Text.Blank
import TagTree.Text.Quoted
import TagTree.Text.Upper

/-!
# Settings

The four settings of the library and when they are acceptable. Types of sentinel nodes end in one of
two suffixes, each a full stop with something behind it, and the two differ; the level of the log is
one of five names, which are accepted in any case and with blanks around them.
-/

namespace TagTree

/-- Acceptable settings, or at least of the right types. -/
structure Settings where
  openSuffix : String := ".open"
  closeSuffix : String := ".close"
  joinSeparator : String := ","
  logLevel : String := "WARNING"
  deriving DecidableEq, Repr, Inhabited

namespace Settings

/-- The names of the fields, in order. -/
def fieldNames : List String :=
  ["open_suffix", "close_suffix", "join_separator", "log_level"]

/-- What is wrong with a field. -/
inductive Problem
  | notText
  | suffix (text : String)
  | level (text : String)
  | sameSuffixes
  | unknownField
  deriving DecidableEq, Repr

/-- A problem, and the field it is about; the settings as a whole if there is none. -/
structure Issue where
  field : Option String
  problem : Problem
  deriving DecidableEq, Repr

/-- The kind of a problem, as it is reported. -/
def Problem.kind : Problem → String
  | .notText => "string_type"
  | .suffix _ | .level _ | .sameSuffixes => "value_error"
  | .unknownField => "extra_forbidden"

def Problem.message : Problem → String
  | .notText => "Input should be a valid string"
  | .suffix text =>
    "Value error, Suffix must start with '.' and be non-empty: " ++ Text.quote text
  | .level text => "Value error, Invalid log level: " ++ text
  | .sameSuffixes => "Value error, open_suffix and close_suffix must differ"
  | .unknownField => "Extra inputs are not permitted"

/-- The names of the levels that can be set. -/
def levelNames : List String :=
  ["DEBUG", "INFO", "WARNING", "ERROR", "CRITICAL"]

/-- A suffix is a full stop with at least one character behind it. -/
def isSuffix (text : String) : Bool :=
  match text.toList with
  | '.' :: _ :: _ => true
  | _ => false

def checkSuffix (text : String) : Except Problem String :=
  if isSuffix text then .ok text else .error (.suffix text)

/-- Accepts a level name in any case, with blanks around it. -/
def checkLevel (text : String) : Except Problem String :=
  let name := Text.upper (Text.trim text)
  if name ∈ levelNames then .ok name else .error (.level text)

/-- Field values as they are given: a text, or something else. -/
abbrev Given := Table (Option String)

/-- Checks one field; a missing one takes its default. -/
def checkField (given : Given) (name default : String)
    (check : String → Except Problem String) : Except Issue String :=
  match Table.get? given name with
  | none => .ok default
  | some none => .error ⟨some name, .notText⟩
  | some (some text) =>
    match check text with
    | .ok accepted => .ok accepted
    | .error problem => .error ⟨some name, problem⟩

/-- The issue of a check that failed. -/
def issueOf {α : Type} : Except Issue α → List Issue
  | .ok _ => []
  | .error issue => [issue]

/-- Names that are no fields, in the order in which they are given. -/
def unknownFields (given : Given) : List Issue :=
  (given.filter fun entry ↦ !fieldNames.contains entry.1).map fun entry ↦
    ⟨some entry.1, .unknownField⟩

/-- Accepts settings or lists what is wrong with them: field by field, then unknown names. That the
suffixes differ is looked at only if nothing else is wrong. -/
def check (given : Given) : Except (List Issue) Settings :=
  let defaults : Settings := {}
  let openSuffix := checkField given "open_suffix" defaults.openSuffix checkSuffix
  let closeSuffix := checkField given "close_suffix" defaults.closeSuffix checkSuffix
  let joinSeparator := checkField given "join_separator" defaults.joinSeparator .ok
  let logLevel := checkField given "log_level" defaults.logLevel checkLevel
  match openSuffix, closeSuffix, joinSeparator, logLevel, unknownFields given with
  | .ok o, .ok c, .ok j, .ok l, [] =>
    if o = c then .error [⟨none, .sameSuffixes⟩] else .ok ⟨o, c, j, l⟩
  | _, _, _, _, unknown =>
    .error (issueOf openSuffix ++ issueOf closeSuffix ++ issueOf joinSeparator ++
      issueOf logLevel ++ unknown)

/-- The fields with their values, in order. -/
def toTable (s : Settings) : Table String :=
  [("open_suffix", s.openSuffix), ("close_suffix", s.closeSuffix),
   ("join_separator", s.joinSeparator), ("log_level", s.logLevel)]

/-- The name of a field in a report; one with a full stop in it is marked off. -/
def reportedName (name : String) : String :=
  if name.toList.contains '.' then "`" ++ name ++ "`" else name

/-- The report on settings that were not accepted: a count, then each issue on lines of its own. -/
def report (issues : List Issue) : String :=
  let count :=
    toString issues.length ++ " validation error" ++ (if issues.length = 1 then "" else "s") ++
      " for NodeUtilsConfig"
  issues.foldl
    (fun text issue ↦
      let field :=
        match issue.field with
        | some name => "\n" ++ reportedName name
        | none => ""
      text ++ field ++ "\n  " ++ issue.problem.message ++ " [type=" ++ issue.problem.kind ++ "]")
    count

end Settings

end TagTree
