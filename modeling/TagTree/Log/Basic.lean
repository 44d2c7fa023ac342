import TagTree.Text.Blank
import TagTree.Text.Line
import TagTree.Text.Upper

/-!
# The log

Every record of the log has a level, which is a number, and an importance between zero and ten. The
library's own loggers share one root logger; its handlers write the records that reach its level.
-/

namespace TagTree

/-- Something that receives records. -/
inductive Handler
  /-- Writes records in the library's own format. -/
  | unified
  /-- Attached by somebody else. -/
  | foreign (id : Nat)
  deriving DecidableEq, Repr

/-- How records are made: plainly, or by another way with the importance filled in afterwards. -/
inductive RecordMaker
  | plain
  | withImportance (inner : RecordMaker)
  deriving DecidableEq, Repr

/-- The state of the root logger. -/
structure Log where
  /-- The least level that is written; zero leaves the choice to the default. -/
  level : Int := 0
  handlers : List Handler := []
  maker : RecordMaker := .plain
  /-- The lines written so far, without their time stamps. -/
  lines : List String := []
  deriving DecidableEq, Repr, Inhabited

namespace Log

/-- The name of the root logger. -/
def rootName : String := "node_utils"

/-- The level in force where none is set. -/
def defaultLevel : Int := 30

/-- The level of a name. -/
def levelNumber? : String → Option Nat
  | "CRITICAL" | "FATAL" => some 50
  | "ERROR" => some 40
  | "WARNING" | "WARN" => some 30
  | "INFO" => some 20
  | "DEBUG" => some 10
  | "NOTSET" => some 0
  | _ => none

/-- The name of a level that has one. -/
def levelName? (level : Int) : Option String :=
  if level = 50 then some "CRITICAL"
  else if level = 40 then some "ERROR"
  else if level = 30 then some "WARNING"
  else if level = 20 then some "INFO"
  else if level = 10 then some "DEBUG"
  else if level = 0 then some "NOTSET"
  else none

/-- The name of a level that has none of its own. -/
def numberedLevel (level : String) : String :=
  "Level " ++ level

/-- The name of a level. -/
def levelName (level : Int) : String :=
  (levelName? level).getD (numberedLevel (toString level))

/-- The importance that goes with the exact name of a level. -/
def importanceOfName : String → Nat
  | "DEBUG" => 2
  | "INFO" => 4
  | "WARNING" => 6
  | "ERROR" => 8
  | "CRITICAL" => 10
  | _ => 4

/-- The importance of a record that carries none, by the name of its level. -/
def importance (levelName : String) : Nat :=
  importanceOfName (Text.upper (Text.trim levelName))

/-- Whether a logger passes its records on to the root logger. -/
def reachesRoot (logger : String) : Bool :=
  logger == rootName || (rootName ++ ".").toList.isPrefixOf logger.toList

/-- The level from which on a logger takes records. -/
def effectiveLevel (log : Log) (logger : String) : Int :=
  if reachesRoot logger && log.level != 0 then log.level else defaultLevel

def isEnabled (log : Log) (logger : String) (level : Int) : Bool :=
  log.effectiveLevel logger ≤ level

/-- Whether records get their importance when they are made. -/
def RecordMaker.givesImportance : RecordMaker → Bool
  | .plain => false
  | .withImportance _ => true

/-- Makes records carry an importance from now on; done once, it changes nothing any more. -/
def installMaker (log : Log) : Log :=
  if RecordMaker.givesImportance log.maker then log
  else { log with maker := .withImportance log.maker }

/-- Blanks behind a text up to a width. -/
def padRight (width : Nat) (text : String) : String :=
  text ++ String.ofList (List.replicate (width - text.length) ' ')

/-- What is written for a record behind its time stamp. -/
def recordText (level importance logger message : String) : String :=
  padRight 8 level ++ " | " ++ importance ++ " | " ++ logger ++ " | " ++ message

/-- The lines of a text. -/
def textLines (text : String) : List String :=
  (Text.splitLines text.toList).map String.ofList

/-- Writes a record once for each handler of the library's own. -/
def write (log : Log) (text : String) : Log :=
  log.handlers.foldl
    (fun log handler ↦
      match handler with
      | .unified => { log with lines := log.lines ++ textLines text }
      | .foreign _ => log)
    log

/-- Logs a message of one of the library's loggers. -/
def message (log : Log) (logger : String) (level : Int) (text : String) : Log :=
  if log.isEnabled logger level && reachesRoot logger then
    let name := levelName level
    log.write (recordText name (toString (importance name)) logger text)
  else log

/-- Attaches a handler of the library's own in place of an earlier one. -/
def replaceHandler (log : Log) : Log :=
  { log with handlers := log.handlers.filter (· != .unified) ++ [.unified] }

end Log

end TagTree
