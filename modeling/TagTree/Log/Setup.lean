import TagTree.Collection
import TagTree.Settings.Active

/-!
# Setting up the log

Attaching the library's own handler to the root logger. Doing it again replaces the handler and
sets the level anew.
-/

namespace TagTree.Op

variable {σ : Type}

/-- The level to be set: the one asked for, or the configured one, in capitals. -/
def requestedLevel (call : Caller σ) (level : Value) : Op σ Value := do
  if (← heap).truthy level then upper call level else upper call (← setting "log_level")

/-- The number of a level that is given by its name or as a number. -/
def levelNumber : Value → Except Fault Int
  | .str name =>
    match Log.levelNumber? name with
    | some number => .ok number
    | none => .error (.unknownLevel name)
  | level =>
    match level.toInt? with
    | some number => .ok number
    | none => .error .unsupported

/-- Makes records carry an importance. -/
def installRecordMaker : Op σ Unit :=
  modify fun w ↦ { w with log := w.log.installMaker }

/-- Attaches the library's handler in place of an earlier one and sets the level, which is returned.
A level that is not known is refused after the handler was attached. -/
def setupLog (call : Caller σ) (level : Value) : Op σ Value := do
  let requested ← requestedLevel call level
  installRecordMaker
  modify fun w ↦ { w with log := w.log.replaceHandler }
  let number ← fromExcept (levelNumber requested)
  modify fun w ↦ { w with log := { w.log with level := number } }
  return .int number

/-- The importance of a level name. -/
def importanceOf (call : Caller σ) (level : Value) : Op σ Value := do
  let level := if (← heap).truthy level then level else .str ""
  match ← upper call (← trimmed call level) with
  | .str name => return .int (Log.importanceOfName name)
  | v =>
    if !(← heap).hashable walkDepth v then throw .unsupported
    return .int (Log.importanceOfName "")

end TagTree.Op
