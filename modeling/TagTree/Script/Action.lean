import TagTree.Script.Evaluate

/-!
# Actions

What the actions of steps do with their arguments.
-/

namespace TagTree.Script

open Op Run

def ErrorClass.code : ErrorClass → Option String
  | .base => none
  | .argument => some "INVALID_ARGUMENT"
  | .nesting => some "NESTING_STATE_ERROR"
  | .matcher => some "MATCHER_PARSE_ERROR"
  | .configuration => some "CONFIGURATION_ERROR"

/-- The name of what an error is about. -/
def ErrorClass.about : ErrorClass → String
  | .base => "code"
  | .argument => "argument"
  | .nesting => "node_type"
  | .matcher => "expression"
  | .configuration => "config_key"

/-- The kinds of errors that an error is one of. -/
def ErrorClass.kinds : ErrorClass → List String
  | .argument => ["NodeUtilsError", "TypeError"]
  | .matcher => ["NodeUtilsError", "ValueError"]
  | .base | .nesting | .configuration => ["NodeUtilsError"]

/-- What an error made from the given arguments says of itself. -/
def describeError (c : ErrorClass) (args : List Value) (named : Table Value) : Run Value := do
  let signature := (Signature.required ["message"]).orNull [c.about, "details"]
  match ← fromExcept (signature.bind args named) with
  | [message, about, details] =>
    let details ← if (← heap).truthy details then pure details else new (.dict [])
    let kinds ← new (.list (c.kinds.map .str))
    let code : Value :=
      match c.code with
      | some code => .str code
      | none => about
    let own : List (Value × Value) := if c = .base then [] else [(.str c.about, about)]
    new (.dict ([(.str "str", .str (← text message)), (.str "message", message),
      (.str "code", code), (.str "details", details), (.str "is", kinds)] ++ own))
  | _ => throw .unsupported

/-- A record of the log with arguments. -/
def recordOf (m : Message) (args : List Value) (importance : Value) : Run Record := do
  let level ← ofDocument walkDepth m.level
  let message ← ofDocument walkDepth m.text
  return { logger := m.logger, level, message, args, importance }

/-- The importance that a step gives to a record; null if it gives none. -/
def importanceValue (call : Caller Session) (importance : Option Term) : Run Value :=
  match importance with
  | some t => eval call walkDepth t
  | none => return .null

/-- The formats for a record and for its time that are given by name. -/
def recordFormats (named : Table Value) : Run (Value × Value) := do
  if !named.all fun entry ↦ entry.1 == "fmt" || entry.1 == "datefmt" then throw .unsupported
  return ((Table.get? named "fmt").getD (.str Record.unifiedFormat),
    (Table.get? named "datefmt").getD (.str Record.unifiedDateFormat))

/-- What the log is like: its level, the number of handlers of either kind, and whether records get
an importance. -/
def logState : Run Value := do
  let log := (← get).log
  let own := (log.handlers.filter (· == .unified)).length
  new (.list [.int log.level, .int own, .int (log.handlers.length - own),
    .bool (Log.RecordMaker.givesImportance log.maker)])

/-- Requires that nothing is given. -/
def requireNone (args : List Value) (named : Table Value) : Run Unit := do
  if !args.isEmpty || !named.isEmpty then throw .unsupported

/-- Does what a step asks for with its arguments. -/
def runAction (call : Caller Session) (action : Action) (given : List Binding)
    (named : Table Value) : Run Value := do
  let args := given.map (·.value)
  match action, args with
  | .call f, _ => f.run call (← fromExcept (f.signature.bind args named))
  | .make m, _ => call (.maker m) args named
  | .record, _ =>
    requireNone args []
    new (.entity ⟨.record, named, .absent⟩)
  | .slot, _ =>
    requireNone args named
    new (.entity ⟨.slot, [], .absent⟩)
  | .sealed, _ =>
    requireNone args named
    new (.entity ⟨.sealed, [], .absent⟩)
  | .load, [data] => call .loader [data] []
  | .literal, [v] => return .str (← literal v)
  | .value, [v] => return v
  | .method name, v :: rest => call (← getAttr v name) rest named
  | .apply, f :: rest => call f rest named
  | .get name, [v] => do takeOff (← getAttr v name)
  | .set name, [v, x] =>
    setAttr v name x
    return .null
  | .delete name, [v] =>
    deleteAttr v name
    return .null
  | .same, _ =>
    match given with
    | [b, c] => return .bool (b.same (← heap) c)
    | _ => throw .unsupported
  | .drop name, _ =>
    forget name
    return .null
  | .putFile path bytes, _ =>
    let location := Location.ofText path
    onFiles (FileOp.prepare location)
    onFiles (FileOp.write location bytes)
    return .null
  | .fileText path, _ =>
    let bytes ← fromFiles ((← get).files.read (Location.ofText path))
    match Text.decodeUtf8 bytes with
    | .ok cs => return .str (String.ofList (Text.uniformLineEnds cs))
    | .error e => throw (.notText e)
  | .validateFile path, _ =>
    match ← validateFile path with
    | .ok made => new (.tuple [.bool true, .null, made])
    | .error reason => new (.tuple [.bool false, .str reason, .null])
  | .loadFile path, _ =>
    if !named.all fun entry ↦ entry.1 == "activate" then throw .unsupported
    let activating := (Table.get? named "activate").getD (.bool false)
    loadFile path ((← heap).truthy activating)
  | .saveFile path, [v] =>
    saveFile call v path
    return .null
  | .setupLog, _ => setupLog call (args.head?.getD .null)
  | .logState, _ => logState
  | .addHandler, _ =>
    modify fun w ↦
      { w with
        log := { w.log with handlers := w.log.handlers ++ [.foreign w.log.handlers.length] } }
    return .null
  | .log m importance, _ =>
    logRecord (← recordOf m args (← importanceValue call importance)) importance.isSome
    return .null
  | .makeRecord m, _ =>
    if Log.RecordMaker.givesImportance (← get).log.maker then
      fromExcept ((← recordOf m args .null).shownImportance (← heap))
    else
      let _ ← fromExcept ((← recordOf m args .null).levelName (← heap))
      return .str "missing"
  | .formatRecord m created importance, _ =>
    let record ← recordOf m args (← importanceValue call importance)
    let created ← eval call walkDepth created
    let (template, dateFormat) ← recordFormats named
    return .str (← fromExcept (record.format (← heap) created template dateFormat))
  | .error c, _ => describeError c args named
  | _, _ => throw .unsupported

end TagTree.Script
