import TagTree.Log.Setup
import TagTree.Log.Template
import TagTree.Log.Time

/-!
# Records

A record has the name of a logger, a level, a message with arguments to be filled in, and an
importance. Formatters turn records into text, the library's own by default.
-/

namespace TagTree

/-- A record of the log. -/
structure Record where
  logger : String
  /-- The level: usually a number, or the name of one. -/
  level : Value
  /-- What is logged: usually a text, in which arguments are to be filled in. -/
  message : Value
  args : List Value := []
  /-- The importance that the record carries; null if it carries none. -/
  importance : Value := .null

namespace Record

/-- The arguments of a message: a single mapping that is not empty is asked by name. -/
def supply (h : Heap) (r : Record) : Template.Supply :=
  match r.args with
  | [single] =>
    match h.dict? single with
    | some (entry :: entries) => .named [single] ((entry :: entries).lookup ·)
    | _ => .positional r.args
  | _ => .positional r.args

/-- The message with its arguments filled in. Without arguments it stays as it is. -/
def text (h : Heap) (r : Record) : Except Fault String := do
  let message ← h.text r.message
  if r.args.isEmpty then return message else Template.fill h message (r.supply h)

/-- The name of the level of a record. If the level is itself the name of one, its number stands in
that place. -/
def levelName (h : Heap) (r : Record) : Except Fault Value := do
  if !h.hashable walkDepth r.level then .error .unsupported
  match r.level.wholeNumber?.bind Log.levelName?, r.level with
  | some name, _ => return .str name
  | none, .str name =>
    match Log.levelNumber? name with
    | some number => return .int number
    | none => return .str (Log.numberedLevel name)
  | none, level => return .str (Log.numberedLevel (← h.text level))

/-- The importance that is shown for a record. -/
def shownImportance (h : Heap) (r : Record) : Except Fault Value := do
  if r.importance ≠ .null then return r.importance
  match ← r.levelName h with
  | .str name => return .int (Log.importance name)
  | level => if h.truthy level then .error .missingAttribute else return .int (Log.importance "")

/-- The format of the library's own records. -/
def unifiedFormat : String :=
  "%(asctime)s | %(levelname)-8s | %(importance)s | %(name)s | %(message)s"

def unifiedDateFormat : String := Log.plainDateFormat

/-- The format that stands for an empty one. -/
def bareFormat : String := "%(message)s"

/-- The arguments as the record keeps them: a mapping by which they are asked, or all of them. -/
def keptArgs (h : Heap) (r : Record) : Heap × Value :=
  match r.args, (r.supply h).find? with
  | [single], some _ => (h, single)
  | args, _ => (h.add (.tuple args), .ref h.fresh)

/-- The fields of a record that a format can name, with its arguments as given. The place in the
program that records come from is not known and always the same. -/
def fields (r : Record) (args levelName importance created : Value) (message : String) :
    Table Value :=
  [("name", .str r.logger), ("msg", r.message), ("args", args),
   ("levelname", levelName), ("levelno", r.level),
   ("pathname", .str "f.py"), ("filename", .str "f.py"), ("module", .str "f"),
   ("exc_info", .null), ("exc_text", .null), ("stack_info", .null), ("lineno", .int 1),
   ("funcName", .null), ("created", created), ("msecs", .int 0),
   ("threadName", .str "MainThread"), ("processName", .str "MainProcess"),
   ("importance", importance), ("message", .str message)]

/-- The format for records that a value stands for: one that counts as false stands for the bare
one. -/
def formatText (h : Heap) (template : Value) : Except Fault String := do
  if !h.truthy template then return bareFormat
  match template with
  | .str s => if Template.hasNamedField s then return s else .error (.formatStyle s)
  | _ => .error .unsupported

/-- Whether a format shows the time of a record. -/
def showsTime : List Char → Bool
  | [] => false
  | c :: rest => "%(asctime)".toList.isPrefixOf (c :: rest) || showsTime rest

/-- The text of a record by a template for it and one for its time. -/
def format (h : Heap) (r : Record) (created template dateFormat : Value) :
    Except Fault String := do
  let levelName ← r.levelName h
  let template ← formatText h template
  let importance ← r.shownImportance h
  let message ← r.text h
  let (h, args) := r.keptArgs h
  let own := r.fields args levelName importance created message
  let table ←
    if showsTime template.toList then
      pure (own ++ [("asctime", .str (← Log.timeText h created dateFormat))])
    else pure own
  let find : Value → Option Value
    | .str name => Table.get? table name
    | _ => none
  let whole := Object.dict (table.map fun (name, v) ↦ (.str name, v))
  match Template.fill (h.add whole) template (.named [.ref h.fresh] find) with
  | .error (.missingKey name) => .error (.formatField name)
  | result => result

/-- What is written for a record behind its time stamp. -/
def line (h : Heap) (r : Record) : Except Fault String := do
  let message ← r.text h
  let importance ← h.text (← r.shownImportance h)
  return Log.recordText (← h.text (← r.levelName h)) importance r.logger message

end Record

namespace Op

variable {σ : Type}

/-- Logs a record. Records that carry an importance of their own clash with a record maker that
fills it in. A message that cannot be filled in is not written. -/
def logRecord (r : Record) (carriesImportance : Bool) : Op σ Unit := do
  let w ← get
  let some level := r.level.toInt? | throw .unsupported
  if w.log.isEnabled r.logger level then
    if carriesImportance && Log.RecordMaker.givesImportance w.log.maker then
      throw .reservedRecordField
    if Log.reachesRoot r.logger then
      match r.line w.heap with
      | .error _ => return ()
      | .ok line => modify fun w ↦ { w with log := w.log.write line }

end Op

end TagTree
