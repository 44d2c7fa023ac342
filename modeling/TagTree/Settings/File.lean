import TagTree.Collection
import TagTree.Json.Reader
import TagTree.Json.Writer
import TagTree.Settings.Active
import TagTree.Text.Utf8

/-!
# Settings in files

Settings are stored as a JSON object in a UTF-8 text file. A file that does not hold acceptable
settings is reported with the first reason that is met: it is missing, no text, no JSON, no object,
or some setting is not acceptable.
-/

namespace TagTree.Settings

/-- Why a file holds no acceptable settings. -/
inductive FileProblem
  | missing
  | notText (e : Text.Utf8Error)
  | notJson (e : Json.ReadError)
  | notObject
  | unacceptable (issues : List Issue)
  deriving DecidableEq, Repr

/-- The wording of a problem with the file at the written path. -/
def FileProblem.message (path : String) : FileProblem → String
  | .missing => "Configuration file not found: " ++ path
  | .notText e => "Validation error: " ++ e.message
  | .notJson e =>
    if e.offence.isGrammatical then "Invalid JSON: " ++ e.message
    else "Validation error: " ++ e.offence.message
  | .notObject => "Configuration root must be a JSON object"
  | .unacceptable issues => "Validation error: " ++ report issues

/-- Field values as a document gives them. -/
def givenMembers (members : List (String × Json)) : Given :=
  members.map fun (name, v) ↦
    (name, match v with
      | .str s => some s
      | _ => none)

/-- The settings in the content of a file. -/
def ofBytes (bytes : List Nat) : Except FileProblem Settings :=
  match Text.decodeUtf8 bytes with
  | .error e => .error (.notText e)
  | .ok cs =>
    match Json.parse (Text.uniformLineEnds cs) with
    | .error e => .error (.notJson e)
    | .ok (.obj members) =>
      match check (givenMembers members) with
      | .ok s => .ok s
      | .error issues => .error (.unacceptable issues)
    | .ok _ => .error .notObject

end TagTree.Settings

namespace TagTree.Op

open Settings

variable {σ : Type}

/-- The written form of the root of the file tree. -/
def rootPath : String := "<tmp>"

/-- The written form of a path. -/
def pathText (path : String) : String :=
  (Location.ofText path).text rootPath

/-- Does something with the files. -/
def onFiles {α : Type} (op : FileOp α) : Op σ α := fun w ↦
  match op w.files with
  | .ok a files => .ok a { w with files }
  | .error fault files => .error (.ofFileFault fault) { w with files }

/-- Continues with a result about files or fails with its fault. -/
def fromFiles {α : Type} (e : Except FileFault α) : Op σ α :=
  fromExcept (e.mapError .ofFileFault)

/-- The settings in a file, or what is wrong with it. A directory in place of the file is a
fault. -/
def settingsIn (path : String) : Op σ (Except FileProblem Settings) := do
  let files := (← get).files
  let location := Location.ofText path
  if !(← fromFiles (files.contains location)) then return .error .missing
  return ofBytes (← fromFiles (files.read location))

/-- Whether a file holds acceptable settings; the reason if not, and a new configuration if so. -/
def validateFile (path : String) : Op σ (Except String Value) := do
  match ← settingsIn path with
  | .ok s => return .ok (← newConfiguration s)
  | .error problem => return .error (problem.message (pathText path))

/-- Makes a configuration from the settings in a file and puts it in force if that is asked for. -/
def loadFile (path : String) (activating : Bool) : Op σ Value := do
  match ← validateFile path with
  | .error reason => throw (.settingsFile reason (pathText path))
  | .ok made =>
    debug configurationLogger ("Loaded configuration from " ++ pathText path)
    if activating then
      let _ ← activate made
    return made

/-! ## Storing settings -/

/-- The name of a member under which a key of a mapping is stored. -/
def memberName? : Value → Option String
  | .str s => some s
  | .float x => some (String.ofList (Json.writeFloat x))
  | .bool b => some (if b then "true" else "false")
  | .null => some "null"
  | .int n => some (toString n)
  | _ => none

/-- The document of a value that has one, or why it has none; `above` are the objects whose
document it is to be part of. -/
def documentOf (h : Heap) : Nat → List Value → Value → Except Fault Json
  | 0, _, _ => .error .exhausted
  | fuel + 1, above, v =>
    match v with
    | .null => .ok .null
    | .bool b => .ok (.bool b)
    | .int n => .ok (.int n)
    | .float x => .ok (.float x)
    | .str s => .ok (.str s)
    | _ =>
      if above.contains v then .error .circular
      else
        match h.object? v with
        | some (.list items) | some (.tuple items) =>
          (items.mapM (documentOf h fuel (v :: above))).map .arr
        | some (.dict entries) =>
          (entries.mapM fun (k, x) ↦
            match memberName? k with
            | some name => (documentOf h fuel (v :: above) x).map (name, ·)
            | none => .error .unsupported).map .obj
        | _ => .error .unsupported

mutual

/-- What is written at a depth of a value that has no document: everything in front of the first
part that has none. -/
def draft (h : Heap) : Nat → Nat → List Value → Value → List Char
  | 0, _, _, _ => []
  | fuel + 1, depth, above, v =>
    if above.contains v then []
    else
      match h.object? v with
      | some (.list items) | some (.tuple items) =>
        '[' :: draftItems h fuel (depth + 1) (v :: above) items
      | some (.dict entries) =>
        '\x7b' :: Json.lineBreak (depth + 1) ++
          draftMembers h fuel (depth + 1) (v :: above) entries
      | _ => []

/-- The same of items, each with a line break in front. -/
def draftItems (h : Heap) : Nat → Nat → List Value → List Value → List Char
  | 0, _, _, _ => []
  | _ + 1, _, _, [] => []
  | fuel + 1, depth, above, item :: rest =>
    Json.lineBreak depth ++
      match documentOf h fuel above item with
      | .ok j => j.indented depth ++ ',' :: draftItems h fuel depth above rest
      | .error _ => draft h fuel depth above item

/-- The same of entries. The name of an entry is looked at before the line break in front of it is
written. -/
def draftMembers (h : Heap) : Nat → Nat → List Value → List (Value × Value) → List Char
  | 0, _, _, _ => []
  | _ + 1, _, _, [] => []
  | fuel + 1, depth, above, (k, v) :: rest =>
    match memberName? k with
    | none => []
    | some name =>
      Json.writeText name.toList ++ ':' :: ' ' ::
        match documentOf h fuel above v with
        | .error _ => draft h fuel depth above v
        | .ok j =>
          j.indented depth ++
            match rest with
            | [] => []
            | (next, _) :: _ =>
              if (memberName? next).isSome then
                ',' :: Json.lineBreak depth ++ draftMembers h fuel depth above rest
              else []

end

/-- The mapping to be stored for a configuration. Something else in its place is asked for one. -/
def storedForm (call : Caller σ) (v : Value) : Op σ Value := do
  match configuration? (← heap) v with
  | some (_, e) =>
    let fields ← dumpFields e.attrs
    new (.dict (fields.map fun (name, x) ↦ (.str name, x)))
  | none => callAttr call v "model_dump" []

/-- Writes the settings of a configuration to a file, making the directories that lead to it. If
some field has no document, what comes before it is written nevertheless. -/
def saveFile (call : Caller σ) (v : Value) (path : String) : Op σ Unit := do
  let location := Location.ofText path
  onFiles (FileOp.prepare location)
  let stored ← storedForm call v
  let h ← heap
  match documentOf h walkDepth [] stored with
  | .ok j => onFiles (FileOp.write location (Text.encodeUtf8 (j.indented 0)))
  | .error fault =>
    onFiles (FileOp.write location (Text.encodeUtf8 (draft h walkDepth 0 [] stored)))
    throw fault

end TagTree.Op
