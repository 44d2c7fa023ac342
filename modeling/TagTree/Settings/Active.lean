import TagTree.Attribute
import TagTree.Settings.Dump

/-!
# The configuration in force

A configuration is an object with the four settings as attributes. One of them can be in force; as
long as none is, the default settings apply.
-/

namespace TagTree

/-- The attributes of a configuration with the given settings. -/
def Settings.toAttrs (s : Settings) : Table Value :=
  s.toTable.map fun (name, text) ↦ (name, .str text)

/-- The attributes of the configuration in force. -/
def World.settings {σ : Type} (w : World σ) : Table Value :=
  match w.active with
  | none => Settings.toAttrs {}
  | some a => ((w.heap.entity? (.ref a)).map (·.attrs)).getD []

namespace Op

variable {σ : Type}

/-- A setting in force. -/
def setting (name : String) : Op σ Value := do
  match Table.get? (← get).settings name with
  | some v => return v
  | none => throw .missingAttribute

def openSuffix : Op σ Value := setting "open_suffix"

def closeSuffix : Op σ Value := setting "close_suffix"

/-- Makes a configuration. -/
def newConfiguration (s : Settings) : Op σ Value :=
  new (.entity ⟨.settings, s.toAttrs, .absent⟩)

/-- Field values as they are given to a configuration. -/
def givenFields (named : Table Value) : Settings.Given :=
  named.map fun (name, v) ↦
    (name, match v with
      | .str s => some s
      | _ => none)

/-- Makes a configuration from named values, if they are acceptable. -/
def makeConfiguration (named : Table Value) : Op σ Value := do
  match Settings.check (givenFields named) with
  | .ok s => newConfiguration s
  | .error issues => throw (.invalidSettings issues)

/-- The configuration in force, which is made now if there is none. -/
def currentConfiguration : Op σ Value := do
  match (← get).active with
  | some a => return .ref a
  | none =>
    let h ← heap
    let made ← newConfiguration {}
    modify fun w ↦ { w with active := some h.fresh }
    return made

/-- The configuration at an address, if a value is one. -/
def configuration? (h : Heap) (v : Value) : Option (Addr × Entity) :=
  match v, h.entity? v with
  | .ref a, some e => if e.kind = .settings then some (a, e) else none
  | _, _ => none

/-- The fields of a configuration, written out. -/
def fieldsText (e : Entity) : Op σ String := do
  let fields ← dumpFields e.attrs
  let texts ← fields.mapM fun (name, v) ↦ return Text.quote name ++ ": " ++ (← literal v)
  return "\x7b" ++ Heap.joinTexts ", " texts ++ "\x7d"

def configurationLogger : String := "node_utils.core.config"

/-- Puts a configuration in force. -/
def activate (v : Value) : Op σ Value := do
  let h ← heap
  match configuration? h v with
  | none => throw (.notSettings (h.typeName v))
  | some (a, e) =>
    modify fun w ↦ { w with active := some a }
    debug configurationLogger ("Active configuration replaced: " ++ (← fieldsText e))
    return v

/-- Returns to the default settings. -/
def resetConfiguration : Op σ Unit :=
  modify fun w ↦ { w with active := none }

end Op

end TagTree
