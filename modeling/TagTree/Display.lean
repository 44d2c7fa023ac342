import TagTree.Attribute
import TagTree.Decimal.Shortest
import TagTree.Equality
import TagTree.Text.Integer

/-!
# Texts of values

How values are written inside messages and texts. Collections show their items, nodes their type and
payload, and abilities whose they are; a collection that contains itself is cut short where it comes
up again. Not everything can be written: a number can be too long, a node can lack what it shows.
-/

namespace TagTree

/-- How deep a walk over objects may go. -/
def walkDepth : Nat := 100000

namespace Heap

/-- Texts one after the other with a separator between them. -/
def joinTexts (separator : String) : List String → String
  | [] => ""
  | [text] => text
  | text :: rest => text ++ separator ++ joinTexts separator rest

/-- The written forms of a collection, given those of its items. -/
def tupleText : List String → String
  | [item] => "(" ++ item ++ ",)"
  | items => "(" ++ joinTexts ", " items ++ ")"

def setText (frozen : Bool) (items : List String) : String :=
  let braces := "\x7b" ++ joinTexts ", " items ++ "\x7d"
  match frozen, items.isEmpty with
  | false, true => "set()"
  | false, false => braces
  | true, true => "frozenset()"
  | true, false => "frozenset(" ++ braces ++ ")"

/-- The number of items of something that has items. -/
def size? (h : Heap) : Value → Option Nat
  | .str s => some s.length
  | v =>
    match h.object? v with
    | some (.list items) | some (.tuple items) | some (.set _ items) => some items.length
    | some (.dict entries) => some entries.length
    | _ => none

/-- A whole number, unless it has more digits than are written. -/
def intText (n : Int) : Except Fault String :=
  if Text.digitLimit < Decimal.digitCount n.natAbs then .error (.template .longNumber)
  else .ok (toString n)

def makerText : Maker → String
  | .smart => "<class 'node_utils.node.models.Node'>"
  | .plain => "<class 'node_utils.node.models.PlainNode'>"
  | .nesting => "<class 'node_utils.node.models.NestingState'>"
  | .settings => "<class 'node_utils.core.config.NodeUtilsConfig'>"

/-- The written form of a pattern, of whose source only so much is shown. -/
def patternText (p : Pattern) : String :=
  let source := String.ofList ((Text.quote p.source).toList.take 200)
  let options := joinTexts "|" (p.options.map ("re." ++ ·))
  "re.compile(" ++ source ++ (if options.isEmpty then "" else ", " ++ options) ++ ")"

/-- The attributes of an entity, each written with its name in front. -/
def attrsText (separator : String) (literal : Value → Except Fault String) (attrs : Table Value) :
    Except Fault String := do
  let texts ← attrs.mapM fun (name, v) ↦ return name ++ "=" ++ (← literal v)
  return joinTexts separator texts

/-- The number of children that the written form of a smart node shows. -/
def childCount (h : Heap) (e : Entity) : Except Fault String :=
  match Table.get? e.attrs "nodes" with
  | none => .error .missingAttribute
  | some .null => .ok "None"
  | some nodes =>
    match h.size? nodes with
    | some n => .ok (toString n)
    | none => .error .unsupported

/-- An attribute of an entity, written out. -/
def attrText (literal : Value → Except Fault String) (e : Entity) (name : String) :
    Except Fault String :=
  match Table.get? e.attrs name with
  | some v => literal v
  | none => .error .missingAttribute

/-- The written form of an entity, given those of values. -/
def entityText (h : Heap) (literal : Value → Except Fault String) (e : Entity) :
    Except Fault String :=
  match e.kind with
  | .smart => do
    let count ← h.childCount e
    let type ← attrText literal e "type"
    let value ← attrText literal e "value"
    return "Node(type=" ++ type ++ ", value=" ++ value ++ ", nodes=" ++ count ++ ")"
  | .plain => do
    let type ← attrText literal e "type"
    let value ← attrText literal e "value"
    return "PlainNode(type=" ++ type ++ ", value=" ++ value ++ ")"
  | .record => do return "namespace(" ++ (← attrsText ", " literal e.attrs) ++ ")"
  | .nesting => do
    let inside ← literal ((Table.get? e.attrs "inside").getD .null)
    return "NestingState(inside=" ++ inside ++ ")"
  | .settings => do
    return "NodeUtilsConfig(" ++ (← attrsText ", " literal (Settings.fieldsOf e.attrs)) ++ ")"
  | .slot => .ok "<SlotState>"
  | .sealed => .ok "<SlotOther>"
  | .bare => .ok "<object>"
  | .handler _ => .ok "<function>"
  | .ability callee => literal callee

/-- What stands for an object inside itself. -/
def cycleText : Object → String
  | .list _ => "[...]"
  | .tuple _ => "(...)"
  | .dict _ => "\x7b...\x7d"
  | .set _ _ => "set(...)"
  | .entity ⟨.record, _, _⟩ => "namespace(...)"
  | .entity _ => "..."

/-- Whether an object is cut short where it comes up inside itself. -/
def cutsCycles : Object → Bool
  | .entity ⟨.smart, _, _⟩ | .entity ⟨.plain, _, _⟩ => false
  | _ => true

/-- The written form of a value inside other values; `above` are the objects being written. -/
def literalFrom (h : Heap) : Nat → List Addr → Value → Except Fault String
  | 0, _, _ => .error .exhausted
  | fuel + 1, above, v =>
    match v with
    | .null => .ok "None"
    | .bool b => .ok (if b then "True" else "False")
    | .int n => intText n
    | .float x => .ok (Decimal.render x)
    | .str s => .ok (Text.quote s)
    | .pattern p => .ok (patternText p)
    | .maker m => .ok (makerText m)
    | .callback _ | .unbound _ => .ok "<function>"
    | .method a m =>
      if m.isListMethod then .ok ("<built-in method " ++ m.name ++ " of list object>")
      else do
        let self ← h.literalFrom fuel above (.ref a)
        return "<bound method Node." ++ m.name ++ " of " ++ self ++ ">"
    | .loader => .ok ("<bound method Node.from_dict of " ++ makerText .smart ++ ">")
    | .inert typeName => .ok ("<" ++ typeName ++ ">")
    | .ref a =>
      match h.get? a with
      | none => .ok "None"
      | some o =>
        if a ∈ above && cutsCycles o then .ok (cycleText o)
        else
          let literal := h.literalFrom fuel (a :: above)
          match o with
          | .list items => do return "[" ++ joinTexts ", " (← items.mapM literal) ++ "]"
          | .tuple items => do return tupleText (← items.mapM literal)
          | .set frozen items => do return setText frozen (← items.mapM literal)
          | .dict entries => do
            let texts ← entries.mapM fun (k, v) ↦ return (← literal k) ++ ": " ++ (← literal v)
            return "\x7b" ++ joinTexts ", " texts ++ "\x7d"
          | .entity e => h.entityText literal e

/-- The written form of a value inside other values and in messages. -/
def literal (h : Heap) (v : Value) : Except Fault String :=
  h.literalFrom walkDepth [] v

/-- The text of a value: a text is its own text. -/
def text (h : Heap) (v : Value) : Except Fault String :=
  match v with
  | .str s => .ok s
  | _ =>
    match h.entity? v with
    | some ⟨.settings, attrs, _⟩ => attrsText " " h.literal (Settings.fieldsOf attrs)
    | _ => h.literal v

end Heap

namespace Op

variable {σ : Type}

def literal (v : Value) : Op σ String := do
  fromExcept ((← heap).literal v)

def text (v : Value) : Op σ String := do
  fromExcept ((← heap).text v)

end Op

end TagTree
