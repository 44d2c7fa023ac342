import TagTree.Attribute
import TagTree.Display

/-!
# Lists, mappings and texts in use

The operations on lists, mappings and texts that the library needs of values of any kind. Where
something else takes the place of a list, a mapping or a text, the operation is asked of it by name.
-/

namespace TagTree.Op

variable {σ : Type}

/-- Calls the attribute of a value. -/
def callAttr (call : Caller σ) (v : Value) (name : String) (args : List Value) : Op σ Value := do
  call (← getAttr v name) args []

/-- The number of items. -/
def size (v : Value) : Op σ Nat := do
  match (← heap).size? v with
  | some n => return n
  | none => throw .unsupported

/-- The items met when going through a value. -/
def iterate (v : Value) : Op σ (List Value) := do
  match v with
  | .str s => return s.toList.map fun c ↦ .str (String.ofList [c])
  | _ =>
    match (← heap).object? v with
    | some (.list items) | some (.tuple items) | some (.set _ items) => return items
    | some (.dict entries) => return entries.map Prod.fst
    | _ => throw .unsupported

/-- The item at an index, as the list or tuple is now. -/
def itemAt? (v : Value) (index : Nat) : Op σ (Option Value) := do
  return ((← heap).sequence? v).bind (·[index]?)

/-- Adds an item at the end. -/
def append (call : Caller σ) (v item : Value) : Op σ Unit := do
  match v, (← heap).list? v with
  | .ref a, some items => store a (.list (items ++ [item]))
  | _, _ => let _ ← callAttr call v "append" [item]

/-- Adds an item at the front. -/
def prepend (call : Caller σ) (v item : Value) : Op σ Unit := do
  match v, (← heap).list? v with
  | .ref a, some items => store a (.list (item :: items))
  | _, _ => let _ ← callAttr call v "insert" [.int 0, item]

/-- Removes and returns the last item of a list that has one. Of a set the first item is removed,
and a mapping has no last item. -/
def popLast (call : Caller σ) (v : Value) : Op σ Value := do
  match v, (← heap).object? v with
  | .ref a, some (.list items) =>
    store a (.list items.dropLast)
    return items.getLast?.getD .null
  | .ref a, some (.set false items) =>
    store a (.set false items.tail)
    return items.head?.getD .null
  | _, some (.dict _) => throw .unsupported
  | _, _ => callAttr call v "pop" []

/-- Removes and returns the item at an index of a list that has such an item. In a mapping the index
is a key, and the items of a set have no index. -/
def popAt (call : Caller σ) (v : Value) (index : Nat) : Op σ Value := do
  match v, (← heap).object? v with
  | .ref a, some (.list items) =>
    store a (.list (items.eraseIdx index))
    return items[index]?.getD .null
  | .ref a, some (.dict entries) =>
    let isKey (entry : Value × Value) : Bool := entry.1.wholeNumber? == some (index : Int)
    match entries.find? isKey with
    | none => throw (.missingKey (toString index))
    | some (_, found) =>
      store a (.dict (entries.filter fun entry ↦ !isKey entry))
      return found
  | _, some (.set false _) => throw .unsupported
  | _, _ => callAttr call v "pop" [.int index]

/-- The value of a key in a mapping, or null. -/
def lookup (call : Caller σ) (v : Value) (key : String) : Op σ Value := do
  match (← heap).dict? v with
  | some entries => return (entries.lookup (.str key)).getD .null
  | none => callAttr call v "get" [.str key]

/-- The value of a key in a mapping, which is a new empty list if the key had none. -/
def lookupOrAdd (call : Caller σ) (v : Value) (key : String) : Op σ Value := do
  match v, (← heap).dict? v with
  | .ref a, some entries =>
    match entries.lookup (.str key) with
    | some found => return found
    | none =>
      let stack ← new (.list [])
      store a (.dict (entries ++ [(.str key, stack)]))
      return stack
  | _, _ => callAttr call v "setdefault" [.str key, ← new (.list [])]

/-- A text in capitals. -/
def upper (call : Caller σ) (v : Value) : Op σ Value := do
  match v with
  | .str s => return .str (Text.upper s)
  | _ => callAttr call v "upper" []

/-- A text without the blanks at its ends. -/
def trimmed (call : Caller σ) (v : Value) : Op σ Value := do
  match v with
  | .str s => return .str (Text.trim s)
  | _ => callAttr call v "strip" []

/-- The two items of a pair. -/
def unpackPair (v : Value) : Op σ (Value × Value) := do
  match ← iterate v with
  | [first, second] => return (first, second)
  | items => throw (.notPair items.length)

end TagTree.Op
