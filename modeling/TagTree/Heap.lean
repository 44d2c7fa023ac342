import TagTree.Table
import TagTree.Value

/-!
# Heaps

Objects and where they live. An object is an *entity*, which has named attributes, or a collection.
The parent of a smart node is not an ordinary attribute: it is a link that does not keep the parent
alive, unless the parent is of a kind to which no such link can be made.
-/

namespace TagTree

/-- The kinds of objects that have attributes, or could have them. -/
inductive Kind
  /-- A node that brings its own tree-editing abilities. -/
  | smart
  /-- A node that is a bare record. -/
  | plain
  /-- A record with arbitrary attributes, and none of its own. -/
  | record
  /-- The stacks of entered nodes, one for each type name. -/
  | nesting
  /-- An object that can hold stacks of entered nodes and nothing else. -/
  | slot
  /-- An object that can hold nothing. -/
  | sealed
  /-- An opaque object. -/
  | bare
  /-- A configuration. -/
  | settings
  /-- A function that sends a fixed text to an output sink. -/
  | handler (text : Value)
  /-- An ability that was taken from its object, to be called later. -/
  | ability (callee : Value)
  deriving DecidableEq, Repr

/-- The link of a smart node to its parent. -/
inductive Link
  | absent
  | weak (a : Addr)
  | strong (v : Value)
  deriving DecidableEq, Repr

/-- An object with attributes. -/
structure Entity where
  kind : Kind
  attrs : Table Value := []
  /-- Only smart nodes have a link. -/
  parent : Link := .absent
  deriving DecidableEq, Repr

/-- An object. -/
inductive Object
  | entity (e : Entity)
  | list (items : List Value)
  | tuple (items : List Value)
  | set (frozen : Bool) (items : List Value)
  | dict (entries : List (Value × Value))
  deriving DecidableEq, Repr

/-- Objects by address; an address whose object was collected is empty. -/
structure Heap where
  cells : Array (Option Object) := #[]
  deriving DecidableEq, Repr, Inhabited

namespace Heap

def get? (h : Heap) (a : Addr) : Option Object :=
  h.cells[a]?.join

/-- Replaces the object at an address. -/
def put (h : Heap) (a : Addr) (o : Object) : Heap :=
  ⟨h.cells.setIfInBounds a (some o)⟩

/-- The address that the next object will get. -/
def fresh (h : Heap) : Addr :=
  h.cells.size

/-- Adds an object at the fresh address. -/
def add (h : Heap) (o : Object) : Heap :=
  ⟨h.cells.push (some o)⟩

/-- The object that a value refers to. -/
def object? (h : Heap) : Value → Option Object
  | .ref a => h.get? a
  | _ => none

def entity? (h : Heap) (v : Value) : Option Entity :=
  match h.object? v with
  | some (.entity e) => some e
  | _ => none

/-- The items of a list. -/
def list? (h : Heap) (v : Value) : Option (List Value) :=
  match h.object? v with
  | some (.list items) => some items
  | _ => none

/-- The items of a list or tuple. -/
def sequence? (h : Heap) (v : Value) : Option (List Value) :=
  match h.object? v with
  | some (.list items) => some items
  | some (.tuple items) => some items
  | _ => none

/-- The items of a list, tuple or set. -/
def collection? (h : Heap) (v : Value) : Option (List Value) :=
  match h.object? v with
  | some (.list items) => some items
  | some (.tuple items) => some items
  | some (.set _ items) => some items
  | _ => none

/-- The entries of a mapping. -/
def dict? (h : Heap) (v : Value) : Option (List (Value × Value)) :=
  match h.object? v with
  | some (.dict entries) => some entries
  | _ => none

/-- Whether a value counts as true: empty texts and collections, zeros and the null value do
not. -/
def truthy (h : Heap) : Value → Bool
  | .null => false
  | .bool b => b
  | .int n => n != 0
  | .float x => !x.isZero
  | .str s => !s.isEmpty
  | .ref a =>
    match h.get? a with
    | some (.list items) | some (.tuple items) | some (.set _ items) => !items.isEmpty
    | some (.dict entries) => !entries.isEmpty
    | _ => true
  | _ => true

/-! ## Small facts -/

theorem get?_put_self {h : Heap} {a : Addr} {o : Object} (live : a < h.fresh) :
    (h.put a o).get? a = some o := by
  simp only [fresh] at live
  simp [get?, put, live]

theorem get?_put_of_ne {h : Heap} {a b : Addr} (o : Object) (ne : b ≠ a) :
    (h.put a o).get? b = h.get? b := by
  simp [get?, put, Array.getElem?_setIfInBounds_ne (Ne.symm ne)]

@[simp]
theorem fresh_put (h : Heap) (a : Addr) (o : Object) : (h.put a o).fresh = h.fresh := by
  simp [fresh, put]

@[simp]
theorem fresh_add (h : Heap) (o : Object) : (h.add o).fresh = h.fresh + 1 := by
  simp [fresh, add]

@[simp]
theorem get?_add_fresh (h : Heap) (o : Object) : (h.add o).get? h.fresh = some o := by
  simp [get?, add, fresh]

theorem lt_fresh_of_get? {h : Heap} {a : Addr} {o : Object} (found : h.get? a = some o) :
    a < h.fresh := by
  simp only [get?, fresh] at *
  by_cases lt : a < h.cells.size
  · exact lt
  · simp [Array.getElem?_eq_none (Nat.le_of_not_lt lt)] at found

theorem get?_add_of_lt {h : Heap} {a : Addr} (o : Object) (lt : a < h.fresh) :
    (h.add o).get? a = h.get? a := by
  simp only [fresh] at lt
  simp [get?, add, Array.getElem?_push_lt lt, Array.getElem?_eq_getElem lt]

end Heap

end TagTree
