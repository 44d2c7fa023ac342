import TagTree.Decimal.Binary64
import TagTree.Pattern.Basic

/-!
# Values

What the attributes of objects hold and what operations take and return. Texts, numbers and search
patterns are values themselves; everything that can change or be shared is an object, to which a
value refers by its address.
-/

namespace TagTree

/-- The place of an object in a heap. -/
abbrev Addr := Nat

/-- The kinds of objects that can be made by calling their maker. -/
inductive Maker
  | smart
  | plain
  | nesting
  | settings
  deriving DecidableEq, Repr

/-- What can be done by calling something that belongs to an object: the tree-editing abilities of
a smart node, and the operations of a list. -/
inductive Method
  | define
  | push
  | unshift
  | pop
  | shift
  | remove
  | has
  | isOpen
  | isClose
  | isBlock
  | toDict
  | listAppend
  | listInsert
  | listPop
  | listClear
  deriving DecidableEq, Repr

/-- A value. -/
inductive Value
  | null
  | bool (b : Bool)
  | int (n : Int)
  | float (x : Binary64)
  | str (s : String)
  | pattern (p : Pattern)
  | maker (m : Maker)
  /-- A function supplied from outside. -/
  | callback (id : Nat)
  | method (self : Addr) (m : Method)
  /-- An ability of smart nodes that is not yet tied to a node. -/
  | unbound (m : Method)
  /-- The function that builds a tree of smart nodes from nested mappings. -/
  | loader
  /-- Something that nothing can be done with, by the name of its type. -/
  | inert (typeName : String)
  | ref (a : Addr)
  deriving DecidableEq, Repr

instance : Inhabited Value := ⟨.null⟩

end TagTree
