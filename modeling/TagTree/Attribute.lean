import TagTree.Equality
import TagTree.World

/-!
# Attributes

Reading and changing attributes by name. Besides what was assigned to it, an object has the
attributes of its kind: the mark of a node, the abilities of a smart node and its derived
attributes, of which only the parent can be assigned.
-/

namespace TagTree

/-- The ability of smart nodes with a name. -/
def Method.ofName? : String → Option Method
  | "define" => some .define
  | "push" => some .push
  | "unshift" => some .unshift
  | "pop" => some .pop
  | "shift" => some .shift
  | "remove" => some .remove
  | "has" => some .has
  | "is_open" => some .isOpen
  | "is_close" => some .isClose
  | "is_block" => some .isBlock
  | "to_dict" => some .toDict
  | _ => none

/-- The operation of lists with a name. -/
def Method.ofListName? : String → Option Method
  | "append" => some .listAppend
  | "insert" => some .listInsert
  | "pop" => some .listPop
  | "clear" => some .listClear
  | _ => none

/-- The name of an ability. -/
def Method.name : Method → String
  | .define => "define"
  | .push => "push"
  | .unshift => "unshift"
  | .pop | .listPop => "pop"
  | .shift => "shift"
  | .remove => "remove"
  | .has => "has"
  | .isOpen => "is_open"
  | .isClose => "is_close"
  | .isBlock => "is_block"
  | .toDict => "to_dict"
  | .listAppend => "append"
  | .listInsert => "insert"
  | .listClear => "clear"

def Method.isListMethod : Method → Bool
  | .listAppend | .listInsert | .listPop | .listClear => true
  | _ => false

/-- The derived attributes of smart nodes that cannot be assigned. -/
def readOnlyNames : List String :=
  ["children", "first", "last"]

/-- The parent that a link leads to: a weak link to a collected object leads nowhere. -/
def Link.target (h : Heap) : Link → Value
  | .absent => .null
  | .weak a => if (h.get? a).isSome then .ref a else .null
  | .strong v => v

namespace Heap

/-- The attributes that a smart node has by its kind. -/
def smartMember? (a : Addr) (name : String) : Option Value :=
  if name = "is_node" then some (.bool true)
  else if name = "from_dict" then some .loader
  else (Method.ofName? name).map (.method a)

/-- The attributes that the maker of smart nodes has. -/
def makerMember? (name : String) : Option Value :=
  if name = "is_node" then some (.bool true)
  else if name = "from_dict" then some .loader
  else if name = "parent" || readOnlyNames.contains name then some (.inert "property")
  else (Method.ofName? name).map .unbound

/-- The attribute of an entity at an address. -/
def entityAttr? (h : Heap) (a : Addr) (e : Entity) (name : String) : Option Value :=
  match e.kind with
  | .smart =>
    if name = "parent" then some (e.parent.target h)
    else if name = "children" then Table.get? e.attrs "nodes"
    else (Table.get? e.attrs name).or (smartMember? a name)
  | .plain => (Table.get? e.attrs name).or (if name = "is_node" then some (.bool true) else none)
  | .nesting => (Table.get? e.attrs name).or (if name = "inside" then some .null else none)
  | .record | .slot | .settings | .handler _ => Table.get? e.attrs name
  | .sealed | .bare | .ability _ => none

/-- The attribute of a value, unless it is the first or last child of a smart node, for which see
`Op.getAttr`. -/
def attr? (h : Heap) (v : Value) (name : String) : Option Value :=
  match v with
  | .ref a =>
    match h.get? a with
    | some (.entity e) => h.entityAttr? a e name
    | some (.list _) => (Method.ofListName? name).map (.method a)
    | _ => none
  | .maker .smart => makerMember? name
  | .maker .plain => if name = "is_node" then some (.bool true) else none
  | .maker .nesting => if name = "inside" then some .null else none
  | _ => none

/-- The attribute of a value, or null. -/
def attrOrNull (h : Heap) (v : Value) (name : String) : Value :=
  (h.attr? v name).getD .null

def callable (h : Heap) : Value → Bool
  | .maker _ | .callback _ | .method _ _ | .unbound _ | .loader => true
  | .ref a =>
    match h.get? a with
    | some (.entity ⟨.handler _, _, _⟩) | some (.entity ⟨.ability _, _, _⟩) => true
    | _ => false
  | _ => false

/-- The attribute of a value, if it can be called. -/
def capability (h : Heap) (v : Value) (name : String) : Option Value :=
  (h.attr? v name).filter h.callable

/-- Whether a value bears the mark of a node. A maker does not count as one. -/
def isNode (h : Heap) : Value → Bool
  | .null | .maker _ => false
  | v => ((h.attr? v "is_node").map h.truthy).getD false

/-- Whether a value can hold the stacks of entered nodes. -/
def isState (h : Heap) (v : Value) : Bool :=
  match v with
  | .method _ m => !m.isListMethod
  | .unbound _ | .loader => true
  | _ =>
    match h.entity? v with
    | some e =>
      match e.kind with
      | .sealed | .bare => false
      | .ability (.method _ m) => !m.isListMethod
      | _ => true
    | none => false

/-- The first or last item of something that has items. -/
def edgeItem (h : Heap) (atEnd : Bool) (v : Value) : Except Fault Value :=
  let pick (items : List Value) : Except Fault Value :=
    match if atEnd then items.getLast? else items.head? with
    | some item => .ok item
    | none => .error .unsupported
  match v with
  | .str s => pick (s.toList.map fun c ↦ .str (String.ofList [c]))
  | _ =>
    match h.object? v with
    | some (.list items) | some (.tuple items) => pick items
    | some (.dict entries) =>
      let index : Int := if atEnd then -1 else 0
      match entries.find? fun entry ↦ entry.1.wholeNumber? == some index with
      | some (_, item) => .ok item
      | none => .error (.missingKey (toString index))
    | _ => .error .unsupported

/-- The first or last child of a smart node, or null. -/
def edgeChild (h : Heap) (atEnd : Bool) (e : Entity) : Except Fault Value :=
  match Table.get? e.attrs "nodes" with
  | none => .error .missingAttribute
  | some nodes => if h.truthy nodes then h.edgeItem atEnd nodes else .ok .null

/-- The attribute of a value; all derived attributes included. -/
def attr (h : Heap) (v : Value) (name : String) : Except Fault Value :=
  match h.entity? v with
  | some e =>
    if e.kind = .smart ∧ name = "first" then h.edgeChild false e
    else if e.kind = .smart ∧ name = "last" then h.edgeChild true e
    else
      match h.attr? v name with
      | some x => .ok x
      | none => .error .missingAttribute
  | none =>
    match h.attr? v name with
    | some x => .ok x
    | none => .error .missingAttribute

/-- The link that assigning a parent makes: a weak one, if such a link to it is possible. -/
def linkTo (h : Heap) (v : Value) : Link :=
  match v with
  | .null => .absent
  | .ref a =>
    match h.get? a with
    | some (.entity e) =>
      match e.kind with
      | .smart | .plain | .nesting | .settings | .handler _ | .ability _ => .weak a
      | .record | .slot | .sealed | .bare => .strong v
    | some (.set _ _) => .weak a
    | _ => .strong v
  | _ => .strong v

/-- An entity after an assignment. -/
def assign (h : Heap) (e : Entity) (name : String) (x : Value) : Except Fault Entity :=
  match e.kind with
  | .smart =>
    if name = "parent" then .ok { e with parent := h.linkTo x }
    else if name ∈ readOnlyNames then .error .missingAttribute
    else .ok { e with attrs := Table.put name x e.attrs }
  | .plain | .record | .nesting | .handler _ => .ok { e with attrs := Table.put name x e.attrs }
  | .slot =>
    if name = "inside" then .ok { e with attrs := Table.put name x e.attrs }
    else .error .missingAttribute
  | .settings =>
    -- Names with an underscore in front are free.
    if name ∈ Settings.fieldNames ∨ name.toList.head? = some '_' then
      .ok { e with attrs := Table.put name x e.attrs }
    else .error (.noSuchField name)
  | .sealed | .bare | .ability _ => .error .missingAttribute

/-- An entity after an attribute was deleted. -/
def unassign (e : Entity) (name : String) : Except Fault Entity :=
  if e.kind = .smart ∧ name = "parent" then .error .missingAttribute
  else if Table.contains e.attrs name then .ok { e with attrs := Table.erase e.attrs name }
  else .error .missingAttribute

end Heap

namespace Op

variable {σ : Type}

/-- The attribute of a value. -/
def getAttr (v : Value) (name : String) : Op σ Value := do
  fromExcept ((← heap).attr v name)

/-- The attribute of a value, or null if it has none of that name. -/
def getAttrOrNull (v : Value) (name : String) : Op σ Value := do
  match (← heap).attr v name with
  | .error .missingAttribute => return .null
  | e => fromExcept e

/-- Assigns an attribute. -/
def setAttr (v : Value) (name : String) (x : Value) : Op σ Unit := do
  let h ← heap
  match v, h.entity? v with
  | .ref a, some e => store a (.entity (← fromExcept (h.assign e name x)))
  | _, _ => throw .missingAttribute

/-- Deletes an attribute. -/
def deleteAttr (v : Value) (name : String) : Op σ Unit := do
  let h ← heap
  match v, h.entity? v with
  | .ref a, some e => store a (.entity (← fromExcept (Heap.unassign e name)))
  | _, _ => throw .missingAttribute

/-- The attribute of a value, if it can be called. -/
def capability (v : Value) (name : String) : Op σ (Option Value) := do
  return (← heap).capability v name

end Op

end TagTree
