import TagTree.Heap
import TagTree.Settings.Basic

/-!
# Equality and the names of types

When two values count as equal: numbers by their value, texts by content, patterns by the way they
are written, collections item by item, records and configurations attribute by attribute, nesting
states by their stacks, and all other objects by identity.
-/

namespace TagTree

/-- Equality of floating point numbers: a number that is none equals nothing, and zeros are
equal. -/
def Binary64.equals (x y : Binary64) : Bool :=
  !x.isNan && !y.isNan && (x == y || (x.isZero && y.isZero))

/-- The number that a value stands for; truth values count as zero and one. -/
def Value.toInt? : Value → Option Int
  | .bool b => some (if b then 1 else 0)
  | .int n => some n
  | _ => none

/-- The attributes of a configuration that are its fields. -/
def Settings.fieldsOf (attrs : Table Value) : Table Value :=
  attrs.filter fun entry ↦ fieldNames.contains entry.1

/-- The number that a value equals, if it is a whole one. -/
def Value.wholeNumber? : Value → Option Int
  | .float x => x.toInt?
  | v => v.toInt?

/-- Whether all values equal to a value are the same: simple values, small numbers, and texts of at
most one simple character. -/
def Value.isShared : Value → Bool
  | .null | .bool _ | .pattern _ | .maker _ | .callback _ | .unbound _ | .loader | .inert _ => true
  | .int n => -5 ≤ n && n ≤ 256
  | .str s =>
    match s.toList with
    | [] => true
    | [c] => c.toNat < 256
    | _ => false
  | .float _ | .method _ _ | .ref _ => false

/-- Whether two values are the same: the same object, or equal shared values. Other texts and
numbers are made anew each time. -/
def Value.identical : Value → Value → Bool
  | .ref a, .ref b => a == b
  | .pattern p, .pattern q => p.source == q.source
  | v, w => v == w && v.isShared

/-- The name of the type of an ability. -/
def Method.typeName : Method → String
  | .listAppend | .listInsert | .listPop | .listClear => "builtin_function_or_method"
  | _ => "method"

namespace Heap

/-- Whether all pairs of items satisfy the relation, and none is left over. -/
def pairwise (rel : Value → Value → Bool) : List Value → List Value → Bool
  | [], [] => true
  | a :: as, b :: bs => rel a b && pairwise rel as bs
  | _, _ => false

/-- Whether every item of the first list is related to some item of the second. -/
def covered (rel : Value → Value → Bool) (as bs : List Value) : Bool :=
  as.all fun a ↦ bs.any (rel a)

/-- Whether two tables of attributes agree, whatever their order. -/
def sameTable (rel : Value → Value → Bool) (s t : Table Value) : Bool :=
  s.length == t.length && s.all fun (name, v) ↦ ((Table.get? t name).map (rel v)).getD false

/-- Equality of objects, given equality of what they hold. -/
def sameObject (rel : Value → Value → Bool) : Object → Object → Bool
  | .list as, .list bs => pairwise rel as bs
  | .tuple as, .tuple bs => pairwise rel as bs
  | .set _ as, .set _ bs => as.length == bs.length && covered rel as bs
  | .dict as, .dict bs =>
    as.length == bs.length &&
      as.all fun (k, v) ↦ bs.any fun (k', v') ↦ rel k k' && rel v v'
  | .entity e, .entity f =>
    e.kind == f.kind &&
      match e.kind with
      | .record => sameTable rel e.attrs f.attrs
      | .settings => sameTable rel (Settings.fieldsOf e.attrs) (Settings.fieldsOf f.attrs)
      | .ability _ => true
      | .nesting =>
        rel ((Table.get? e.attrs "inside").getD .null) ((Table.get? f.attrs "inside").getD .null)
      | _ => false
  | _, _ => false

/-- Whether two values are equal, looking at most `fuel` objects deep. -/
def equal (h : Heap) : Nat → Value → Value → Bool
  | 0, v, w => v == w
  | fuel + 1, v, w =>
    match v, w with
    | .float x, .float y => x.equals y
    | .float x, _ => x.toInt?.isSome && x.toInt? == w.toInt?
    | _, .float y => y.toInt?.isSome && y.toInt? == v.toInt?
    | .pattern p, .pattern q => p.source == q.source
    | .ref a, .ref b =>
      a == b ||
        match h.get? a, h.get? b with
        | some o, some p => sameObject (h.equal fuel) o p
        | _, _ => false
    | _, _ => (v.toInt?.isSome && v.toInt? == w.toInt?) || v == w

/-- Whether a value can be an element of a set or a key of a mapping. -/
def hashable (h : Heap) : Nat → Value → Bool
  | 0, _ => false
  | fuel + 1, .ref a =>
    match h.get? a with
    | some (.tuple items) => items.all (h.hashable fuel)
    | some (.set frozen _) => frozen
    | some (.entity e) =>
      match e.kind with
      | .record | .nesting | .settings => false
      | _ => true
    | some (.list _) | some (.dict _) => false
    | none => true
  | _ + 1, _ => true

/-- The name of the type of a value. -/
def typeName (h : Heap) : Value → String
  | .null => "NoneType"
  | .bool _ => "bool"
  | .int _ => "int"
  | .float _ => "float"
  | .str _ => "str"
  | .pattern _ => "Pattern"
  | .maker .settings => "ModelMetaclass"
  | .maker _ => "type"
  | .callback _ => "Callback"
  | .method _ m => m.typeName
  | .unbound _ => "function"
  | .loader => "method"
  | .inert typeName => typeName
  | .ref a =>
    match h.get? a with
    | some (.entity e) =>
      match e.kind with
      | .smart => "Node"
      | .plain => "PlainNode"
      | .record => "SimpleNamespace"
      | .nesting => "NestingState"
      | .slot => "SlotState"
      | .sealed => "SlotOther"
      | .bare => "object"
      | .settings => "NodeUtilsConfig"
      | .handler _ => "function"
      | .ability (.method _ m) => m.typeName
      | .ability _ => "method"
    | some (.list _) => "list"
    | some (.tuple _) => "tuple"
    | some (.set frozen _) => if frozen then "frozenset" else "set"
    | some (.dict _) => "dict"
    | none => "NoneType"

end Heap

end TagTree
