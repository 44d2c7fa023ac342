import TagTree.Collection
import TagTree.Guard

/-!
# Matching types

A matcher is a type name, a pattern that is searched for in the type, or a collection of matchers of
which one has to match. Collections may be nested.
-/

namespace TagTree.Matcher

open Op

variable {σ : Type}

/-- The complaint about a value that is no matcher. -/
def notMatcher : Fault :=
  .argument (.expected "type" .matcher) (.str "type")

/-- Whether some item satisfies a condition; the items behind it are not looked at. -/
def anyItem (p : Value → Op σ Bool) : List Value → Op σ Bool
  | [] => return false
  | item :: rest => do
    if ← p item then return true else anyItem p rest

/-- Whether some item of a list or tuple from an index on, as it is at each moment, satisfies a
condition. -/
def anyItemFrom (p : Value → Op σ Bool) (items : Value) : Nat → Nat → Op σ Bool
  | 0, _ => throw .exhausted
  | fuel + 1, index => do
    match ← itemAt? items index with
    | none => return false
    | some item => if ← p item then return true else anyItemFrom p items fuel (index + 1)

/-- Whether the type of a node matches. -/
def isType (node : Value) : Nat → Value → Op σ Bool
  | 0, _ => throw .exhausted
  | fuel + 1, matcher => do
    requireNode node "node"
    requireTypeName node "node.type"
    match (← heap).attrOrNull node "type" with
    | .str type =>
      match matcher with
      | .str name => return type = name
      | .pattern p => return p.search type
      | _ =>
        match (← heap).collection? matcher with
        | some items => anyItem (isType node fuel) items
        | none => throw notMatcher
    | _ => throw .missingAttribute

/-- Whether the type of some child of a node matches. -/
def hasType (fuel : Nat) (node matcher : Value) : Op σ Bool := do
  requireNode node "node"
  let nodes := (← heap).attrOrNull node "nodes"
  requireSequence nodes "node.nodes" true
  anyItem (fun child ↦ isType child fuel matcher) (((← heap).sequence? nodes).getD [])

/-- The first item that satisfies a condition, or null. -/
def firstItem (p : Value → Op σ Bool) : List Value → Op σ Value
  | [] => return .null
  | item :: rest => do
    if ← p item then return item else firstItem p rest

/-- The first node of a sequence whose type matches, or null. -/
def firstOfType (fuel : Nat) (nodes matcher : Value) : Op σ Value := do
  requireSequence nodes "nodes" false
  firstItem (fun node ↦ isType node fuel matcher) (((← heap).sequence? nodes).getD [])

/-- The item at an index or the first node whose type matches, or null. -/
def find (fuel : Nat) (nodes selector : Value) : Op σ Value := do
  requireSequence nodes "nodes" false
  match selector with
  | .int n =>
    let items := ((← heap).sequence? nodes).getD []
    return if 0 ≤ n then items[n.toNat]?.getD .null else .null
  | _ => firstOfType fuel nodes selector

/-- The value of a leaf. -/
def Leaf.toValue : Leaf → Value
  | .text s => .str s
  | .pattern p => .pattern p

/-- The matcher that an expression denotes: a single leaf, or a tuple of several. -/
def ofExpression (expression : Value) : Op σ Value := do
  match expression with
  | .str text =>
    match parse text with
    | .ok [leaf] => return leaf.toValue
    | .ok leaves => new (.tuple (leaves.map Leaf.toValue))
    | .error (.mismatch m) => throw (.expression text m)
    | .error (.malformed body source flaw position) =>
      throw (.malformedPattern body source flaw position)
    | .error (.refused reason) => throw (.refusedPattern reason)
  | _ => throw (.argument (.expected "expression" .string) (.str "expression"))

end TagTree.Matcher
