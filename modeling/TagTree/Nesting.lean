import TagTree.Matcher.Basic
import TagTree.Settings.Active
import TagTree.Node.Ability

/-!
# Nesting

A nesting state has a stack of entered nodes for each type name. A node counts for the type of its
parent; a node without a parent counts for its own type without the suffix of a sentinel. So a walk
that enters at open sentinels and leaves at close sentinels always knows what it is inside of.
-/

namespace TagTree.Nesting

open Op

variable {σ : Type}

def nestingLogger : String := "node_utils.tree.nesting"

/-- A type name without a suffix. If the suffix is empty nothing is left. -/
def stripSuffix (type : String) (suffix : Value) : Op σ String := do
  if ← Smart.endsWith (.str type) suffix then
    let n ← size suffix
    return String.ofList (if n = 0 then [] else type.toList.take (type.toList.length - n))
  else return type

/-- The type name that a node counts for. -/
def keyOf (node suffix : Value) : Op σ String := do
  let h ← heap
  let parent := h.attrOrNull node "parent"
  if parent ≠ .null then
    requireNode parent "node.parent"
    match h.attrOrNull parent "type" with
    | .str type => return type
    | _ => throw (.argument (.expected "node.parent.type" .string) (.str "node.parent.type"))
  else
    match h.attrOrNull node "type" with
    | .str type => stripSuffix type suffix
    | _ => throw (.argument (.expected "node.type" .string) (.str "node.type"))

/-- Enters a node: pushes it onto the stack it counts for, and returns the stack. -/
def enter (call : Caller σ) (state node : Value) : Op σ Value := do
  requireNode node "node"
  requireState state "state"
  let key ← keyOf node (← openSuffix)
  if (← heap).attrOrNull state "inside" = .null then setAttr state "inside" (← new (.dict []))
  let stack ← lookupOrAdd call (← getAttr state "inside") key
  append call stack node
  debug nestingLogger
    ("Entered " ++ Text.quote key ++ " (depth " ++ toString (← size stack) ++ ")")
  return stack

/-- Leaves a node: pops the stack it counts for and returns what was on top, or null if there is no
such stack or it is empty. -/
def leave (call : Caller σ) (state node : Value) : Op σ Value := do
  requireNode node "node"
  requireState state "state"
  let key ← keyOf node (← closeSuffix)
  let inside := (← heap).attrOrNull state "inside"
  if inside = .null then throw (.neverEntered key)
  let stack ← lookup call inside key
  if !(← heap).truthy stack then return .null
  let popped ← popLast call stack
  debug nestingLogger ("Left " ++ Text.quote key ++ " (depth " ++ toString (← size stack) ++ ")")
  return popped

/-- The mapping from type names to stacks that a state holds, if it holds any. -/
def stacksOf (state : Value) : Op σ (Option Value) := do
  let h ← heap
  let inside := h.attrOrNull state "inside"
  return if h.truthy inside then some inside else none

/-- Whether some entered node counts for a type name. -/
def isInsideType (call : Caller σ) (state type : Value) : Op σ Bool := do
  requireState state "state"
  match type with
  | .str name =>
    match ← stacksOf state with
    | none => return false
    | some inside =>
      let stack ← lookup call inside name
      if (← heap).truthy stack then return 0 < (← size stack) else return false
  | _ => throw (.argument (.expected "type" .string) (.str "type"))

/-- Whether a stack is not empty and a pattern is found in its type name. -/
def isFoundIn (p : Pattern) (key stack : Value) : Op σ Bool := do
  if (← heap).truthy stack then
    match key with
    | .str name => return p.search name
    | _ => throw .unsupported
  else return false

/-- Whether a pattern is found in the type name of some stack that is not empty. -/
def anyStack (call : Caller σ) (p : Pattern) (inside : Value) : Op σ Bool := do
  match (← heap).dict? inside with
  | some entries => entries.anyM fun (key, stack) ↦ isFoundIn p key stack
  | none =>
    let pairs ← iterate (← callAttr call inside "items" [])
    Matcher.anyItem (fun pair ↦ do
      let (key, stack) ← unpackPair pair
      isFoundIn p key stack) pairs

/-- Whether a node is inside something whose type matches: its parent, or what was entered. -/
def isInside (call : Caller σ) (state node : Value) : Nat → Value → Op σ Bool
  | 0, _ => throw .exhausted
  | fuel + 1, matcher => do
    requireNode node "node"
    requireState state "state"
    let h ← heap
    let parent := h.attrOrNull node "parent"
    require (parent = .null || h.isNode parent) "node.parent" .node
    let parentType := h.attrOrNull parent "type"
    match matcher with
    | .str _ =>
      if parentType = matcher then return true else isInsideType call state matcher
    | .pattern p =>
      let byParent :=
        match parentType with
        | .str type => p.search type
        | _ => false
      if byParent then return true
      else
        match ← stacksOf state with
        | none => return false
        | some inside => anyStack call p inside
    | _ =>
      -- What is asked on the way may change a list.
      if (h.sequence? matcher).isSome then
        Matcher.anyItemFrom (isInside call state node fuel) matcher fuel 0
      else
        match h.collection? matcher with
        | some items => Matcher.anyItem (isInside call state node fuel) items
        | none => throw Matcher.notMatcher

end TagTree.Nesting
