import TagTree.Items
import TagTree.Log.Record
import TagTree.Nesting
import TagTree.Sentinel
import TagTree.Settings.File
import TagTree.Walk

/-!
# The catalogue of functions

The functions of the library by themselves, with the names of their parameters, so that they can be
called with arguments of any number and kind.
-/

namespace TagTree

/-- A function of the library. -/
inductive Function
  | isNode | isState
  | assertType | assertNode | assertFunction | assertState
  | assertNodesList | assertNodesSequence | assertTypeName
  | linkParent
  | push | unshift | pop | shift | remove | has
  | addOpen | addClose | wrap
  | visit | visitChildren
  | enter | leave | isInsideType | isInside
  | isType | hasType | firstOfType | find
  | isOpen | isClose | hasOpen | hasClose | hasOpenAndClose | isBlock | isEmpty
  | value | identity | handler | noop | neutralise
  | arrayify | stringify | trim | last | lastNode
  | parseMatcher
  | activate | currentConfiguration | resetConfiguration
  | importance | installRecordMaker
  deriving DecidableEq, Repr

namespace Function

open Op

variable {σ : Type}

/-- The parameters of a function. -/
def signature : Function → Signature
  | .isNode | .isState | .arrayify | .stringify | .trim => .required ["value"]
  | .assertType => (Signature.required ["condition", "message"]).orNull ["argument"]
  | .assertNode => (Signature.required ["value"]).orElse "argument" (.str "node")
  | .assertFunction => (Signature.required ["value"]).orElse "argument" (.str "fn")
  | .assertState => (Signature.required ["value"]).orElse "argument" (.str "state")
  | .assertNodesList | .assertNodesSequence =>
    ((Signature.required ["value"]).orElse "argument" (.str "nodes")).orElse "optional"
      (.bool false)
  | .assertTypeName => (Signature.required ["node"]).orElse "argument" (.str "node.type")
  | .linkParent => .required ["child", "parent"]
  | .push | .unshift | .remove => .required ["parent", "node"]
  | .pop | .shift | .isOpen | .isClose | .hasOpen | .hasClose | .hasOpenAndClose | .isBlock
  | .value | .lastNode => .required ["node"]
  | .has => .required ["node", "child"]
  | .addOpen | .addClose =>
    (Signature.required ["node", "factory"]).orNull ["value", "node_filter"]
  | .wrap => (Signature.required ["node", "factory"]).orNull ["node_filter"]
  | .visit | .visitChildren => .required ["node", "fn"]
  | .enter | .leave => .required ["state", "node"]
  | .isInsideType => .required ["state", "type_name"]
  | .isInside => .required ["state", "node", "matcher"]
  | .isType | .hasType => .required ["node", "matcher"]
  | .firstOfType => .required ["nodes", "matcher"]
  | .find => .required ["nodes", "selector"]
  | .isEmpty => (Signature.required ["node"]).orNull ["predicate"]
  | .identity | .noop => .required ["compiler", "node"]
  | .handler => .required ["text"]
  | .neutralise => (Signature.required ["node"]).orNull ["nodes"]
  | .last => (Signature.required ["seq"]).orElse "n" (.int 1)
  | .parseMatcher => .required ["expression"]
  | .activate => .required ["config"]
  | .importance => .required ["level_name"]
  | .currentConfiguration | .resetConfiguration | .installRecordMaker => .required []

/-- Requires a condition on an argument whose name is itself a value. -/
def requireOf (condition : Bool) (argument : Value) (shape : Shape) : Op σ Value := do
  let label ← text argument
  if condition then return .null else throw (.argument (.expected label shape) argument)

private def truth (answer : Op σ Bool) : Op σ Value := do
  return .bool (← answer)

private def nothing (effect : Op σ Unit) : Op σ Value := do
  effect
  return .null

/-- Calls a function with as many arguments as it has parameters. -/
def run (call : Caller σ) : Function → List Value → Op σ Value
  | .isNode, [v] => do return .bool ((← heap).isNode v)
  | .isState, [v] => do return .bool ((← heap).isState v)
  | .assertType, [condition, message, argument] => do
    if (← heap).truthy condition then return .null
    else throw (.argument (.stated (← text message)) argument)
  | .assertNode, [v, argument] => do requireOf ((← heap).isNode v) argument .node
  | .assertFunction, [v, argument] => do requireOf ((← heap).callable v) argument .function
  | .assertState, [v, argument] => do requireOf ((← heap).isState v) argument .object
  | .assertNodesList, [v, argument, orNull] => do
    let h ← heap
    requireOf ((h.list? v).isSome || (h.truthy orNull && v == .null)) argument .array
  | .assertNodesSequence, [v, argument, orNull] => do
    let h ← heap
    requireOf ((h.sequence? v).isSome || (h.truthy orNull && v == .null)) argument .array
  | .assertTypeName, [node, argument] => do
    requireOf (isText ((← heap).attrOrNull node "type")) argument .string
  | .linkParent, [child, parent] => nothing (Op.linkParent call child parent)
  | .push, [parent, node] => Tree.push call parent node
  | .unshift, [parent, node] => Tree.unshift call parent node
  | .pop, [node] => Tree.pop call node
  | .shift, [node] => Tree.shift call node
  | .remove, [parent, node] => Tree.remove call parent node
  | .has, [node, child] => truth (Tree.has call node child)
  | .addOpen, [node, factory, payload, filter] =>
    Sentinel.addOpen call node factory payload filter
  | .addClose, [node, factory, payload, filter] =>
    Sentinel.addClose call node factory payload filter
  | .wrap, [node, factory, filter] => Sentinel.wrap call node factory filter
  | .visit, [node, fn] => Walk.visit call fn walkDepth node
  | .visitChildren, [node, fn] => Walk.visitChildren call fn walkDepth node
  | .enter, [state, node] => Nesting.enter call state node
  | .leave, [state, node] => Nesting.leave call state node
  | .isInsideType, [state, type] => truth (Nesting.isInsideType call state type)
  | .isInside, [state, node, matcher] => truth (Nesting.isInside call state node walkDepth matcher)
  | .isType, [node, matcher] => truth (Matcher.isType node walkDepth matcher)
  | .hasType, [node, matcher] => truth (Matcher.hasType walkDepth node matcher)
  | .firstOfType, [nodes, matcher] => Matcher.firstOfType walkDepth nodes matcher
  | .find, [nodes, selector] => Matcher.find walkDepth nodes selector
  | .isOpen, [node] => truth (Sentinel.isOpen call node)
  | .isClose, [node] => truth (Sentinel.isClose call node)
  | .hasOpen, [node] => truth (Sentinel.hasOpen call node)
  | .hasClose, [node] => truth (Sentinel.hasClose call node)
  | .hasOpenAndClose, [node] => truth (Sentinel.hasOpenAndClose call node)
  | .isBlock, [node] => truth (Sentinel.isBlock call node)
  | .isEmpty, [node, predicate] => truth (Walk.isEmpty call predicate walkDepth node)
  | .value, [node] => Payload.value node
  | .identity, [sink, node] => Payload.identity call sink node
  | .handler, [text] => Payload.handler text
  | .noop, [sink, node] => Payload.noop call sink node
  | .neutralise, [node, nodes] => nothing (Payload.neutralise node nodes)
  | .arrayify, [v] => Items.arrayify v
  | .stringify, [v] => Items.stringify call v
  | .trim, [v] => return Items.trim v
  | .last, [v, n] => Items.last v n
  | .lastNode, [node] => Items.lastNode node
  | .parseMatcher, [expression] => Matcher.ofExpression expression
  | .activate, [v] => Op.activate v
  | .currentConfiguration, [] => Op.currentConfiguration
  | .resetConfiguration, [] => nothing Op.resetConfiguration
  | .importance, [level] => importanceOf call level
  | .installRecordMaker, [] => nothing Op.installRecordMaker
  | _, _ => throw .unsupported

end Function

end TagTree
