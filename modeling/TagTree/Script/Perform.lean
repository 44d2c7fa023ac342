import TagTree.Script.Action
import TagTree.Script.Scripted

/-!
# Performing scripts

Steps are performed one after the other. Each answer reports the result or the failure of a step,
the calls it made, the objects it changed and the lines it logged.
-/

namespace TagTree.Script

open Op Run

/-- Whether an action only looks up a value. -/
def Action.isValue : Action → Bool
  | .value => true
  | _ => false

/-- Names the result of a step and binds it to the name that the step asks for. A list or mapping is
named only where it is looked up and bound. -/
def keepResult (action : Action) (binding : Option String) (b : Binding) : Run Unit := do
  let h ← heap
  let v := b.value
  let isCollection := (h.list? v).isSome || (h.dict? v).isSome
  match v, binding with
  | .ref a, some name =>
    if (nameOf? (← session) a).isNone &&
        (isNameable h v || (isCollection && action.isValue)) then
      register name a
    else bind name b
  | _, some name => bind name b
  | _, none => ensureNamed v

/-- Performs a task, calls of scripted functions nested at most so deep. -/
def perform : Nat → Task → Run Value
  | 0, _ => throw .exhausted
  | depth + 1, task => do
    let call := invoke (foreign (perform depth)) walkDepth
    match task with
    | .term t => eval call walkDepth t
    | .make m named => call (.maker m) [] named
    | .call callee => call callee [] []
    | .step step =>
      let args ← step.args.mapM (evalBinding call)
      let named ← step.named.mapM fun (name, t) ↦ return (name, ← eval call walkDepth t)
      let v ← runAction call step.action args named
      -- A value that is only looked up stays the same.
      let origin := if step.action.isValue then args.head?.bind (·.origin) else none
      keepResult step.action step.binding ⟨v, origin⟩
      releaseUnheld v
      return v

/-! ## Answers -/

/-- The argument that a fault blames. -/
def blamed : Fault → Value
  | .argument _ argument => argument
  | _ => .null

/-- Shows the result or the failure of a step, and then collects garbage. -/
def outcome (step : Step) : Run (Except Failure Shown) := fun w ↦
  match perform walkDepth (.step step) w with
  | .ok v w =>
    let report : Run (Except Failure Shown) := do
      let shown ← describe walkDepth v
      collectGarbage
      return .ok shown
    report w
  | .error fault w =>
    let report : Run (Except Failure Shown) := do
      modifySession fun s ↦ { s with subjects := [] }
      -- What is blamed is shown before it can be collected.
      let failure : Failure := ⟨fault, ← describe walkDepth (blamed fault)⟩
      collectGarbage
      return .error failure
    report w

/-- The answer to a step. -/
def answer (step : Step) : Run Answer := do
  modify fun w ↦
    { w with log := { w.log with lines := [] }, client := { w.client with calls := [] } }
  let outcome ← outcome step
  let changes ← sweep
  let w ← get
  return ⟨outcome, w.client.calls, changes, w.log.lines⟩

/-- The answers to the steps of a script, one after the other. -/
def answers : List Step → Run (List Answer)
  | [] => return []
  | step :: rest => do
    let first ← answer step
    return first :: (← answers rest)

/-- Runs a script from the beginning. -/
def run (steps : List Step) : Except Fault (List Answer) :=
  match answers steps { client := {} } with
  | .ok found _ => .ok found
  | .error fault _ => .error fault

end TagTree.Script
