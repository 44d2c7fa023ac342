import TagTree.Script.Session

/-!
# Scripted functions

A scripted function records its call and looks at the type of its first argument. If it acts it
performs its steps, and then fails, makes something or returns something.
-/

namespace TagTree.Script

open Op Run

/-- What a scripted function can ask for. -/
inductive Task
  | term (t : Term)
  | step (s : Step)
  | make (m : Maker) (named : Table Value)
  | call (callee : Value)

/-- Records the call of a scripted function. -/
def recordCall (c : Callback) (args : List Value) (named : Table Value) : Run Unit := do
  let args ← args.mapM (describe walkDepth)
  let named ← named.mapM fun (name, v) ↦ return (name, ← describe walkDepth v)
  modifySession fun s ↦ { s with calls := s.calls ++ [⟨c.id, args, named⟩] }

/-- Whether a scripted function acts on its first argument. -/
def meetsCondition (perform : Task → Run Value) (c : Callback) (subject : Value) : Run Bool := do
  match c.condition with
  | none => return true
  | some t =>
    let expected ← perform (.term t)
    let h ← heap
    return h.equal walkDepth (h.attrOrNull subject "type") expected

/-- What an optional term gives; null if there is none. -/
def performTerm (perform : Task → Run Value) : Option Term → Run Value
  | some t => perform (.term t)
  | none => return .null

/-- What a scripted function does once it acts. -/
def act (perform : Task → Run Value) (c : Callback) (subject : Value) (named : Table Value) :
    Run Value := do
  for step in c.steps do
    let _ ← perform (.step step)
  if let some text := c.raises then throw (.raised text)
  if let some m := c.makes then
    let v ← perform (.make m named)
    ensureNamed v
    return v
  if let some name := c.blank then
    let call : Caller Session := fun callee _ _ ↦ perform (.call callee)
    let text ← trimmed call (← getAttr subject name)
    return .bool (!(← heap).truthy text)
  performTerm perform c.result

/-- Calls a scripted function. -/
def callScripted (perform : Task → Run Value) (c : Callback) (args : List Value)
    (named : Table Value) : Run Value := do
  recordCall c args named
  let outer := (← session).subjects
  let subject := args.head?.getD .null
  modifySession fun s ↦ { s with subjects := subject :: outer }
  let result ←
    if ← meetsCondition perform c subject then act perform c subject named
    else performTerm perform c.otherwise
  modifySession fun s ↦ { s with subjects := outer }
  return result

/-- Calls a function supplied by the script, which has its tasks performed by `perform`. -/
def foreign (perform : Task → Run Value) : Caller Session := fun callee args named ↦ do
  match callee with
  | .callback id =>
    match (← session).callbacks[id]? with
    | some c => callScripted perform c args named
    | none => throw .unsupported
  | _ => throw .unsupported

end TagTree.Script
