import TagTree.Catalogue
import TagTree.Json.Basic

/-!
# Scripts

A script is a sequence of steps. A step does something with values, which are given by terms, and
may bind its result to a name. Functions can be scripted too: a scripted function records its call,
performs steps of its own and then returns something or fails.
-/

namespace TagTree.Script

/-- The kinds of errors that can be made by themselves. -/
inductive ErrorClass
  | base
  | argument
  | nesting
  | matcher
  | configuration
  deriving DecidableEq, Repr

/-- A record of the log, as a step gives it. -/
structure Message where
  logger : String
  level : Json
  /-- What is logged; anything but a text is turned into one. -/
  text : Json
  deriving Repr

mutual

/-- A value to be made or looked up. -/
inductive Term
  | null
  | bool (b : Bool)
  | int (n : Int)
  | float (x : Binary64)
  | str (s : String)
  | list (items : List Term)
  | tuple (items : List Term)
  | set (frozen : Bool) (items : List Term)
  | dict (entries : List (Term × Term))
  | document (j : Json)
  /-- What is bound to a name. -/
  | ref (name : String)
  | attr (t : Term) (name : String)
  | pattern (source : String)
  | parsed (expression : Term)
  | maker (m : Maker)
  | bare
  | made (m : Maker) (args : List Term) (named : List (String × Term))
  | record (fields : List (String × Term))
  | callback (c : Callback)

/-- A scripted function. -/
inductive Callback
  | mk (id : Json) (condition otherwise : Option Term) (steps : List Step)
      (raises : Option String) (makes : Option Maker) (blank : Option String)
      (result : Option Term)

/-- What a step does. -/
inductive Action
  | call (f : Function)
  | make (m : Maker)
  | record
  | slot
  | sealed
  | load
  | literal
  | value
  | method (name : String)
  | apply
  | get (name : String)
  | set (name : String)
  | delete (name : String)
  | same
  | drop (name : String)
  | putFile (path : String) (bytes : List Nat)
  | fileText (path : String)
  | validateFile (path : String)
  | loadFile (path : String)
  | saveFile (path : String)
  | setupLog
  | logState
  | addHandler
  | log (m : Message) (importance : Option Term)
  | makeRecord (m : Message)
  | formatRecord (m : Message) (created : Term) (importance : Option Term)
  | error (c : ErrorClass)

/-- A step of a script. -/
inductive Step
  | mk (action : Action) (args : List Term) (named : List (String × Term))
      (binding : Option String)

end

instance : Inhabited Term := ⟨.null⟩

namespace Callback

def id : Callback → Json
  | .mk id _ _ _ _ _ _ _ => id

/-- The type that the first argument must have for the function to do anything. -/
def condition : Callback → Option Term
  | .mk _ condition _ _ _ _ _ _ => condition

/-- What is returned if the first argument has another type. -/
def otherwise : Callback → Option Term
  | .mk _ _ otherwise _ _ _ _ _ => otherwise

def steps : Callback → List Step
  | .mk _ _ _ steps _ _ _ _ => steps

/-- The text of the failure, if the function fails. -/
def raises : Callback → Option String
  | .mk _ _ _ _ raises _ _ _ => raises

/-- What the function makes from its named arguments, if anything. -/
def makes : Callback → Option Maker
  | .mk _ _ _ _ _ makes _ _ => makes

/-- The attribute of the first argument that is asked to be blank, if any. -/
def blank : Callback → Option String
  | .mk _ _ _ _ _ _ blank _ => blank

def result : Callback → Option Term
  | .mk _ _ _ _ _ _ _ result => result

end Callback

namespace Step

def action : Step → Action
  | .mk action _ _ _ => action

def args : Step → List Term
  | .mk _ args _ _ => args

def named : Step → List (String × Term)
  | .mk _ _ named _ => named

/-- The name that the result is bound to. -/
def binding : Step → Option String
  | .mk _ _ _ binding => binding

end Step

end TagTree.Script
