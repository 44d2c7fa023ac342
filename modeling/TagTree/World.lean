import TagTree.Fault
import TagTree.Files
import TagTree.Heap
import TagTree.Log.Basic

/-!
# Operations on a world

A world is everything that operations can see and change: the objects, the configuration in force,
the log and the files. Functions supplied from outside may have a state of their own, of any type,
which the library carries along and never looks at.

An operation that fails leaves the changes it made until then.
-/

namespace TagTree

def Fault.ofFileFault : FileFault → Fault
  | .isDirectory => .isDirectory
  | .exists => .fileExists
  | .notDirectory => .notDirectory
  | .missing => .noSuchFile
  | .nameTooLong => .nameTooLong
  | .nullByte => .nullByte

/-- Everything that operations see and change. -/
structure World (σ : Type) where
  heap : Heap := {}
  /-- The configuration in force; the default settings if there is none. -/
  active : Option Addr := none
  log : Log := {}
  files : Files := {}
  /-- The state of the functions supplied from outside. -/
  client : σ

/-- A computation on a world that may fail. -/
abbrev Op (σ : Type) := EStateM Fault (World σ)

/-- How to call something with positional and named arguments. -/
abbrev Caller (σ : Type) := Value → List Value → Table Value → Op σ Value

namespace Op

variable {σ α : Type}

def heap : Op σ Heap := do
  return (← get).heap

def modifyHeap (f : Heap → Heap) : Op σ Unit :=
  modify fun w ↦ { w with heap := f w.heap }

/-- Makes a new object. -/
def new (o : Object) : Op σ Value := do
  let h ← heap
  modifyHeap (·.add o)
  return .ref h.fresh

/-- Replaces an object. -/
def store (a : Addr) (o : Object) : Op σ Unit :=
  modifyHeap (·.put a o)

/-- Logs a message at the lowest of the named levels. -/
def debug (logger text : String) : Op σ Unit :=
  modify fun w ↦ { w with log := w.log.message logger 10 text }

/-- Continues with a result or fails with its fault. -/
def fromExcept (e : Except Fault α) : Op σ α :=
  match e with
  | .ok a => pure a
  | .error fault => throw fault

end Op

end TagTree
