import TagTree.Display
import TagTree.Slots

/-!
# Configurations written out

A configuration that is logged, shown or stored is written out first: its fields with copies of
their values, in which configurations and nesting states have become mappings.
-/

namespace TagTree

namespace Op

variable {σ : Type}

/-- A copy of a value in which configurations and nesting states have become mappings. What comes up
inside itself is not copied again, and neither are other objects; `above` are the objects being
copied. -/
def dumpFrom : Nat → List Addr → Value → Op σ Value
  | 0, _, _ => throw .exhausted
  | fuel + 1, above, .ref a => do
    if a ∈ above then return .ref a
    let copy := dumpFrom fuel (a :: above)
    match (← heap).get? a with
    | some (.list items) => new (.list (← items.mapM copy))
    | some (.tuple items) => new (.tuple (← items.mapM copy))
    | some (.set frozen items) => new (.set frozen (Slots.order (← items.mapM copy)))
    | some (.dict entries) => new (.dict (← entries.mapM fun (k, v) ↦ return (k, ← copy v)))
    | some (.entity e) =>
      match e.kind with
      | .settings =>
        new (.dict (← (Settings.fieldsOf e.attrs).mapM fun (name, v) ↦
          return (.str name, ← copy v)))
      | .nesting =>
        new (.dict [(.str "inside", ← copy ((Table.get? e.attrs "inside").getD .null))])
      | _ => return .ref a
    | none => return .ref a
  | _ + 1, _, v => return v

/-- The fields of a configuration with the given attributes, written out. -/
def dumpFields (attrs : Table Value) : Op σ (Table Value) :=
  (Settings.fieldsOf attrs).mapM fun (name, v) ↦ return (name, ← dumpFrom walkDepth [] v)

end Op

end TagTree
