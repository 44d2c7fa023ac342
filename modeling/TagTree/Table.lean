/-!
# Tables

Finite maps from names to values that keep the order in which names were first given a value.
-/

namespace TagTree

/-- A map from names, in order of first assignment. -/
abbrev Table (α : Type) := List (String × α)

namespace Table

variable {α : Type}

def get? (t : Table α) (name : String) : Option α :=
  t.lookup name

def contains (t : Table α) (name : String) : Bool :=
  (t.get? name).isSome

/-- Gives a name a value: it keeps its place if it has one, and comes last otherwise. -/
def put (name : String) (value : α) : Table α → Table α
  | [] => [(name, value)]
  | (k, v) :: rest => if k = name then (k, value) :: rest else (k, v) :: put name value rest

/-- Forgets a name. -/
def erase (t : Table α) (name : String) : Table α :=
  t.filter fun entry ↦ entry.1 != name

def keys (t : Table α) : List String :=
  t.map Prod.fst

@[simp]
theorem get?_nil (name : String) : get? ([] : Table α) name = none := rfl

theorem get?_cons (k name : String) (v : α) (t : Table α) :
    get? ((k, v) :: t) name = if name = k then some v else get? t name := by
  by_cases h : name = k
  · simp [get?, h]
  · simp [get?, List.lookup_cons, h, beq_false_of_ne h]

@[simp]
theorem get?_put_self (name : String) (value : α) (t : Table α) :
    (put name value t).get? name = some value := by
  induction t with
  | nil => simp [put, get?_cons]
  | cons entry rest ih =>
    obtain ⟨k, v⟩ := entry
    by_cases h : k = name
    · simp [put, h, get?_cons]
    · simp [put, h, get?_cons, Ne.symm h, ih]

theorem get?_put_of_ne {name other : String} (h : other ≠ name) (value : α) (t : Table α) :
    (put name value t).get? other = t.get? other := by
  induction t with
  | nil => simp [put, get?_cons, h]
  | cons entry rest ih =>
    obtain ⟨k, v⟩ := entry
    by_cases hk : k = name
    · subst hk
      simp [put, get?_cons, h]
    · simp [put, hk, get?_cons, ih]

end Table

end TagTree
