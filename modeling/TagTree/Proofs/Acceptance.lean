import TagTree.Proofs.Normalisation

/-!
# Which documents are loaded

A JSON document describes a tree if it is an object with a text as its type, with descriptions of
trees as its children if it has any, and with no member whose name is reserved. Loading such a
document succeeds, with one exception: a member named `self` is neither reserved nor accepted. Every
other document is refused, and the first flaw in the order of reading is reported. An object is read
after its children, and a member named `self` is noticed before those with reserved names.

Which fault is reported for which document is said by a relation on documents (`Json.Rejected`). A
document is either loaded or rejected by it, and loading one that is rejected fails as it says.
-/

namespace TagTree

open Op

/-! ## Descriptions of trees -/

namespace Json

/-- Names that members of a description may have: those that are known, and all others that do not
begin with a low line and that are not the name of something that every smart node has. -/
def IsFree (name : String) : Prop :=
  name ∈ ["type", "nodes", "value", "val", "parent"] ∨
    name.toList.head? ≠ some '_' ∧ name ∉ Node.reservedNames

/-- Objects with a text as type, with members whose names satisfy a condition, and below them,
unless the children are missing or null, objects of the same kind. -/
inductive Describes (names : String → Prop) : Json → Prop
  | leaf {members : List (String × Json)} {type : String} (htype : field members "type" = .str type)
      (hnodes : field members "nodes" = .null) (hnames : ∀ m ∈ members, names m.1) :
      Describes names (.obj members)
  | tree {members : List (String × Json)} {type : String} {items : List Json}
      (htype : field members "type" = .str type) (hnodes : field members "nodes" = .arr items)
      (hitems : ∀ j ∈ items, Describes names j) (hnames : ∀ m ∈ members, names m.1) :
      Describes names (.obj members)

def WellFormed : Json → Prop :=
  Describes IsFree

/-- A well-formed document in which no object that describes a node has a member named `self`. -/
def Loadable : Json → Prop :=
  Describes fun name ↦ IsFree name ∧ name ≠ "self"

/-- An object has a text as type, and its children, if it has any, can be loaded. -/
def Founded (members : List (String × Json)) : Prop :=
  (∃ type, field members "type" = .str type) ∧
    (field members "nodes" = .null ∨
      ∃ items, field members "nodes" = .arr items ∧ ∀ j ∈ items, Loadable j)

/-- The fault that is reported for a document. -/
inductive Rejected : Json → Fault → Prop
  | notObject {j : Json} (hj : ∀ members, j ≠ .obj members) :
      Rejected j (.argument (.expected "data" .dict) (.str "data"))
  | noType {members : List (String × Json)} (htype : ∀ type, field members "type" ≠ .str type) :
      Rejected (.obj members) (.argument (.expected "data.type" .string) (.str "data"))
  | notArray {members : List (String × Json)} {type : String}
      (htype : field members "type" = .str type) (hnull : field members "nodes" ≠ .null)
      (harray : ∀ items, field members "nodes" ≠ .arr items) :
      Rejected (.obj members) (.argument (.expected "data.nodes" .array) (.str "data.nodes"))
  /-- The first child that cannot be loaded is to blame. -/
  | child {members : List (String × Json)} {type : String} {before after : List Json} {j : Json}
      {fault : Fault} (htype : field members "type" = .str type)
      (hnodes : field members "nodes" = .arr (before ++ j :: after))
      (hbefore : ∀ i ∈ before, Loadable i) (hj : Rejected j fault) : Rejected (.obj members) fault
  | self {members : List (String × Json)} (hfounded : Founded members)
      (hself : "self" ∈ members.map Prod.fst) : Rejected (.obj members) .unsupported
  /-- The first name that is not free is to blame. -/
  | reserved {members : List (String × Json)} {before after : List String} {name : String}
      (hfounded : Founded members) (hself : "self" ∉ members.map Prod.fst)
      (hnames : members.map Prod.fst = before ++ name :: after)
      (hbefore : ∀ other ∈ before, IsFree other) (hname : ¬ IsFree name) :
      Rejected (.obj members) (.argument (.reserved name) (.str name))

/-- A name is that of a member of an object that describes a node. -/
inductive Mentions (name : String) : Json → Prop
  | here {members : List (String × Json)} (h : name ∈ members.map Prod.fst) :
      Mentions name (.obj members)
  | deeper {members : List (String × Json)} {items : List Json} {j : Json}
      (hnodes : field members "nodes" = .arr items) (hj : j ∈ items) (h : Mentions name j) :
      Mentions name (.obj members)

/-! ## Loaded or rejected -/

theorem Describes.mono {names names' : String → Prop} (himp : ∀ name, names name → names' name)
    {j : Json} (hj : Describes names j) : Describes names' j := by
  induction hj with
  | leaf htype hnodes hnames => exact .leaf htype hnodes fun m hm ↦ himp _ (hnames m hm)
  | tree htype hnodes _ hnames ih =>
    exact .tree htype hnodes ih fun m hm ↦ himp _ (hnames m hm)

theorem Loadable.wellFormed {j : Json} (hj : j.Loadable) : j.WellFormed :=
  Describes.mono (fun _ hname ↦ hname.1) hj

theorem Founded.loadable {members : List (String × Json)} (hfounded : Founded members)
    (hnames : ∀ m ∈ members, IsFree m.1 ∧ m.1 ≠ "self") : Loadable (.obj members) := by
  obtain ⟨⟨type, htype⟩, hnull | ⟨items, hnodes, hitems⟩⟩ := hfounded
  · exact .leaf htype hnull hnames
  · exact .tree htype hnodes hitems hnames

/-- If all names are free, only a member named `self` can be wrong. -/
theorem Describes.of_rejected {names : String → Prop} (hfree : ∀ name, names name → IsFree name)
    {j : Json} (hj : Describes names j) {fault : Fault} (hrejected : j.Rejected fault) :
    fault = .unsupported ∧ names "self" := by
  have hown {members : List (String × Json)} (hnames : ∀ m ∈ members, names m.1) {name : String}
      (hmem : name ∈ members.map Prod.fst) : names name := by
    obtain ⟨m, hm, rfl⟩ := List.mem_map.mp hmem
    exact hnames m hm
  induction hrejected with
  | notObject hnot => cases hj <;> exact absurd rfl (hnot _)
  | noType hnone => cases hj <;> exact absurd ‹_› (hnone _)
  | notArray _ hnull harray =>
    cases hj with
    | leaf _ hnodes => exact absurd hnodes hnull
    | tree _ hnodes => exact absurd hnodes (harray _)
  | child _ hnodes _ _ ih =>
    cases hj with
    | leaf _ hnull => cases hnull.symm.trans hnodes
    | tree _ hnodes' hitems =>
      cases hnodes'.symm.trans hnodes
      exact ih (hitems _ (by simp))
  | self _ hself =>
    cases hj with
    | leaf _ _ hnames | tree _ _ _ hnames => exact ⟨rfl, hown hnames hself⟩
  | @reserved members before after name _ _ hmembers _ hname =>
    have hmem : name ∈ members.map Prod.fst := by simp [hmembers]
    cases hj with
    | leaf _ _ hnames | tree _ _ _ hnames => exact absurd (hfree _ (hown hnames hmem)) hname

/-- A document that can be loaded is not rejected. -/
theorem Loadable.not_rejected {j : Json} (hj : j.Loadable) (fault : Fault) :
    ¬ j.Rejected fault :=
  fun hrejected ↦ (hj.of_rejected (fun _ hname ↦ hname.1) hrejected).2.2 rfl

/-- What is wrong is an argument, unless it is a member named `self`. -/
theorem Rejected.argument_or_self {j : Json} {fault : Fault} (h : j.Rejected fault) :
    (∃ complaint blamed, fault = .argument complaint blamed) ∨
      fault = .unsupported ∧ j.Mentions "self" := by
  induction h with
  | child _ hnodes _ _ ih =>
    exact ih.imp_right fun ⟨hfault, hself⟩ ↦ ⟨hfault, .deeper hnodes (by simp) hself⟩
  | self _ hself => exact .inr ⟨rfl, .here hself⟩
  | _ => exact .inl ⟨_, _, rfl⟩

/-- A row of documents can be loaded, or there is a first one that is rejected. -/
theorem all_loadable_or_first_rejected {items : List Json}
    (h : ∀ j ∈ items, j.Loadable ∨ ∃ fault, j.Rejected fault) :
    (∀ j ∈ items, j.Loadable) ∨ ∃ before j after fault, items = before ++ j :: after ∧
      (∀ i ∈ before, i.Loadable) ∧ j.Rejected fault := by
  induction items with
  | nil => exact .inl (by simp)
  | cons j rest ih =>
    obtain ⟨hj, hrest⟩ := List.forall_mem_cons.mp h
    rcases hj with hj | ⟨fault, hj⟩
    · rcases ih hrest with hall | ⟨before, i, after, fault, rfl, hbefore, hi⟩
      · exact .inl (List.forall_mem_cons.mpr ⟨hj, hall⟩)
      · exact .inr ⟨j :: before, i, after, fault, rfl, List.forall_mem_cons.mpr ⟨hj, hbefore⟩, hi⟩
    · exact .inr ⟨[], j, rest, fault, rfl, by simp, hj⟩

/-- All names are free, or there is a first one that is not. -/
theorem all_free_or_first_taken (names : List String) :
    (∀ name ∈ names, IsFree name) ∨ ∃ before name after, names = before ++ name :: after ∧
      (∀ other ∈ before, IsFree other) ∧ ¬ IsFree name := by
  induction names with
  | nil => exact .inl (by simp)
  | cons name rest ih =>
    by_cases hname : IsFree name
    · rcases ih with hall | ⟨before, other, after, rfl, hbefore, hother⟩
      · exact .inl (List.forall_mem_cons.mpr ⟨hname, hall⟩)
      · exact .inr ⟨name :: before, other, after, rfl,
          List.forall_mem_cons.mpr ⟨hname, hbefore⟩, hother⟩
    · exact .inr ⟨[], name, rest, rfl, by simp, hname⟩

/-- An object whose children can be loaded can be loaded itself, or one of its names is to blame. -/
theorem Founded.loadable_or_rejected {members : List (String × Json)}
    (hfounded : Founded members) :
    Loadable (.obj members) ∨ ∃ fault, Rejected (.obj members) fault := by
  by_cases hself : "self" ∈ members.map Prod.fst
  · exact .inr ⟨_, .self hfounded hself⟩
  · rcases all_free_or_first_taken (members.map Prod.fst) with
      hfree | ⟨before, name, after, hnames, hbefore, hname⟩
    · refine .inl (hfounded.loadable fun m hm ↦ ⟨hfree _ (List.mem_map_of_mem hm), ?_⟩)
      exact fun h ↦ hself (h ▸ List.mem_map_of_mem hm)
    · exact .inr ⟨_, .reserved hfounded hself hnames hbefore hname⟩

theorem sizeOf_lt_of_field {members : List (String × Json)} {name : String} {items : List Json}
    (hfield : field members name = .arr items) {j : Json} (hj : j ∈ items) :
    sizeOf j < sizeOf (Json.obj members) := by
  have hmem : (name, .arr items) ∈ members := by
    unfold field at hfield
    cases hget : Table.get? members name with
    | none => rw [hget] at hfield; cases hfield
    | some i =>
      rw [hget] at hfield
      cases hfield
      exact mem_of_lookup hget
  have hmembers := List.sizeOf_lt_of_mem hmem
  have hitems := List.sizeOf_lt_of_mem hj
  simp only [Prod.mk.sizeOf_spec, arr.sizeOf_spec] at hmembers
  simp only [obj.sizeOf_spec]
  omega

/-- Every document can be loaded or is rejected. The induction is on the size of the document. -/
theorem loadable_or_rejected (j : Json) : j.Loadable ∨ ∃ fault, j.Rejected fault := by
  cases j with
  | obj members =>
    by_cases htype : ∃ type, field members "type" = .str type
    · obtain ⟨type, htype⟩ := htype
      cases hnodes : field members "nodes" with
      | null => exact Founded.loadable_or_rejected ⟨⟨type, htype⟩, .inl hnodes⟩
      | arr items =>
        have hall : ∀ j ∈ items, j.Loadable ∨ ∃ fault, j.Rejected fault :=
          fun j hj ↦ loadable_or_rejected j
        rcases all_loadable_or_first_rejected hall with
          hitems | ⟨before, j, after, fault, rfl, hbefore, hj⟩
        · exact Founded.loadable_or_rejected ⟨⟨type, htype⟩, .inr ⟨items, hnodes, hitems⟩⟩
        · exact .inr ⟨fault, .child htype hnodes hbefore hj⟩
      | _ => exact .inr ⟨_, .notArray htype (by simp [hnodes]) (by simp [hnodes])⟩
    · exact .inr ⟨_, .noType fun type h ↦ htype ⟨type, h⟩⟩
  | _ => exact .inr ⟨_, .notObject fun _ h ↦ by cases h⟩
termination_by sizeOf j
decreasing_by exact sizeOf_lt_of_field hnodes hj

/-- A document can be loaded if and only if it is well formed and a member named `self` is not what
is reported for it. -/
theorem loadable_iff {j : Json} : j.Loadable ↔ j.WellFormed ∧ ¬ j.Rejected .unsupported := by
  constructor
  · exact fun hj ↦ ⟨hj.wellFormed, hj.not_rejected _⟩
  · rintro ⟨hwell, hself⟩
    rcases j.loadable_or_rejected with hj | ⟨fault, hfault⟩
    · exact hj
    · exact absurd ((hwell.of_rejected (fun _ hname ↦ hname) hfault).1 ▸ hfault) hself

end Json

/-! ## Members and what is asked for -/

theorem Orchard.weight_append_le {α : Type} (s t : Orchard α) :
    (s.append t).weight ≤ s.weight + t.weight := by
  induction s with
  | nil => exact Nat.le_add_left _ _
  | leaf x rest ih => simp only [append, weight]; omega
  | tree x below rest _ ih => simp only [append, weight]; omega

namespace Heap

open Json (IsFree Loadable Founded Rejected)

variable {h : Heap} {members : List (String × Json)} {entries : List (Value × Value)}

/-- The keys of a mapping that stands for an object are the names of the members. -/
theorem RepresentsMembers.exists_table (hm : h.RepresentsMembers members entries) :
    ∃ t : Table Value, entries = t.entries ∧ t.keys = members.map Prod.fst := by
  induction members generalizing entries with
  | nil => cases hm; exact ⟨[], rfl, rfl⟩
  | cons m rest ih =>
    obtain ⟨name, j⟩ := m
    obtain ⟨v, others, rfl, -, hrest⟩ := hm
    obtain ⟨t, rfl, hkeys⟩ := ih hrest
    exact ⟨(name, v) :: t, rfl, congrArg (name :: ·) hkeys⟩

theorem RepresentsMembers.isText_type (hm : h.RepresentsMembers members entries) {type : String}
    (htype : Json.field members "type" = .str type) :
    isText (Document.field entries "type") = true := by
  have hv := hm.field "type"
  rw [htype] at hv
  rw [show Document.field entries "type" = .str type from hv]
  rfl

theorem Represents.of_null {j : Json} {v : Value} (hv : h.Represents j v) (hnull : v = .null) :
    j = .null := by
  cases j with
  | null => rfl
  | arr items | obj members =>
    obtain ⟨a, _, rfl, -⟩ := hv
    cases hnull
  | _ => cases hv; cases hnull

theorem Represents.of_str {j : Json} {v : Value} {text : String} (hv : h.Represents j v)
    (htext : v = .str text) : j = .str text := by
  cases j with
  | str other => cases hv; cases htext; rfl
  | arr items | obj members =>
    obtain ⟨a, _, rfl, -⟩ := hv
    cases htext
  | _ => cases hv; cases htext

theorem RepresentsMembers.field_null (hm : h.RepresentsMembers members entries) {name : String}
    (hfield : Json.field members name = .null) : Document.field entries name = .null := by
  have hv := hm.field name
  rw [hfield] at hv
  exact hv

theorem RepresentsMembers.field_arr (hm : h.RepresentsMembers members entries) {name : String}
    {items : List Json} (hfield : Json.field members name = .arr items) :
    ∃ l values, Document.field entries name = .ref l ∧ h.get? l = some (.list values) ∧
      h.RepresentsAll items values := by
  have hv := hm.field name
  rw [hfield] at hv
  exact hv

theorem RepresentsAll.split {front back : List Json} {docs : List Value}
    (hdocs : h.RepresentsAll (front ++ back) docs) :
    ∃ docs₁ docs₂, docs = docs₁ ++ docs₂ ∧ h.RepresentsAll front docs₁ ∧
      h.RepresentsAll back docs₂ := by
  induction front generalizing docs with
  | nil => exact ⟨[], docs, rfl, rfl, hdocs⟩
  | cons j front ih =>
    obtain ⟨v, others, rfl, hv, hothers⟩ := hdocs
    obtain ⟨docs₁, docs₂, rfl, hfront, hback⟩ := ih hothers
    exact ⟨v :: docs₁, docs₂, rfl, ⟨v, docs₁, rfl, hv, hfront⟩, hback⟩

end Heap

namespace Document

open Json (IsFree)

variable {σ : Type} {w : World σ} {t : Table Value}

/-- The extra attributes that entries with these names ask for. -/
def extraOf (t : Table Value) : Table Value :=
  t.filter fun entry ↦ !knownKeys.contains (.str entry.1)

theorem extras_entries (t : Table Value) : extras t.entries = .ok (extraOf t) := by
  rw [extras_eq_ok_iff, Table.entries, Table.entries, List.filter_map]
  rfl

theorem contains_self_extraOf : Table.contains (extraOf t) "self" = true ↔ "self" ∈ t.keys := by
  have hget : Table.get? (extraOf t) "self" = Table.get? t "self" := by
    rw [get?_of_extras (extras_entries t) (by decide), lookup_entries]
  rw [Table.contains, hget, Table.get?]
  constructor
  · intro hfound
    obtain ⟨v, hv⟩ := Option.isSome_iff_exists.mp hfound
    exact List.mem_map_of_mem (mem_of_lookup hv)
  · intro hmem
    obtain ⟨entry, hentry, hname⟩ := List.mem_map.mp hmem
    cases hlookup : t.lookup "self" with
    | some v => rfl
    | none =>
      have hne := List.lookup_eq_none_iff.mp hlookup entry hentry
      simp [hname] at hne

/-- The names that are not free are the reserved ones among those that are given to a node as extra
attributes. -/
theorem not_isFree_iff {name : String} :
    ¬ IsFree name ↔ .str name ∉ knownKeys ∧ name ≠ "parent" ∧ Node.isReserved name = true := by
  simp only [IsFree, Node.isReserved, knownKeys, List.mem_cons, Value.str.injEq, List.not_mem_nil,
    or_false, Bool.or_eq_true, beq_iff_eq, List.contains_iff_mem]
  grind

theorem mem_erase_extraOf {entry : String × Value} :
    entry ∈ Table.erase (extraOf t) "parent" ↔
      entry ∈ t ∧ .str entry.1 ∉ knownKeys ∧ entry.1 ≠ "parent" := by
  simp only [Table.erase, extraOf, List.mem_filter, List.contains_eq_mem, Bool.not_eq_eq_eq_not,
    Bool.not_true, decide_eq_false_iff_not, bne_iff_ne, and_assoc]

/-- If all names are free, no extra attribute has a reserved name. -/
theorem free_of_isFree (hfree : ∀ name ∈ t.keys, IsFree name) :
    ∀ entry ∈ Table.erase (extraOf t) "parent", Node.isReserved entry.1 = false := by
  intro entry hmem
  obtain ⟨hentry, hknown, hparent⟩ := mem_erase_extraOf.mp hmem
  cases hreserved : Node.isReserved entry.1 with
  | false => rfl
  | true =>
    have hfree := hfree _ (List.mem_map_of_mem hentry)
    exact absurd hfree (not_isFree_iff.mpr ⟨hknown, hparent, hreserved⟩)

/-- The first name that is not free is the first reserved name of an extra attribute. -/
theorem find?_reserved {before after : List String} {name : String}
    (hkeys : t.keys = before ++ name :: after) (hbefore : ∀ other ∈ before, IsFree other)
    (hname : ¬ IsFree name) :
    ∃ v, (Table.erase (extraOf t) "parent").find? (fun entry ↦ Node.isReserved entry.1) =
      some (name, v) := by
  obtain ⟨front, back, rfl, rfl, hback⟩ := List.map_eq_append_iff.mp hkeys
  obtain ⟨⟨other, v⟩, rest, rfl, hother, -⟩ := List.map_eq_cons_iff.mp hback
  obtain rfl : other = name := hother
  obtain ⟨hknown, hparent, hreserved⟩ := not_isFree_iff.mp hname
  have hsplit : Table.erase (extraOf (front ++ (other, v) :: rest)) "parent" =
      Table.erase (extraOf front) "parent" ++
        (other, v) :: Table.erase (extraOf rest) "parent" := by
    simp [Table.erase, extraOf, hknown, hparent]
  refine ⟨v, List.find?_eq_some_iff_append.mpr ⟨hreserved, _, _, hsplit, fun entry hmem ↦ ?_⟩⟩
  simp [free_of_isFree hbefore entry hmem]

theorem complete_of_self (call : Caller σ) (nodes : Value) (hself : "self" ∈ t.keys) :
    complete call t.entries nodes w = .error .unsupported w := by
  rw [complete, extras_entries, bind_of_ok (fromExcept_ok_apply _ w),
    contains_self_extraOf.mpr hself]
  rfl

theorem complete_of_reserved (call : Caller σ) (nodes : Value)
    (htext : isText (field t.entries "type") = true) (hself : "self" ∉ t.keys)
    {before after : List String} {name : String} (hkeys : t.keys = before ++ name :: after)
    (hbefore : ∀ other ∈ before, IsFree other) (hname : ¬ IsFree name) :
    complete call t.entries nodes w = .error (.argument (.reserved name) (.str name)) w := by
  obtain ⟨v, hfind⟩ := find?_reserved hkeys hbefore hname
  have hcontains : Table.contains (extraOf t) "self" = false := by
    rw [← Bool.not_eq_true, contains_self_extraOf]
    exact hself
  rw [complete, extras_entries, bind_of_ok (fromExcept_ok_apply _ w), hcontains]
  simp [Node.smart, partsOf, bind_apply, htext, hfind]

end Document

/-! ## Documents that can be loaded -/

namespace Heap

open Json (IsFree Loadable Founded)

variable {h : Heap} {members : List (String × Json)} {entries : List (Value × Value)}

/-- A page can be read off the members of an object whose names are all right. -/
theorem RepresentsMembers.exists_page (hm : h.RepresentsMembers members entries)
    (hkeys : (entries.map Prod.fst).Nodup) {type : String}
    (htype : Json.field members "type" = .str type)
    (hnames : ∀ m ∈ members, IsFree m.1 ∧ m.1 ≠ "self") : ∃ p : Page, p.ReadFrom entries := by
  have htext := hm.isText_type htype
  obtain ⟨t, rfl, ht⟩ := hm.exists_table
  have hown : ∀ name ∈ t.keys, IsFree name ∧ name ≠ "self" := by
    intro name hmem
    rw [ht] at hmem
    obtain ⟨m, hm, rfl⟩ := List.mem_map.mp hmem
    exact hnames m hm
  have hself : Table.contains (Document.extraOf t) "self" = false := by
    rw [← Bool.not_eq_true, Document.contains_self_extraOf]
    exact fun hmem ↦ (hown _ hmem).2 rfl
  obtain ⟨p, hp, -⟩ := Document.exists_page hkeys htext (Document.extras_entries t) hself
    (Document.free_of_isFree fun name hmem ↦ (hown name hmem).1)
  exact ⟨p, hp⟩

/-- Wherever a document stands in a heap, it asks for a tree that is no larger than a bound. -/
def AsksWithin (bound : Nat) (j : Json) : Prop :=
  ∀ {h : Heap} {v : Value}, h.Represents j v → ∃ D : Orchard Page, D.weight ≤ bound ∧ h.Asks D [v]

theorem exists_asks_all {items : List Json} (hitems : ∀ j ∈ items, ∃ bound, AsksWithin bound j) :
    ∃ bound, ∀ {h : Heap} {docs : List Value}, h.RepresentsAll items docs →
      ∃ D : Orchard Page, D.weight ≤ bound ∧ h.Asks D docs := by
  induction items with
  | nil =>
    refine ⟨1, fun hdocs ↦ ?_⟩
    cases hdocs
    exact ⟨.nil, Nat.le_refl 1, rfl⟩
  | cons j rest ih =>
    obtain ⟨⟨b, hj⟩, hrest⟩ := List.forall_mem_cons.mp hitems
    obtain ⟨c, hall⟩ := ih hrest
    refine ⟨b + c, fun hdocs ↦ ?_⟩
    obtain ⟨v, others, rfl, hfirst, hothers⟩ := hdocs
    obtain ⟨D, hD, hasks⟩ := hj hfirst
    obtain ⟨E, hE, hasks'⟩ := hall hothers
    have hweight := D.weight_append_le E
    exact ⟨D.append E, by omega, hasks.append hasks'⟩

/-- A document that can be loaded asks for a tree. The induction is on the document. -/
theorem exists_asks {j : Json} (hj : j.Loadable) : ∃ bound, AsksWithin bound j := by
  induction hj with
  | leaf htype hnodes hnames =>
    refine ⟨2, fun hv ↦ ?_⟩
    obtain ⟨a, entries, rfl, hget, hkeys, hm⟩ := hv
    obtain ⟨p, hp⟩ := hm.exists_page hkeys htype hnames
    exact ⟨.leaf p .nil, Nat.le_refl 2, _, [], entries, rfl, dict?_of_get? hget, hp,
      hm.field_null hnodes, rfl⟩
  | tree htype hnodes _ hnames ih =>
    obtain ⟨bound, hall⟩ := exists_asks_all ih
    refine ⟨bound + 2, fun hv ↦ ?_⟩
    obtain ⟨a, entries, rfl, hget, hkeys, hm⟩ := hv
    obtain ⟨p, hp⟩ := hm.exists_page hkeys htype hnames
    obtain ⟨l, values, hl, hgetl, hvalues⟩ := hm.field_arr hnodes
    obtain ⟨D, hD, hasks⟩ := hall hvalues
    refine ⟨.tree p D .nil, ?_, _, [], entries, values, rfl, dict?_of_get? hget, hp, ?_, hasks, rfl⟩
    · simp only [Orchard.weight]
      omega
    · rw [hl]
      exact list?_of_get? hgetl

end Heap

/-! ## Documents that are rejected -/

namespace Document

open Json (Founded Loadable)

variable {σ : Type} {w : World σ} {v : Value} {entries : List (Value × Value)}
  {members : List (String × Json)}

/-- A row of documents that can be loaded is loaded, and everything else stays as it is. -/
theorem exists_bound_mapM {items : List Json} (hitems : ∀ j ∈ items, j.Loadable) :
    ∃ bound, ∀ (foreign : Caller σ) (m n : Nat) (w : World σ) (docs : List Value), bound ≤ n →
      w.heap.RepresentsAll items docs →
      ∃ children h, docs.mapM (toSmart (invoke foreign (m + 1)) n) w =
        .ok children { w with heap := h } ∧ w.heap.Extends h := by
  obtain ⟨bound, hall⟩ := Heap.exists_asks_all fun j hj ↦ Heap.exists_asks (hitems j hj)
  refine ⟨bound, fun foreign m n w docs hn hdocs ↦ ?_⟩
  obtain ⟨D, hD, hasks⟩ := hall hdocs
  obtain ⟨t, h, hrun, hloaded, -⟩ :=
    mapM_toSmart_of_asks foreign m D hasks (Nat.le_trans hD hn)
  exact ⟨_, h, hrun, hloaded.extends_heap⟩

/-- Once it is known that the children are in a list, they are loaded. -/
theorem toSmart_of_list (call : Caller σ) (n : Nat) {l : Addr} {values : List Value}
    (hdict : w.heap.dict? v = some entries) (htext : isText (field entries "type") = true)
    (hnodes : field entries "nodes" = .ref l) (hget : w.heap.get? l = some (.list values)) :
    toSmart call (n + 1) v w =
      (do
        let children ← values.mapM (toSmart call n)
        complete call entries (← new (.list children)) : Op σ Value) w := by
  have hrequire : (requireList (.ref l) "data.nodes" false : Op σ Unit) w = .ok () w :=
    require_apply_true (by simp [Heap.list?_of_get? hget]) _ _ w
  rw [toSmart_of_dict call n hdict htext, hnodes, if_neg (by simp), bind_of_ok hrequire,
    bind_of_ok (iterate_apply hget)]

/-- An object is completed once its children are loaded. -/
theorem exists_bound_founded (hfounded : Founded members) :
    ∃ bound, ∀ (foreign : Caller σ) (m n : Nat) (w : World σ) (v : Value)
      (entries : List (Value × Value)), bound ≤ n → w.heap.dict? v = some entries →
      w.heap.RepresentsMembers members entries →
      ∃ nodes w', toSmart (invoke foreign (m + 1)) (n + 1) v w =
        complete (invoke foreign (m + 1)) entries nodes w' := by
  obtain ⟨⟨type, htype⟩, hnull | ⟨items, hnodes, hitems⟩⟩ := hfounded
  · refine ⟨0, fun foreign m n w v entries _ hdict hm ↦ ⟨.null, w, ?_⟩⟩
    rw [toSmart_of_dict _ n hdict (hm.isText_type htype), if_pos (hm.field_null hnull)]
  · obtain ⟨bound, hall⟩ := exists_bound_mapM (σ := σ) hitems
    refine ⟨bound, fun foreign m n w v entries hn hdict hm ↦ ?_⟩
    obtain ⟨l, values, hl, hget, hvalues⟩ := hm.field_arr hnodes
    obtain ⟨children, h, hrun, -⟩ := hall foreign m n w values hn hvalues
    refine ⟨.ref h.fresh, { w with heap := h.add (.list children) }, ?_⟩
    rw [toSmart_of_list _ n hdict (hm.isText_type htype) hl hget, bind_of_ok hrun,
      bind_of_ok (new_apply _ _)]

theorem mapM_error {α β : Type} {f : α → Op σ β} {front : List α} {a : α} {back : List α}
    {w₁ w₂ : World σ} {done : List β} {fault : Fault} (hfront : front.mapM f w = .ok done w₁)
    (ha : f a w₁ = .error fault w₂) : (front ++ a :: back).mapM f w = .error fault w₂ := by
  rw [List.mapM_append, bind_of_ok hfront, List.mapM_cons, bind_of_error (bind_of_error ha _)]

section Refusals

variable (call : Caller σ) (n : Nat)

theorem toSmart_of_notDict (hdict : w.heap.dict? v = none) :
    toSmart call (n + 1) v w = .error (.argument (.expected "data" .dict) (.str "data")) w := by
  rw [toSmart, bind_of_ok (heap_apply w), hdict]
  rfl

theorem toSmart_of_notText (hdict : w.heap.dict? v = some entries)
    (htext : isText (field entries "type") = false) :
    toSmart call (n + 1) v w =
      .error (.argument (.expected "data.type" .string) (.str "data")) w := by
  unfold field at htext
  rw [toSmart, bind_of_ok (heap_apply w), hdict]
  simp only [htext, Bool.not_false, if_true]
  rfl

theorem toSmart_of_notList (hdict : w.heap.dict? v = some entries)
    (htext : isText (field entries "type") = true) (hnull : field entries "nodes" ≠ .null)
    (hlist : w.heap.list? (field entries "nodes") = none) :
    toSmart call (n + 1) v w =
      .error (.argument (.expected "data.nodes" .array) (.str "data.nodes")) w := by
  have hrequire : (requireList (field entries "nodes") "data.nodes" false : Op σ Unit) w =
      .error (.argument (.expected "data.nodes" .array) (.str "data.nodes")) w :=
    require_apply_false (by simp [hlist]) _ _ w
  rw [toSmart_of_dict call n hdict htext, if_neg hnull, bind_of_error hrequire]

end Refusals

/-- Loading a document that is rejected fails as it says. The induction is on the reason. -/
theorem exists_bound_rejected {j : Json} {fault : Fault} (hj : j.Rejected fault) :
    ∃ bound, ∀ (foreign : Caller σ) (m n : Nat) (w : World σ) (v : Value), bound ≤ n →
      w.heap.Represents j v →
      ∃ w', toSmart (invoke foreign (m + 1)) (n + 1) v w = .error fault w' := by
  induction hj with
  | notObject hnot =>
    refine ⟨0, fun foreign m n w v _ hv ↦ ⟨w, toSmart_of_notDict _ n ?_⟩⟩
    cases hdict : w.heap.dict? v with
    | none => rfl
    | some entries =>
      obtain ⟨members, hobj, -⟩ := hv.of_dict hdict
      exact absurd hobj (hnot members)
  | noType htype =>
    refine ⟨0, fun foreign m n w v _ hv ↦ ⟨w, ?_⟩⟩
    obtain ⟨a, entries, rfl, hget, -, hm⟩ := hv
    refine toSmart_of_notText _ n (Heap.dict?_of_get? hget) (Bool.eq_false_iff.mpr fun htext ↦ ?_)
    obtain ⟨text, hfield⟩ := isText_eq_true_iff.mp htext
    exact htype text ((hm.field "type").of_str hfield)
  | notArray htype hnull harray =>
    refine ⟨0, fun foreign m n w v _ hv ↦ ⟨w, ?_⟩⟩
    obtain ⟨a, entries, rfl, hget, -, hm⟩ := hv
    refine toSmart_of_notList _ n (Heap.dict?_of_get? hget) (hm.isText_type htype)
      (fun hfield ↦ hnull ((hm.field "nodes").of_null hfield)) ?_
    cases hlist : w.heap.list? (field entries "nodes") with
    | none => rfl
    | some values =>
      obtain ⟨items, hitems, -⟩ := (hm.field "nodes").of_list hlist
      exact absurd hitems (harray items)
  | child htype hnodes hbefore _ ih =>
    obtain ⟨b, hall⟩ := exists_bound_mapM (σ := σ) hbefore
    obtain ⟨c, hfirst⟩ := ih
    refine ⟨max b c + 1, fun foreign m n w v hn hv ↦ ?_⟩
    obtain ⟨n, rfl⟩ : ∃ i, n = i + 1 := ⟨n - 1, by omega⟩
    obtain ⟨a, entries, rfl, hget, -, hm⟩ := hv
    obtain ⟨l, values, hl, hgetl, hvalues⟩ := hm.field_arr hnodes
    obtain ⟨docs, others, rfl, hdocs, u, rest, rfl, hu, -⟩ := hvalues.split
    -- The children before the one to blame are loaded, and change nothing about it.
    obtain ⟨children, h, hrun, hext⟩ := hall foreign m (n + 1) w docs (by omega) hdocs
    obtain ⟨w', hfail⟩ := hfirst foreign m n { w with heap := h } u (by omega) (hu.extend hext)
    refine ⟨w', ?_⟩
    rw [toSmart_of_list _ (n + 1) (Heap.dict?_of_get? hget) (hm.isText_type htype) hl hgetl,
      bind_of_error (mapM_error hrun hfail)]
  | self hfounded hself =>
    obtain ⟨b, hall⟩ := exists_bound_founded (σ := σ) hfounded
    refine ⟨b, fun foreign m n w v hn hv ↦ ?_⟩
    obtain ⟨a, entries, rfl, hget, -, hm⟩ := hv
    obtain ⟨nodes, w', hrun⟩ := hall foreign m n w _ entries hn (Heap.dict?_of_get? hget) hm
    obtain ⟨t, rfl, hkeys⟩ := hm.exists_table
    exact ⟨w', hrun.trans (complete_of_self _ nodes (hkeys ▸ hself))⟩
  | reserved hfounded hself hnames hbefore hname =>
    obtain ⟨b, hall⟩ := exists_bound_founded (σ := σ) hfounded
    refine ⟨b, fun foreign m n w v hn hv ↦ ?_⟩
    obtain ⟨a, entries, rfl, hget, -, hm⟩ := hv
    obtain ⟨nodes, w', hrun⟩ := hall foreign m n w _ entries hn (Heap.dict?_of_get? hget) hm
    obtain ⟨type, htype⟩ := hfounded.1
    have htext := hm.isText_type htype
    obtain ⟨t, rfl, hkeys⟩ := hm.exists_table
    exact ⟨w', hrun.trans (complete_of_reserved _ nodes htext (hkeys ▸ hself)
      (hkeys.trans hnames) hbefore hname)⟩

/-- A document is rejected with one fault only, since loading it fails in one way only. -/
theorem fault_unique (foreign : Caller σ) {j : Json} (hj : w.heap.Represents j v)
    {fault fault' : Fault} (h : j.Rejected fault) (h' : j.Rejected fault') : fault' = fault := by
  obtain ⟨b, hall⟩ := exists_bound_rejected (σ := σ) h
  obtain ⟨c, hall'⟩ := exists_bound_rejected (σ := σ) h'
  obtain ⟨w₁, hrun⟩ := hall foreign 0 (max b c) w v (Nat.le_max_left b c) hj
  obtain ⟨w₂, hrun'⟩ := hall' foreign 0 (max b c) w v (Nat.le_max_right b c) hj
  exact (EStateM.Result.error.inj (hrun'.symm.trans hrun)).1

/-- From some bound on, a document is loaded if it can be, and otherwise the fault is reported that
it is rejected with. -/
theorem loader_outcome (foreign : Caller σ) {j : Json} (hj : w.heap.Represents j v) :
    ∃ bound, ∀ n ≥ bound,
      (j.Loadable ∧ ∃ root w', invoke foreign n .loader [v] [] w = .ok root w') ∨
      ∃ fault w', j.Rejected fault ∧ invoke foreign n .loader [v] [] w = .error fault w' := by
  rcases j.loadable_or_rejected with hload | ⟨fault, hfault⟩
  · obtain ⟨bound, hasks⟩ := Heap.exists_asks hload
    obtain ⟨D, hD, hasks⟩ := hasks hj
    refine ⟨bound + 1, fun n hn ↦ .inl ⟨hload, ?_⟩⟩
    obtain ⟨x, t, h, -, hrun, -⟩ := loader_of_asks foreign hasks (n := n) (by omega)
    exact ⟨_, _, hrun⟩
  · obtain ⟨bound, hall⟩ := exists_bound_rejected (σ := σ) hfault
    refine ⟨bound + 2, fun n hn ↦ .inr ⟨fault, ?_⟩⟩
    obtain ⟨n, rfl⟩ : ∃ i, n = i + 2 := ⟨n - 2, by omega⟩
    obtain ⟨w', hrun⟩ := hall foreign n n w v (by omega) hj
    exact ⟨w', hfault, hrun⟩

end Document

/-- A JSON document is loaded if and only if it is well formed and no member named `self` is in the
way. Otherwise the fault is reported that it is rejected with, and no other: that is a complaint
about an argument, or it is due to a member named `self`. -/
theorem loader_accepts_wellFormed {σ : Type} (foreign : Caller σ) {w : World σ} {d : Json}
    {v : Value} (hd : w.heap.Represents d v) :
    ∃ bound, ∀ n ≥ bound,
      ((∃ root w', invoke foreign n .loader [v] [] w = .ok root w') ↔
        d.WellFormed ∧ ¬ d.Rejected .unsupported) ∧
      (∀ fault, (∃ w', invoke foreign n .loader [v] [] w = .error fault w') ↔
        d.Rejected fault) ∧
      ∀ fault, d.Rejected fault →
        (∃ complaint blamed, fault = .argument complaint blamed) ∨
          fault = .unsupported ∧ d.Mentions "self" := by
  obtain ⟨bound, houtcome⟩ := Document.loader_outcome foreign hd
  refine ⟨bound, fun n hn ↦ ?_⟩
  rw [← Json.loadable_iff]
  rcases houtcome n hn with ⟨hload, root, w', hrun⟩ | ⟨fault, w', hfault, hrun⟩
  · refine ⟨by simp [hrun, hload], fun fault ↦ ?_, fun fault h ↦ h.argument_or_self⟩
    simp [hrun, hload.not_rejected]
  · have hload : ¬ d.Loadable := fun hload ↦ hload.not_rejected _ hfault
    refine ⟨by simp [hrun, hload], fun other ↦ ⟨?_, fun hother ↦ ?_⟩,
      fun fault h ↦ h.argument_or_self⟩
    · rintro ⟨_, hother⟩
      rw [hrun] at hother
      cases hother
      exact hfault
    · rw [Document.fault_unique foreign hd hfault hother]
      exact ⟨w', hrun⟩

/-- A document with a good child in front of one that would hide an ability of its node. -/
def spoiltNotice : Json :=
  .obj [("type", .str "a"), ("nodes", .arr
    [.obj [("type", .str "b"), ("line", .int 3)],
     .obj [("type", .str "c"), ("lang", .str "en"), ("push", .int 1)]])]

/-- A document with an extra attribute that no node has and that begins with a letter. -/
def selfish : Json :=
  .obj [("type", .str "a"), ("self", .int 1)]

/-- A world with nothing but these documents, the first at 3 and the second at 4. -/
def spoiltWorld : World Unit where
  heap := { cells := #[
    some (.dict [(.str "type", .str "b"), (.str "line", .int 3)]),
    some (.dict [(.str "type", .str "c"), (.str "lang", .str "en"), (.str "push", .int 1)]),
    some (.list [.ref 0, .ref 1]),
    some (.dict [(.str "type", .str "a"), (.str "nodes", .ref 2)]),
    some (.dict [(.str "type", .str "a"), (.str "self", .int 1)])] }
  client := ()

/-- The second child is to blame. -/
theorem spoiltNotice_rejected :
    let foreign : Caller Unit := fun _ _ _ ↦ throw .unsupported
    spoiltWorld.heap.Represents spoiltNotice (.ref 3) ∧
      ∃ bound, ∀ n ≥ bound, ∃ w', invoke foreign n .loader [.ref 3] [] spoiltWorld =
        .error (.argument (.reserved "push") (.str "push")) w' := by
  intro foreign
  have hd : spoiltWorld.heap.Represents spoiltNotice (.ref 3) :=
    ⟨3, _, rfl, rfl, by decide, _, _, rfl, rfl, _, _, rfl,
      ⟨2, _, rfl, rfl, _, _, rfl, ⟨0, _, rfl, rfl, by decide, _, _, rfl, rfl, _, _, rfl, rfl, rfl⟩,
        _, _, rfl,
        ⟨1, _, rfl, rfl, by decide, _, _, rfl, rfl, _, _, rfl, rfl, _, _, rfl, rfl, rfl⟩, rfl⟩, rfl⟩
  let first : Json := .obj [("type", .str "b"), ("line", .int 3)]
  let second : List (String × Json) :=
    [("type", .str "c"), ("lang", .str "en"), ("push", .int 1)]
  have hfirst : first.Loadable := .leaf rfl rfl (by simp [Json.IsFree, Node.reservedNames])
  have hnames : second.map Prod.fst = ["type", "lang"] ++ "push" :: [] := rfl
  have hsecond : Json.Rejected (.obj second) (.argument (.reserved "push") (.str "push")) :=
    .reserved ⟨⟨"c", rfl⟩, .inl rfl⟩ (by decide) hnames
      (by simp [Json.IsFree, Node.reservedNames]) (by simp [Json.IsFree, Node.reservedNames])
  have hrejected : spoiltNotice.Rejected (.argument (.reserved "push") (.str "push")) := by
    have hnodes : Json.field [("type", .str "a"), ("nodes", .arr [first, .obj second])] "nodes" =
        .arr ([first] ++ .obj second :: []) := rfl
    exact .child rfl hnodes (List.forall_mem_singleton.mpr hfirst) hsecond
  obtain ⟨bound, houtcome⟩ := loader_accepts_wellFormed foreign hd
  exact ⟨hd, bound, fun n hn ↦ ((houtcome n hn).2.1 _).mpr hrejected⟩

/-- A well-formed document is refused, and not with a complaint about an argument. -/
theorem selfish_refused :
    selfish.WellFormed ∧ spoiltWorld.heap.Represents selfish (.ref 4) ∧
      ∀ (foreign : Caller Unit) (n : Nat),
        invoke foreign (n + 2) .loader [.ref 4] [] spoiltWorld =
          .error .unsupported spoiltWorld := by
  refine ⟨.leaf rfl rfl (by simp [Json.IsFree, Node.reservedNames]), ?_, fun foreign n ↦ rfl⟩
  exact ⟨4, _, rfl, rfl, by decide, _, _, rfl, rfl, _, _, rfl, rfl, rfl⟩

end TagTree
