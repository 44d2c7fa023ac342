import TagTree.Json.Basic
import TagTree.Proofs.Loading

/-!
# Normal documents

A JSON document from which a tree can be loaded need not look like the document of that tree: the
payload may be under its older name or null, a parent may be given, and the members may come in any
order. This module says what the document of the loaded tree is, as a function of the document it
was loaded from.
-/

namespace TagTree

open Op

/-! ## The normal form -/

namespace Json

def isNull : Json → Bool
  | .null => true
  | _ => false

/-- The value of a member, or null. -/
def field (members : List (String × Json)) (name : String) : Json :=
  (Table.get? members name).getD .null

/-- The payload that members ask for: the value, or the older value if there is none. -/
def payload (members : List (String × Json)) : Json :=
  if (field members "value").isNull then field members "val" else field members "value"

/-- The members of a normal document apart from the children. -/
def pageMembers (members : List (String × Json)) : List (String × Json) :=
  ("type", field members "type") ::
    ((if (payload members).isNull then [] else [("value", payload members)]) ++
      members.filter fun m ↦ !(["parent", "type", "value", "val", "nodes"].contains m.1))

mutual

/-- The document of the tree that is loaded from a document. -/
def normal : Json → Json
  | .obj members =>
    .obj (pageMembers members ++
      match normalNodes members with
      | none => []
      | some items => [("nodes", .arr items)])
  | j => j

def normalNodes : List (String × Json) → Option (List Json)
  | [] => none
  | (name, j) :: rest => if name = "nodes" then normalItems j else normalNodes rest

def normalItems : Json → Option (List Json)
  | .arr items => some (normalAll items)
  | _ => none

def normalAll : List Json → List Json
  | [] => []
  | j :: rest => j.normal :: normalAll rest

end

theorem normalNodes_eq (members : List (String × Json)) :
    normalNodes members = normalItems (field members "nodes") := by
  induction members with
  | nil => rfl
  | cons m rest ih =>
    obtain ⟨name, j⟩ := m
    rw [normalNodes, field, Table.get?_cons]
    by_cases h : name = "nodes"
    · simp [h]
    · rw [if_neg h, if_neg (Ne.symm h), ih, field]

end Json

/-! ## Documents in a heap -/

namespace Heap

mutual

/-- A value stands for a JSON document. -/
def Represents (h : Heap) : Json → Value → Prop
  | .null, v => v = .null
  | .bool b, v => v = .bool b
  | .int n, v => v = .int n
  | .float x, v => v = .float x
  | .str s, v => v = .str s
  | .arr items, v =>
    ∃ a values, v = .ref a ∧ h.get? a = some (.list values) ∧ h.RepresentsAll items values
  | .obj members, v =>
    ∃ a entries, v = .ref a ∧ h.get? a = some (.dict entries) ∧
      (entries.map Prod.fst).Nodup ∧ h.RepresentsMembers members entries

def RepresentsAll (h : Heap) : List Json → List Value → Prop
  | [], values => values = []
  | j :: rest, values =>
    ∃ v others, values = v :: others ∧ h.Represents j v ∧ h.RepresentsAll rest others

def RepresentsMembers (h : Heap) : List (String × Json) → List (Value × Value) → Prop
  | [], entries => entries = []
  | (name, j) :: rest, entries =>
    ∃ v others, entries = (.str name, v) :: others ∧ h.Represents j v ∧
      h.RepresentsMembers rest others

end

variable {h h' : Heap}

mutual

theorem Represents.extend (hx : h.Extends h') :
    ∀ {j : Json} {v : Value}, h.Represents j v → h'.Represents j v
  | .null, _, hv | .bool _, _, hv | .int _, _, hv | .float _, _, hv | .str _, _, hv => hv
  | .arr _, _, ⟨a, values, hv, hget, hitems⟩ =>
    ⟨a, values, hv, hx.found hget, RepresentsAll.extend hx hitems⟩
  | .obj _, _, ⟨a, entries, hv, hget, hkeys, hmembers⟩ =>
    ⟨a, entries, hv, hx.found hget, hkeys, RepresentsMembers.extend hx hmembers⟩

theorem RepresentsAll.extend (hx : h.Extends h') :
    ∀ {items : List Json} {values : List Value},
      h.RepresentsAll items values → h'.RepresentsAll items values
  | [], _, hv => hv
  | _ :: _, _, ⟨v, others, hv, hfirst, hrest⟩ =>
    ⟨v, others, hv, Represents.extend hx hfirst, RepresentsAll.extend hx hrest⟩

theorem RepresentsMembers.extend (hx : h.Extends h') :
    ∀ {members : List (String × Json)} {entries : List (Value × Value)},
      h.RepresentsMembers members entries → h'.RepresentsMembers members entries
  | [], _, hv => hv
  | (_, _) :: _, _, ⟨v, others, hv, hfirst, hrest⟩ =>
    ⟨v, others, hv, Represents.extend hx hfirst, RepresentsMembers.extend hx hrest⟩

end

theorem Represents.isNull_eq_true_iff {j : Json} {v : Value} (hv : h.Represents j v) :
    j.isNull = true ↔ v = .null := by
  cases j with
  | arr items | obj members =>
    obtain ⟨a, _, rfl, -⟩ := hv
    simp [Json.isNull]
  | _ => cases hv; simp [Json.isNull]

/-- Only objects stand for mappings. -/
theorem Represents.of_dict {j : Json} {v : Value} {entries : List (Value × Value)}
    (hv : h.Represents j v) (hdict : h.dict? v = some entries) :
    ∃ members, j = .obj members ∧ (entries.map Prod.fst).Nodup ∧
      h.RepresentsMembers members entries := by
  obtain ⟨a, rfl, hget⟩ := get?_of_dict? hdict
  cases j with
  | obj members =>
    obtain ⟨b, entries', hb, hget', hkeys, hmembers⟩ := hv
    cases hb
    cases hget.symm.trans hget'
    exact ⟨members, rfl, hkeys, hmembers⟩
  | arr items =>
    obtain ⟨b, values, hb, hget', -⟩ := hv
    cases hb
    cases hget.symm.trans hget'
  | _ => cases hv

/-- Only arrays stand for lists. -/
theorem Represents.of_list {j : Json} {v : Value} {values : List Value}
    (hv : h.Represents j v) (hlist : h.list? v = some values) :
    ∃ items, j = .arr items ∧ h.RepresentsAll items values := by
  obtain ⟨a, rfl, hget⟩ := get?_of_list? hlist
  cases j with
  | arr items =>
    obtain ⟨b, values', hb, hget', hitems⟩ := hv
    cases hb
    cases hget.symm.trans hget'
    exact ⟨items, rfl, hitems⟩
  | obj members =>
    obtain ⟨b, entries, hb, hget', -⟩ := hv
    cases hb
    cases hget.symm.trans hget'
  | _ => cases hv

theorem RepresentsAll.of_mem {items : List Json} {values : List Value}
    (hitems : h.RepresentsAll items values) : ∀ v ∈ values, ∃ j, h.Represents j v := by
  induction items generalizing values with
  | nil =>
    cases hitems
    exact fun v hv ↦ absurd hv List.not_mem_nil
  | cons j rest ih =>
    obtain ⟨u, others, rfl, hfirst, hrest⟩ := hitems
    intro v hv
    rcases List.mem_cons.mp hv with rfl | hv
    · exact ⟨j, hfirst⟩
    · exact ih hrest v hv

/-! ## Members and entries -/

namespace RepresentsMembers

variable {members others : List (String × Json)} {entries rest : List (Value × Value)}

theorem field (hm : h.RepresentsMembers members entries) (name : String) :
    h.Represents (Json.field members name) (Document.field entries name) := by
  induction members generalizing entries with
  | nil => cases hm; rfl
  | cons m rest ih =>
    obtain ⟨key, j⟩ := m
    obtain ⟨v, others, rfl, hv, hrest⟩ := hm
    unfold Json.field Document.field
    rw [Table.get?_cons, Document.lookup_cons_str]
    by_cases hname : name = key
    · rw [if_pos hname, if_pos hname]
      exact hv
    · rw [if_neg hname, if_neg hname]
      exact ih hrest

theorem filter (hm : h.RepresentsMembers members entries) (keep : Value → Bool) :
    h.RepresentsMembers (members.filter fun m ↦ keep (.str m.1))
      (entries.filter fun entry ↦ keep entry.1) := by
  induction members generalizing entries with
  | nil => cases hm; rfl
  | cons m rest ih =>
    obtain ⟨key, j⟩ := m
    obtain ⟨v, others, rfl, hv, hrest⟩ := hm
    cases hkeep : keep (.str key) with
    | true =>
      simp only [List.filter_cons, hkeep, if_true]
      exact ⟨v, _, rfl, hv, ih hrest⟩
    | false =>
      simp only [List.filter_cons, hkeep, Bool.false_eq_true, if_false]
      exact ih hrest

theorem append (hm : h.RepresentsMembers members entries) (ho : h.RepresentsMembers others rest) :
    h.RepresentsMembers (members ++ others) (entries ++ rest) := by
  induction members generalizing entries with
  | nil => cases hm; exact ho
  | cons m members ih =>
    obtain ⟨key, j⟩ := m
    obtain ⟨v, entries, rfl, hv, hm⟩ := hm
    exact ⟨v, entries ++ rest, rfl, hv, ih hm⟩

/-- A single member. -/
theorem single {j : Json} {v : Value} (hv : h.Represents j v) (name : String) :
    h.RepresentsMembers [(name, j)] [(.str name, v)] :=
  ⟨v, [], rfl, hv, rfl⟩

/-- The payload that members ask for is the one that their entries ask for. -/
theorem payload (hm : h.RepresentsMembers members entries) {p : Page} (hp : p.ReadFrom entries) :
    h.Represents (Json.payload members) p.payload := by
  rw [← hp.payload_eq, Json.payload]
  have hnull := (hm.field "value").isNull_eq_true_iff
  by_cases hv : Document.field entries "value" = .null
  · rw [if_pos hv, if_pos (hnull.mpr hv)]
    exact hm.field "val"
  · rw [if_neg hv, if_neg (hv ∘ hnull.mp)]
    exact hm.field "value"

/-- The page that is read off the entries stands for the members of the normal form. -/
theorem page (hm : h.RepresentsMembers members entries) {p : Page} (hp : p.ReadFrom entries) :
    h.RepresentsMembers (Json.pageMembers members) p.entries := by
  have htype : h.Represents (Json.field members "type") (.str p.type) := by
    rw [← hp.type_eq]
    exact hm.field "type"
  have hvalue : h.RepresentsMembers
      (if (Json.payload members).isNull then [] else [("value", Json.payload members)])
      (if p.payload = .null then [] else [(.str "value", p.payload)]) := by
    have hnull := (hm.payload hp).isNull_eq_true_iff
    by_cases hv : p.payload = .null
    · rw [if_pos hv, if_pos (hnull.mpr hv)]
      rfl
    · rw [if_neg hv, if_neg (hv ∘ hnull.mp)]
      exact single (hm.payload hp) "value"
  have hextra : h.RepresentsMembers
      (members.filter fun m ↦ !(["parent", "type", "value", "val", "nodes"].contains m.1))
      p.extra.entries := by
    have hnames : (fun m : String × Json ↦
        !(["parent", "type", "value", "val", "nodes"].contains m.1)) =
          fun m ↦ !(.str "parent" :: Document.knownKeys).contains (.str m.1) := by
      funext m
      simp [Document.knownKeys]
    rw [hp.extra_eq, hnames]
    exact hm.filter fun key ↦ !(.str "parent" :: Document.knownKeys).contains key
  exact (single htype "type").append (hvalue.append hextra)

/-- The normal form of a mapping without children. -/
theorem normal_leaf (hm : h.RepresentsMembers members entries) {p : Page}
    (hp : p.ReadFrom entries) (hnull : Document.field entries "nodes" = .null) {a : Addr}
    (ha : h.get? a = some (.dict p.entries)) : h.Represents (Json.obj members).normal (.ref a) := by
  have hnone : Json.normalNodes members = none := by
    have hnodes := (hm.field "nodes").isNull_eq_true_iff.mpr hnull
    rw [Json.normalNodes_eq]
    revert hnodes
    cases Json.field members "nodes" <;> simp [Json.isNull, Json.normalItems]
  rw [Json.normal, hnone, List.append_nil]
  exact ⟨a, p.entries, rfl, ha, p.nodup_keys, hm.page hp⟩

/-- The normal form of a mapping with children, given those of the children. -/
theorem normal_tree (hm : h.RepresentsMembers members entries) {p : Page}
    (hp : p.ReadFrom entries) {values lower : List Value} {a l : Addr}
    (hlist : h.list? (Document.field entries "nodes") = some values)
    (ha : h.get? a = some (.dict (p.entries ++ [(.str "nodes", .ref l)])))
    (hl : h.get? l = some (.list lower))
    (hlower : ∀ {items}, h.RepresentsAll items values →
      h.RepresentsAll (Json.normalAll items) lower) :
    h.Represents (Json.obj members).normal (.ref a) := by
  obtain ⟨items, hnodes, hitems⟩ := (hm.field "nodes").of_list hlist
  have hsome : Json.normalNodes members = some (Json.normalAll items) := by
    rw [Json.normalNodes_eq, hnodes]
    rfl
  have hkeys : ((p.entries ++ [(Value.str "nodes", Value.ref l)]).map Prod.fst).Nodup := by
    rw [List.map_append, List.nodup_append]
    refine ⟨p.nodup_keys, by simp, ?_⟩
    rintro key hkey _ hnodes rfl
    rw [List.mem_singleton.mp hnodes] at hkey
    exact p.nodes_notMem_keys hkey
  have hchildren : h.Represents (.arr (Json.normalAll items)) (.ref l) :=
    ⟨l, lower, rfl, hl, hlower hitems⟩
  rw [Json.normal, hsome]
  exact ⟨a, _, rfl, ha, hkeys, (hm.page hp).append (single hchildren "nodes")⟩

end RepresentsMembers

/-! ## The normal form of what was loaded -/

/-- What trees were loaded from, and what they are dumped to, stand for documents and their normal
forms. The induction is on the trees. -/
theorem RepresentsAll.normal {D : Orchard Page} {items : List Json} {docs dumps : List Value}
    (hitems : h.RepresentsAll items docs) (hasks : h.Asks D docs) (hshows : h.Shows D dumps) :
    h.RepresentsAll (Json.normalAll items) dumps := by
  induction D generalizing items docs dumps with
  | nil =>
    cases hasks
    cases hshows
    cases items with
    | nil => rfl
    | cons j rest =>
      obtain ⟨v, others, hnil, -⟩ := hitems
      cases hnil
  | leaf p rest ih =>
    obtain ⟨v, docs, entries, rfl, hdict, hread, hnull, hasks⟩ := hasks
    obtain ⟨a, dumps, rfl, hget, hshows⟩ := hshows
    cases items with
    | nil => cases hitems
    | cons j items =>
      obtain ⟨_, _, hcons, hfirst, hrest⟩ := hitems
      cases hcons
      obtain ⟨members, rfl, -, hmembers⟩ := hfirst.of_dict hdict
      exact ⟨.ref a, dumps, rfl, hmembers.normal_leaf hread hnull hget, ih hrest hasks hshows⟩
  | tree p below rest ihbelow ihrest =>
    obtain ⟨v, docs, entries, values, rfl, hdict, hread, hlist, hbelow, hasks⟩ := hasks
    obtain ⟨a, l, lower, dumps, rfl, hget, hgetl, hlower, hshows⟩ := hshows
    cases items with
    | nil => cases hitems
    | cons j items =>
      obtain ⟨_, _, hcons, hfirst, hrest⟩ := hitems
      cases hcons
      obtain ⟨members, rfl, -, hmembers⟩ := hfirst.of_dict hdict
      have hnormal := hmembers.normal_tree hread hlist hget hgetl
        fun hvalues ↦ ihbelow hvalues hbelow hlower
      exact ⟨.ref a, dumps, rfl, hnormal, ihrest hrest hasks hshows⟩

/-- JSON documents can be loaded as far as their keys are concerned. -/
theorem keyed_represents : Keyed fun h v ↦ ∃ j, h.Represents j v where
  extend := by
    rintro h h' v ⟨j, hv⟩ hx
    exact ⟨j, hv.extend hx⟩
  distinct := by
    rintro h v entries ⟨j, hv⟩ hdict
    obtain ⟨-, -, hkeys, -⟩ := hv.of_dict hdict
    exact hkeys
  items := by
    rintro h v entries items ⟨j, hv⟩ hdict hlist
    obtain ⟨members, -, -, hmembers⟩ := hv.of_dict hdict
    obtain ⟨nodes, -, hnodes⟩ := (hmembers.field "nodes").of_list hlist
    exact hnodes.of_mem

end Heap

/-- Whenever a tree can be loaded from a JSON document, it is dumped to the normal form of that
document. All its nodes are different, the parent of each of them is the node that has it among its
children, and the root has no parent unless the document gives it one. -/
theorem loaded_tree_dumps_normal {σ : Type} (foreign : Caller σ) {w w' : World σ} {fuel : Nat}
    {d : Json} {v root : Value} (hd : w.heap.Represents d v)
    (hload : invoke foreign fuel .loader [v] [] w = .ok root w') :
    ∃ (x : Plant) (t : Orchard Plant), t.roots = [x] ∧ root = .ref x.addr ∧
      w'.heap.Stands (t.map Plant.site) ∧
      (t.labels.map Plant.addr).Nodup ∧
      (∀ e ∈ t.edges, w'.heap.HasChild (.ref e.1.addr) (.ref e.2.addr) ∧
        w'.heap.attrOrNull (.ref e.2.addr) "parent" = .ref e.1.addr) ∧
      (d.member? "parent" = none → w'.heap.attrOrNull root "parent" = .null) ∧
      ∃ bound, ∀ n ≥ bound, ∃ u w'',
        invoke foreign n (.method x.addr .toDict) [] [] w' = .ok u w'' ∧
          w''.heap.Represents d.normal u := by
  obtain ⟨m, n, hrun⟩ := Document.toSmart_of_invoke hload
  obtain ⟨x, t, h, hroots, rfl, rfl, hloaded, entries, hdict, horphan⟩ :=
    Document.loaded_of_toSmart Heap.keyed_represents foreign m ⟨d, hd⟩ hrun
  refine ⟨x, t, hroots, rfl, hloaded.stands, hloaded.distinct,
    fun e he ↦ ⟨hloaded.hasChild he, hloaded.parent_eq he⟩, ?_, t.weight + 1, ?_⟩
  · intro hnone
    obtain ⟨members, rfl, -, hmembers⟩ := hd.of_dict hdict
    have hnull : Document.field entries "parent" = .null := by
      have hparent := hmembers.field "parent"
      rw [Json.field, show Table.get? members "parent" = none from hnone] at hparent
      exact hparent
    have hroot : x ∈ t.labels := Loaded.mem_labels_of_root (hroots ▸ List.mem_singleton_self x)
    rw [hloaded.attrOrNull_parent hroot (horphan hnull)]
    rfl
  · intro n hn
    obtain ⟨u, h', hdump, hext, hshows⟩ :=
      Document.toDict_of_loaded (w := { w with heap := h }) foreign hloaded hroots hn
    have hd' : h'.RepresentsAll [d] [v] :=
      ⟨v, [], rfl, hd.extend (hloaded.extends_heap.trans hext), rfl⟩
    obtain ⟨_, _, hu, hnormal, -⟩ := hd'.normal (hloaded.asks.relinked hext.relinked) hshows
    cases hu
    exact ⟨u, _, hdump, hnormal⟩

/-- A document with a stray parent, a payload under its older name and an empty row of children. -/
def notice : Json :=
  .obj [("nodes", .arr
      [.obj [("type", .str "b"), ("parent", .str "z"), ("value", .null), ("val", .str "old"),
        ("mark", .arr [.int 1])],
       .obj [("type", .str "c"), ("val", .null), ("nodes", .arr [])]]),
    ("type", .str "a"), ("lang", .str "en")]

/-- A world with nothing but this document. -/
def noticeWorld : World Unit where
  heap := { cells := #[
    some (.list [.int 1]),
    some (.dict [(.str "type", .str "b"), (.str "parent", .str "z"), (.str "value", .null),
      (.str "val", .str "old"), (.str "mark", .ref 0)]),
    some (.list []),
    some (.dict [(.str "type", .str "c"), (.str "val", .null), (.str "nodes", .ref 2)]),
    some (.list [.ref 1, .ref 3]),
    some (.dict [(.str "nodes", .ref 4), (.str "type", .str "a"), (.str "lang", .str "en")])] }
  client := ()

/-- The parent is gone, the payload has its name, and the empty row is still there. -/
theorem notice_dumps_normal :
    let foreign : Caller Unit := fun _ _ _ ↦ throw .unsupported
    noticeWorld.heap.Represents notice (.ref 5) ∧
      ∃ root w', invoke foreign 6 .loader [.ref 5] [] noticeWorld = .ok root w' ∧
        w'.heap.attrOrNull root "parent" = .null ∧
        ∃ (x : Plant) (bound : Nat), root = .ref x.addr ∧ ∀ n ≥ bound, ∃ u w'',
          invoke foreign n (.method x.addr .toDict) [] [] w' = .ok u w'' ∧
            w''.heap.Represents
              (.obj [("type", .str "a"), ("lang", .str "en"), ("nodes", .arr
                [.obj [("type", .str "b"), ("value", .str "old"), ("mark", .arr [.int 1])],
                 .obj [("type", .str "c"), ("nodes", .arr [])]])]) u := by
  intro foreign
  have hfirst : noticeWorld.heap.Represents (.obj [("type", .str "b"), ("parent", .str "z"),
      ("value", .null), ("val", .str "old"), ("mark", .arr [.int 1])]) (.ref 1) :=
    ⟨1, _, rfl, rfl, by decide, _, _, rfl, rfl, _, _, rfl, rfl, _, _, rfl, rfl, _, _, rfl, rfl,
      _, _, rfl, ⟨0, _, rfl, rfl, _, _, rfl, rfl, rfl⟩, rfl⟩
  have hsecond : noticeWorld.heap.Represents
      (.obj [("type", .str "c"), ("val", .null), ("nodes", .arr [])]) (.ref 3) :=
    ⟨3, _, rfl, rfl, by decide, _, _, rfl, rfl, _, _, rfl, rfl, _, _, rfl, ⟨2, _, rfl, rfl, rfl⟩,
      rfl⟩
  have hnotice : noticeWorld.heap.Represents notice (.ref 5) :=
    ⟨5, _, rfl, rfl, by decide, _, _, rfl,
      ⟨4, _, rfl, rfl, _, _, rfl, hfirst, _, _, rfl, hsecond, rfl⟩, _, _, rfl, rfl, _, _, rfl, rfl,
      rfl⟩
  have hok : (match invoke foreign 6 .loader [.ref 5] [] noticeWorld with
      | .ok _ _ => true
      | .error _ _ => false) = true := by decide +kernel
  cases hload : invoke foreign 6 .loader [.ref 5] [] noticeWorld with
  | error fault w' =>
    rw [hload] at hok
    cases hok
  | ok root w' =>
    obtain ⟨x, t, hroots, hroot, -, -, -, horphan, bound, hdump⟩ :=
      loaded_tree_dumps_normal foreign hnotice hload
    exact ⟨hnotice, root, w', rfl, horphan rfl, x, bound, hroot, hdump⟩

end TagTree
