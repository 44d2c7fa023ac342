import TagTree.Proofs.Documents

/-!
# Reading documents

What mappings ask for when trees are to be loaded from them: the type of a node, its payload under
its name or an older one, its children, and everything else as extra attributes, apart from a
parent. What is asked for depends on the entries only, so it stays the same when objects are added
or smart nodes get other parents. The document of a tree asks for that tree.
-/

namespace TagTree

/-! ## What a mapping asks for -/

/-- The value of a key, or null. -/
def Document.field (entries : List (Value × Value)) (name : String) : Value :=
  (entries.lookup (.str name)).getD .null

open Document (field)

/-- The entries of a mapping ask for a node with the given page. -/
structure Page.ReadFrom (p : Page) (entries : List (Value × Value)) : Prop where
  type_eq : field entries "type" = .str p.type
  payload_eq :
    (if field entries "value" = .null then field entries "val" else field entries "value") =
      p.payload
  extra_eq : p.extra.entries =
    entries.filter fun entry ↦ !(.str "parent" :: Document.knownKeys).contains entry.1

/-- Mappings in a heap ask for trees with the given pages. -/
def Heap.Asks (h : Heap) : Orchard Page → List Value → Prop
  | .nil, docs => docs = []
  | .leaf p rest, docs =>
    ∃ v others entries, docs = v :: others ∧ h.dict? v = some entries ∧ p.ReadFrom entries ∧
      field entries "nodes" = .null ∧ h.Asks rest others
  | .tree p below rest, docs =>
    ∃ v others entries items, docs = v :: others ∧ h.dict? v = some entries ∧
      p.ReadFrom entries ∧ h.list? (field entries "nodes") = some items ∧ h.Asks below items ∧
      h.Asks rest others

namespace Heap

variable {h h' : Heap}

theorem Relinked.dict? (hr : h.Relinked h') {v : Value} {entries : List (Value × Value)}
    (hv : h.dict? v = some entries) : h'.dict? v = some entries := by
  obtain ⟨a, rfl, hget⟩ := get?_of_dict? hv
  exact dict?_of_get? (hr.of_collection (fun _ ↦ Object.noConfusion) hget)

theorem Relinked.list? (hr : h.Relinked h') {v : Value} {items : List Value}
    (hv : h.list? v = some items) : h'.list? v = some items := by
  obtain ⟨l, rfl, hget⟩ := get?_of_list? hv
  exact list?_of_get? (hr.of_collection (fun _ ↦ Object.noConfusion) hget)

theorem Asks.relinked {t : Orchard Page} {docs : List Value} (ht : h.Asks t docs)
    (hr : h.Relinked h') : h'.Asks t docs := by
  induction t generalizing docs with
  | nil => exact ht
  | leaf p rest ih =>
    obtain ⟨v, others, entries, rfl, hdict, hread, hnodes, hrest⟩ := ht
    exact ⟨v, others, entries, rfl, hr.dict? hdict, hread, hnodes, ih hrest⟩
  | tree p below rest ihbelow ihrest =>
    obtain ⟨v, others, entries, items, rfl, hdict, hread, hlist, hbelow, hrest⟩ := ht
    exact ⟨v, others, entries, items, rfl, hr.dict? hdict, hread, hr.list? hlist, ihbelow hbelow,
      ihrest hrest⟩

theorem Asks.append {s t : Orchard Page} {docs others : List Value} (hs : h.Asks s docs)
    (ht : h.Asks t others) : h.Asks (s.append t) (docs ++ others) := by
  induction s generalizing docs with
  | nil => cases hs; exact ht
  | leaf p rest ih =>
    obtain ⟨v, docs, entries, rfl, hdict, hread, hnodes, hrest⟩ := hs
    exact ⟨v, docs ++ others, entries, rfl, hdict, hread, hnodes, ih hrest⟩
  | tree p below rest _ ih =>
    obtain ⟨v, docs, entries, items, rfl, hdict, hread, hlist, hbelow, hrest⟩ := hs
    exact ⟨v, docs ++ others, entries, items, rfl, hdict, hread, hlist, hbelow, ih hrest⟩

end Heap

/-! ## Extra attributes -/

namespace Document

variable {entries : List (Value × Value)} {extra : Table Value}

/-- The extra attributes of a mapping are its other entries, if their keys are texts. -/
theorem extras_eq_ok_iff :
    extras entries = .ok extra ↔
      entries.filter (fun entry ↦ !knownKeys.contains entry.1) = extra.entries := by
  unfold extras
  generalize entries.filter (fun entry ↦ !knownKeys.contains entry.1) = others
  constructor
  · intro hmap
    induction others generalizing extra with
    | nil => cases hmap; rfl
    | cons entry others ih =>
      obtain ⟨key, v⟩ := entry
      rw [List.mapM_cons] at hmap
      cases key with
      | str name =>
        simp only [bind, Except.bind] at hmap
        split at hmap
        · cases hmap
        · next hrest =>
          cases hmap
          rw [ih hrest]
          rfl
      | _ => cases hmap
  · rintro rfl
    induction extra with
    | nil => rfl
    | cons entry rest ih =>
      rw [Table.entries_cons, List.mapM_cons, ih]
      rfl

theorem lookup_filter (keep : Value → Bool) {key : Value} (hkey : keep key = true) :
    (entries.filter fun entry ↦ keep entry.1).lookup key = entries.lookup key := by
  induction entries with
  | nil => rfl
  | cons entry rest ih =>
    obtain ⟨k, v⟩ := entry
    by_cases hk : k = key
    · subst hk
      simp [hkey]
    · have hne : (key == k) = false := beq_false_of_ne (Ne.symm hk)
      cases hkeep : keep k <;> simp [List.lookup_cons, hkeep, hne, ih]

theorem lookup_cons_str (k name : String) (v : Value) (rest : List (Value × Value)) :
    ((Value.str k, v) :: rest).lookup (.str name) =
      if name = k then some v else rest.lookup (.str name) := by
  rw [List.lookup_cons]
  by_cases hk : name = k
  · simp [hk]
  · have hne : (Value.str name == .str k) = false := beq_false_of_ne (by simpa using hk)
    rw [hne, if_neg hk]

theorem lookup_entries (t : Table Value) (name : String) :
    t.entries.lookup (.str name) = Table.get? t name := by
  induction t with
  | nil => rfl
  | cons entry rest ih =>
    obtain ⟨k, v⟩ := entry
    rw [Table.get?_cons, Table.entries_cons, lookup_cons_str, ih]

/-- An extra attribute is what its key has in the mapping. -/
theorem get?_of_extras (hextra : extras entries = .ok extra) {name : String}
    (hname : .str name ∉ knownKeys) : Table.get? extra name = entries.lookup (.str name) := by
  rw [← lookup_entries, ← extras_eq_ok_iff.mp hextra]
  exact lookup_filter (fun key ↦ !knownKeys.contains key) (by simpa using hname)

theorem nodup_keys_of_extras (hkeys : (entries.map Prod.fst).Nodup)
    (hextra : extras entries = .ok extra) : (Table.keys extra).Nodup := by
  have hsub : (extra.entries.map Prod.fst).Nodup := by
    rw [← extras_eq_ok_iff.mp hextra]
    exact hkeys.sublist (List.filter_sublist.map _)
  rw [Table.keys_entries] at hsub
  exact (List.pairwise_map.mp hsub).imp fun hne heq ↦ hne (congrArg _ heq)

theorem notMem_knownKeys_of_extras (hextra : extras entries = .ok extra) {name : String}
    (hname : name ∈ Table.keys extra) : .str name ∉ knownKeys := by
  have hkey : .str name ∈ extra.entries.map Prod.fst := by
    rw [Table.keys_entries]
    exact List.mem_map_of_mem hname
  rw [← extras_eq_ok_iff.mp hextra] at hkey
  obtain ⟨entry, hmem, hentry⟩ := List.mem_map.mp hkey
  rw [← hentry]
  simpa using (List.mem_filter.mp hmem).2

/-- What is left without the parent can be given to a smart node, unless a name is reserved. -/
theorem exists_extras (hkeys : (entries.map Prod.fst).Nodup) (hextra : extras entries = .ok extra)
    (hself : Table.contains extra "self" = false)
    (hfree : ∀ entry ∈ Table.erase extra "parent", Node.isReserved entry.1 = false) :
    ∃ x : Extras, x.table = Table.erase extra "parent" := by
  have hnodup := nodup_keys_of_extras hkeys hextra
  have hsub : (Table.erase extra "parent").keys.Sublist extra.keys := List.filter_sublist.map _
  refine ⟨⟨_, hnodup.sublist hsub, ?_⟩, rfl⟩
  intro name hname
  have hknown := notMem_knownKeys_of_extras hextra (hsub.subset hname)
  obtain ⟨entry, hmem, rfl⟩ := List.mem_map.mp hname
  obtain ⟨hmem', hparent⟩ := List.mem_filter.mp hmem
  refine ⟨hfree entry hmem, ?_, ?_⟩
  · simp_all [Node.knownNames, knownKeys]
  · intro h
    have hfound : Table.get? extra entry.1 = some entry.2 := lookup_of_mem hnodup hmem'
    rw [h] at hfound
    rw [Table.contains, hfound] at hself
    cases hself

theorem entries_erase_parent (hextra : extras entries = .ok extra) :
    (Table.erase extra "parent").entries =
      entries.filter fun entry ↦ !(.str "parent" :: knownKeys).contains entry.1 := by
  have hsplit : (entries.filter fun entry ↦ !(.str "parent" :: knownKeys).contains entry.1) =
      (entries.filter fun entry ↦ !knownKeys.contains entry.1).filter
        fun entry ↦ entry.1 != .str "parent" := by
    simp only [List.filter_filter, List.contains_cons, Bool.not_or, bne]
  rw [hsplit, extras_eq_ok_iff.mp hextra, Table.entries, Table.entries, List.filter_map,
    Table.erase]
  congr 2
  funext entry
  rw [Bool.eq_iff_iff]
  simp

theorem entries_injective {s t : Table Value} (h : s.entries = t.entries) : s = t := by
  refine (List.map_inj_right ?_).mp h
  intro x y hxy
  simpa [Prod.ext_iff] using hxy

theorem exists_table_of_texts {entries : List (Value × Value)}
    (htexts : ∀ entry ∈ entries, ∃ name, entry.1 = .str name) :
    ∃ t : Table Value, entries = t.entries := by
  induction entries with
  | nil => exact ⟨[], rfl⟩
  | cons entry rest ih =>
    obtain ⟨name, hname⟩ := htexts entry List.mem_cons_self
    obtain ⟨t, rfl⟩ := ih fun entry hmem ↦ htexts entry (List.mem_cons_of_mem _ hmem)
    refine ⟨(name, entry.2) :: t, ?_⟩
    rw [Table.entries_cons, ← hname]

/-- The extra attributes on a page were all that there were, apart from a parent. -/
theorem exists_extra_of_readFrom {p : Page} {entries : List (Value × Value)}
    (hread : p.ReadFrom entries) :
    ∃ extra, extras entries = .ok extra ∧ Table.erase extra "parent" = p.extra.table := by
  have htexts : ∀ entry ∈ entries.filter fun entry ↦ !knownKeys.contains entry.1,
      ∃ name, entry.1 = .str name := by
    intro entry hmem
    by_cases hparent : entry.1 = .str "parent"
    · exact ⟨_, hparent⟩
    · obtain ⟨hmem, hknown⟩ := List.mem_filter.mp hmem
      have hextra : entry ∈ p.extra.entries := by
        rw [hread.extra_eq]
        exact List.mem_filter.mpr ⟨hmem, by simpa [hparent] using hknown⟩
      obtain ⟨x, -, rfl⟩ := List.mem_map.mp hextra
      exact ⟨_, rfl⟩
  obtain ⟨extra, hextra⟩ := exists_table_of_texts htexts
  have hextra := extras_eq_ok_iff.mpr hextra
  exact ⟨extra, hextra, entries_injective ((entries_erase_parent hextra).trans hread.extra_eq.symm)⟩

end Document

/-! ## Reading a page back -/

namespace Page

variable (p : Page) {tail : List (Value × Value)}

theorem lookup_entries_of_notMem {name : String} (hname : name ∉ p.names) :
    p.entries.lookup (.str name) = none := by
  apply lookup_of_notMem
  rw [p.keys_entries]
  simpa using hname

theorem val_notMem_names : "val" ∉ p.names := by
  have hval : "val" ∉ p.extra.table.keys := fun hmem ↦ (p.extra.free "val" hmem).2.1 (by decide)
  unfold Page.names
  split <;> simpa using hval

theorem field_value_entries : field p.entries "value" = p.payload := by
  by_cases hnull : p.payload = .null
  · have hvalue : "value" ∉ p.names := by
      have hextra : "value" ∉ p.extra.table.keys :=
        fun hmem ↦ (p.extra.free "value" hmem).2.1 (by decide)
      simpa [Page.names, hnull] using hextra
    rw [field, p.lookup_entries_of_notMem hvalue, hnull]
    rfl
  · simp [field, Page.entries, hnull, Document.lookup_cons_str]

theorem filter_entries :
    (p.entries.filter fun entry ↦ !(.str "parent" :: Document.knownKeys).contains entry.1) =
      p.extra.entries := by
  have hkept : ∀ entry ∈ p.extra.entries,
      (!(.str "parent" :: Document.knownKeys).contains entry.1) = true := by
    intro entry hmem
    obtain ⟨x, hx, rfl⟩ := List.mem_map.mp hmem
    have hfree := (p.extra.free x.1 (List.mem_map_of_mem hx)).2.1
    simp only [Node.knownNames, List.mem_cons, List.not_mem_nil, or_false, not_or] at hfree
    simp [Document.knownKeys, hfree]
  have htype : .str "type" ∈ Document.knownKeys := by decide
  have hvalue : .str "value" ∈ Document.knownKeys := by decide
  rw [Page.entries, List.filter_cons_of_neg (by simp [htype]), List.filter_append,
    List.filter_eq_self.mpr hkept]
  split <;> simp [hvalue]

theorem field_append (htail : ∀ entry ∈ tail, entry.1 = .str "nodes") {name : String}
    (hname : name ≠ "nodes") : field (p.entries ++ tail) name = field p.entries name := by
  have hnone : tail.lookup (.str name) = none := by
    apply lookup_of_notMem
    intro hmem
    obtain ⟨entry, hentry, hkey⟩ := List.mem_map.mp hmem
    rw [htail entry hentry] at hkey
    exact hname (Value.str.inj hkey).symm
  rw [field, field, List.lookup_append, hnone, Option.or_none]

/-- What a page says can be read off the mapping, whatever the children are. -/
theorem readFrom_append (tail : List (Value × Value))
    (htail : ∀ entry ∈ tail, entry.1 = .str "nodes") :
    p.ReadFrom (p.entries ++ tail) where
  type_eq := by
    rw [p.field_append htail (by decide)]
    simp [field, Page.entries]
  payload_eq := by
    have hval : field p.entries "val" = .null := by
      rw [field, p.lookup_entries_of_notMem p.val_notMem_names]
      rfl
    rw [p.field_append htail (by decide), p.field_append htail (by decide),
      p.field_value_entries, hval]
    split
    · next hnull => exact hnull.symm
    · rfl
  extra_eq := by
    have hnodes : .str "nodes" ∈ Document.knownKeys := by decide
    have hdropped : (tail.filter fun entry ↦
        !(.str "parent" :: Document.knownKeys).contains entry.1) = [] := by
      apply List.filter_eq_nil_iff.mpr
      intro entry hmem
      simp [htail entry hmem, hnodes]
    rw [List.filter_append, hdropped, List.append_nil, p.filter_entries]

theorem field_nodes_entries : field p.entries "nodes" = .null := by
  rw [field, p.lookup_entries_of_notMem p.nodes_notMem_names]
  rfl

theorem field_nodes_append (v : Value) :
    field (p.entries ++ [(.str "nodes", v)]) "nodes" = v := by
  rw [field, List.lookup_append, p.lookup_entries_of_notMem p.nodes_notMem_names]
  simp

end Page

/-- Documents of trees ask for these trees. -/
theorem Heap.Shows.asks {h : Heap} {D : Orchard Page} {docs : List Value} (hd : h.Shows D docs) :
    h.Asks D docs := by
  induction D generalizing docs with
  | nil => exact hd
  | leaf p rest ih =>
    obtain ⟨a, others, rfl, hget, hrest⟩ := hd
    have hread := p.readFrom_append [] fun _ hmem ↦ absurd hmem List.not_mem_nil
    rw [List.append_nil] at hread
    exact ⟨_, others, _, rfl, dict?_of_get? hget, hread, p.field_nodes_entries, ih hrest⟩
  | tree p below rest ihbelow ihrest =>
    obtain ⟨a, l, items, others, rfl, hget, hlist, hbelow, hrest⟩ := hd
    have hread := p.readFrom_append [(.str "nodes", .ref l)] (by simp)
    have hnodes : h.list? (field (p.entries ++ [(.str "nodes", .ref l)]) "nodes") = some items := by
      rw [p.field_nodes_append]
      exact list?_of_get? hlist
    exact ⟨_, others, _, items, rfl, dict?_of_get? hget, hread, hnodes, ihbelow hbelow,
      ihrest hrest⟩

end TagTree
