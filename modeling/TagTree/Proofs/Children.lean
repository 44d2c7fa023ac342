import TagTree.Proofs.Nodes

/-!
# Children of nodes

The children of a node are in a list of its own, which it gets with its first child. This module
says what can be read off a heap after a node was linked to a parent, after a node was given other
children, and after new objects were made: what was changed reads as expected, and nothing else
reads differently.
-/

namespace TagTree

section Lookup

variable {α β : Type} [BEq α] [LawfulBEq α] {entries : List (α × β)}

theorem mem_of_lookup {k : α} {v : β} (hv : entries.lookup k = some v) : (k, v) ∈ entries := by
  obtain ⟨l₁, l₂, hsplit, -⟩ := List.lookup_eq_some_iff.mp hv
  rw [hsplit]
  simp

theorem lookup_of_notMem {k : α} (hk : k ∉ entries.map Prod.fst) : entries.lookup k = none := by
  rw [List.lookup_eq_none_iff]
  intro entry hmem
  have hne : k ≠ entry.1 := by
    rintro rfl
    exact hk (List.mem_map_of_mem hmem)
  simpa using hne

theorem lookup_of_mem (hnodup : (entries.map Prod.fst).Nodup) {entry : α × β}
    (hmem : entry ∈ entries) : entries.lookup entry.1 = some entry.2 := by
  induction entries with
  | nil => cases hmem
  | cons first rest ih =>
    obtain ⟨hnotin, hrest⟩ := List.nodup_cons.mp hnodup
    rw [show first :: rest = (first.1, first.2) :: rest from rfl, List.lookup_cons]
    rcases List.mem_cons.mp hmem with rfl | hmem
    · simp
    · have hne : entry.1 ≠ first.1 := by
        intro h
        exact hnotin (h ▸ List.mem_map_of_mem hmem)
      rw [beq_false_of_ne hne]
      exact ih hrest hmem

end Lookup

namespace Heap

/-- The items of the list of children that a value has. -/
def childList? (h : Heap) (v : Value) : Option (List Value) :=
  h.list? (h.attrOrNull v "nodes")

/-- The children of a value; none if it has no list of children. -/
def children (h : Heap) (v : Value) : List Value :=
  (h.childList? v).getD []

/-- The heap after a node was given other children, in a new list if it had none. -/
def setChildren (h : Heap) (p : Addr) (items : List Value) : Heap :=
  match h.attrOrNull (.ref p) "nodes" with
  | .ref l => h.put l (.list items)
  | _ =>
    match h.get? p with
    | some (.entity e) =>
      let owner : Entity := { e with attrs := Table.put "nodes" (.ref h.fresh) e.attrs }
      ((h.add (.list [])).put p (.entity owner)).put h.fresh (.list items)
    | _ => h

/-- The kind of the entity at an address. -/
def kindAt? (h : Heap) (a : Addr) : Option Kind :=
  (h.entity? (.ref a)).map Entity.kind

/-- A genuine node whose children, if it has any, are in a list, and whose link leads to an address
that was given out. -/
structure NodeAt (h : Heap) (a : Addr) (e : Entity) : Prop where
  found : h.get? a = some (.entity e)
  genuine : e.Genuine
  listed : Table.get? e.attrs "nodes" = some .null ∨
    ∃ l items, Table.get? e.attrs "nodes" = some (.ref l) ∧ h.get? l = some (.list items)
  anchored : ∀ q, e.parent = .weak q → q < h.fresh

/-- Nodes with a list of children each, none of which they share. -/
structure Forest (h : Heap) (S : Addr → Prop) : Prop where
  node : ∀ a, S a → ∃ e, h.NodeAt a e
  unshared : ∀ a b l, S a → S b → h.attrOrNull (.ref a) "nodes" = .ref l →
    h.attrOrNull (.ref b) "nodes" = .ref l → a = b

/-- Everything that was there is still there, and the same; there may be new objects. -/
structure Extends (h h' : Heap) : Prop where
  grows : h.fresh ≤ h'.fresh
  same : ∀ a, a < h.fresh → h'.get? a = h.get? a

/-! ## Reading after an object was replaced or added -/

section Reading

variable {h : Heap} {a b : Addr} {o o' : Object}

theorem isSome_get?_put (ha : h.get? a = some o) (o' : Object) (b : Addr) :
    ((h.put a o').get? b).isSome = (h.get? b).isSome := by
  by_cases hb : b = a
  · subst hb
    rw [get?_put_self (lt_fresh_of_get? ha), ha]
    rfl
  · rw [get?_put_of_ne o' hb]

theorem get?_eq_none_of_fresh_le (hb : h.fresh ≤ b) : h.get? b = none := by
  cases hget : h.get? b with
  | none => rfl
  | some o => exact absurd (lt_fresh_of_get? hget) (Nat.not_lt.mpr hb)

theorem get?_add_of_ne (o : Object) (hb : b ≠ h.fresh) : (h.add o).get? b = h.get? b := by
  rcases Nat.lt_or_gt_of_ne hb with hlt | hgt
  · exact get?_add_of_lt o hlt
  · rw [get?_eq_none_of_fresh_le (Nat.le_of_lt hgt), get?_eq_none_of_fresh_le]
    rw [fresh_add]
    exact hgt

/-- Replacing an object by itself changes nothing. -/
theorem put_get? (ha : h.get? a = some o) : h.put a o = h := by
  have hlt := lt_fresh_of_get? ha
  simp only [fresh] at hlt
  obtain ⟨cells⟩ := h
  have hcell : cells[a] = some o := by
    simpa [get?, Array.getElem?_eq_getElem hlt] using ha
  simp only [put, Heap.mk.injEq, Array.setIfInBounds, hlt, dif_pos, ← hcell]
  exact Array.set_getElem_self hlt

theorem target_put (ha : h.get? a = some o) (o' : Object) (link : Link) :
    link.target (h.put a o') = link.target h := by
  cases link with
  | weak b => simp only [Link.target, isSome_get?_put ha]
  | _ => rfl

theorem entityAttr?_put (ha : h.get? a = some o) (o' : Object) (b : Addr) (e : Entity)
    (name : String) : (h.put a o').entityAttr? b e name = h.entityAttr? b e name := by
  simp only [entityAttr?, target_put ha]

/-- Attributes of an object other than the parent depend on the object alone. -/
theorem attr?_congr {h' : Heap} (hsame : h'.get? a = h.get? a) {name : String}
    (hname : name ≠ "parent") : h'.attr? (.ref a) name = h.attr? (.ref a) name := by
  have hentity : ∀ e, h'.entityAttr? a e name = h.entityAttr? a e name := by
    intro e
    unfold entityAttr?
    rw [if_neg hname, if_neg hname]
  unfold attr?
  simp only [hsame, hentity]

/-- Replacing an object does not change what can be read off any other. -/
theorem attr?_put_of_ne (ha : h.get? a = some o) (o' : Object) {v : Value} (hv : v ≠ .ref a)
    (name : String) : (h.put a o').attr? v name = h.attr? v name := by
  cases v with
  | ref b =>
    have hb : b ≠ a := by rintro rfl; exact hv rfl
    simp only [attr?, get?_put_of_ne o' hb, entityAttr?_put ha]
  | maker m => cases m <;> rfl
  | _ => rfl

/-- Replacing the items of a list does not change any attribute. -/
theorem attr?_put_list {old : List Value} (ha : h.get? a = some (.list old)) (items : List Value)
    (v : Value) (name : String) :
    (h.put a (.list items)).attr? v name = h.attr? v name := by
  by_cases hv : v = .ref a
  · subst hv
    simp [attr?, get?_put_self (lt_fresh_of_get? ha), ha]
  · exact attr?_put_of_ne ha _ hv name

theorem list?_put_of_ne (o' : Object) {v : Value} (hv : v ≠ .ref a) :
    (h.put a o').list? v = h.list? v := by
  cases v with
  | ref b =>
    have hb : b ≠ a := by rintro rfl; exact hv rfl
    simp only [list?, object?, get?_put_of_ne o' hb]
  | _ => rfl

/-- Replacing one entity by another does not change what is a list. -/
theorem list?_put_entity {e f : Entity} (ha : h.get? a = some (.entity e)) (v : Value) :
    (h.put a (.entity f)).list? v = h.list? v := by
  by_cases hv : v = .ref a
  · subst hv
    simp [list?, object?, get?_put_self (lt_fresh_of_get? ha), ha]
  · exact list?_put_of_ne _ hv

theorem kindAt?_of_get? {e : Entity} (ha : h.get? a = some (.entity e)) :
    h.kindAt? a = some e.kind := by
  rw [kindAt?, entity?_of_get? ha]
  rfl

theorem kindAt?_congr {h' : Heap} (ha : h'.get? a = h.get? a) : h'.kindAt? a = h.kindAt? a := by
  simp only [kindAt?, entity?, object?, ha]

theorem kindAt?_of_list {items : List Value} (ha : h.get? a = some (.list items)) :
    h.kindAt? a = none := by
  simp [kindAt?, entity?, object?, ha]

end Reading

/-! ## Linking -/

section Linking

variable {h : Heap} {c p : Addr} {f : Entity}

@[simp]
theorem fresh_link (h : Heap) (c p : Addr) : (h.link c p).fresh = h.fresh := by
  unfold link
  split
  · exact fresh_put _ _ _
  · rfl

theorem get?_link_of_ne (c p : Addr) {b : Addr} (hb : b ≠ c) :
    (h.link c p).get? b = h.get? b := by
  unfold link
  split
  · exact get?_put_of_ne _ hb
  · rfl

theorem get?_link_self (hc : h.get? c = some (.entity f)) (p : Addr) :
    (h.link c p).get? c = some (.entity (f.withParent p)) := by
  rw [link_eq hc, get?_put_self (lt_fresh_of_get? hc)]

theorem list?_link (hc : h.get? c = some (.entity f)) (p : Addr) (v : Value) :
    (h.link c p).list? v = h.list? v := by
  rw [link_eq hc, list?_put_entity hc]

/-- A new parent is the only thing that is read off a child differently, and nothing is read off
anybody else differently. -/
theorem attr?_link (hc : h.get? c = some (.entity f)) (p : Addr) {v : Value} {name : String}
    (hdiff : v ≠ .ref c ∨ name ≠ "parent") : (h.link c p).attr? v name = h.attr? v name := by
  rw [link_eq hc]
  by_cases hv : v = .ref c
  · have hn : name ≠ "parent" := hdiff.resolve_left (by simp [hv])
    subst hv
    rw [attr?_entity (get?_put_self (lt_fresh_of_get? hc)), attr?_entity hc, entityAttr?_put hc]
    simp only [entityAttr?, Entity.kind_withParent, Entity.get?_withParent hn, hn, if_false,
      Entity.get?_withParent (show "nodes" ≠ "parent" by decide)]
  · exact attr?_put_of_ne hc _ hv name

theorem attrOrNull_link (hc : h.get? c = some (.entity f)) (p : Addr) {v : Value} {name : String}
    (hdiff : v ≠ .ref c ∨ name ≠ "parent") :
    (h.link c p).attrOrNull v name = h.attrOrNull v name := by
  rw [attrOrNull, attrOrNull, attr?_link hc p hdiff]

theorem childList?_link (hc : h.get? c = some (.entity f)) (p : Addr) (v : Value) :
    (h.link c p).childList? v = h.childList? v := by
  rw [childList?, childList?, attrOrNull_link hc p (.inr (by decide)), list?_link hc]

theorem attrOrNull_link_parent (hc : h.get? c = some (.entity f)) (hf : f.Genuine)
    {o : Object} (hp : h.get? p = some o) :
    (h.link c p).attrOrNull (.ref c) "parent" = .ref p := by
  rw [attrOrNull_parent (get?_link_self hc p) (hf.withParent p)]
  have hlive : ((h.link c p).get? p).isSome = true := by
    rw [link_eq hc, isSome_get?_put hc, hp]
    rfl
  rcases hf.kind with hk | hk
  · simp [Entity.parentIn, Entity.withParent, hk, Link.target, hlive]
  · simp [Entity.parentIn, Entity.withParent, hk]

theorem kindAt?_link (hc : h.get? c = some (.entity f)) (p a : Addr) :
    (h.link c p).kindAt? a = h.kindAt? a := by
  by_cases hac : a = c
  · subst hac
    rw [kindAt?_of_get? (get?_link_self hc p), kindAt?_of_get? hc, Entity.kind_withParent]
  · exact kindAt?_congr (get?_link_of_ne c p hac)

end Linking

/-! ## Giving a node other children -/

section Giving

variable {h : Heap} {a b c p l : Addr} {e f g : Entity} {old items : List Value}

theorem NodeAt.attrOrNull_nodes (hp : h.NodeAt p e) :
    h.attrOrNull (.ref p) "nodes" = (Table.get? e.attrs "nodes").getD .null :=
  attrOrNull_of_genuine hp.found hp.genuine (by decide)

/-- A node has no children yet, or they are in a list. -/
theorem NodeAt.nodes_cases (hp : h.NodeAt p e) :
    h.attrOrNull (.ref p) "nodes" = .null ∨
      ∃ l items, h.attrOrNull (.ref p) "nodes" = .ref l ∧ h.get? l = some (.list items) := by
  rw [hp.attrOrNull_nodes]
  rcases hp.listed with hnull | ⟨l, items, hl, hget⟩
  · exact .inl (by rw [hnull]; rfl)
  · exact .inr ⟨l, items, by rw [hl]; rfl, hget⟩

theorem setChildren_of_list (hl : h.attrOrNull (.ref p) "nodes" = .ref l) (items : List Value) :
    h.setChildren p items = h.put l (.list items) := by
  simp [setChildren, hl]

theorem fresh_le_setChildren (h : Heap) (p : Addr) (items : List Value) :
    h.fresh ≤ (h.setChildren p items).fresh := by
  unfold setChildren
  split
  · simp
  · split
    · simp
    · exact Nat.le_refl _

section First

variable (hp : h.get? p = some (.entity e)) (hnull : h.attrOrNull (.ref p) "nodes" = .null)
include hp hnull

theorem setChildren_of_null (items : List Value) :
    h.setChildren p items =
      ((h.add (.list [])).put p
        (.entity { e with attrs := Table.put "nodes" (.ref h.fresh) e.attrs })).put h.fresh
          (.list items) := by
  simp [setChildren, hnull, hp]

theorem get?_setChildren_fresh (items : List Value) :
    (h.setChildren p items).get? h.fresh = some (.list items) := by
  rw [setChildren_of_null hp hnull]
  exact get?_put_self (by simp)

theorem get?_setChildren_self (items : List Value) :
    (h.setChildren p items).get? p =
      some (.entity { e with attrs := Table.put "nodes" (.ref h.fresh) e.attrs }) := by
  have hlt := lt_fresh_of_get? hp
  rw [setChildren_of_null hp hnull, get?_put_of_ne _ (Nat.ne_of_lt hlt), get?_put_self]
  rw [fresh_add]
  exact Nat.lt_succ_of_lt hlt

theorem get?_setChildren_of_ne (items : List Value) (hb : b ≠ h.fresh) (hbp : b ≠ p) :
    (h.setChildren p items).get? b = h.get? b := by
  rw [setChildren_of_null hp hnull, get?_put_of_ne _ hb, get?_put_of_ne _ hbp,
    get?_add_of_ne _ hb]

theorem isSome_get?_setChildren (items : List Value) (hb : b ≠ h.fresh) :
    ((h.setChildren p items).get? b).isSome = (h.get? b).isSome := by
  by_cases hbp : b = p
  · subst hbp
    rw [get?_setChildren_self hp hnull, hp]
    rfl
  · rw [get?_setChildren_of_ne hp hnull items hb hbp]

theorem attrOrNull_nodes_setChildren_first (hg : e.Genuine) (items : List Value) :
    (h.setChildren p items).attrOrNull (.ref p) "nodes" = .ref h.fresh := by
  rw [attrOrNull, attr?_entity (get?_setChildren_self hp hnull items)]
  rcases hg.kind with hk | hk <;> simp [entityAttr?, hk]

theorem childList?_setChildren_first (hg : e.Genuine) (items : List Value) :
    (h.setChildren p items).childList? (.ref p) = some items := by
  rw [childList?, attrOrNull_nodes_setChildren_first hp hnull hg,
    list?_of_get? (get?_setChildren_fresh hp hnull items)]

end First

theorem attrOrNull_setChildren (hp : h.NodeAt p e) (hb : h.NodeAt b g) (items : List Value)
    {name : String} (hn : name ≠ "nodes") (hc : name ≠ "children") :
    (h.setChildren p items).attrOrNull (.ref b) name = h.attrOrNull (.ref b) name := by
  rcases hp.nodes_cases with hnull | ⟨l, old, hl, hget⟩
  · have htarget : g.parent.target (h.setChildren p items) = g.parent.target h := by
      cases hlink : g.parent with
      | weak q =>
        have hq := Nat.ne_of_lt (hb.anchored q hlink)
        simp only [Link.target, isSome_get?_setChildren hp.found hnull items hq]
      | _ => rfl
    by_cases hbp : b = p
    · subst hbp
      obtain rfl : g = e := by simpa [hp.found] using hb.found.symm
      have hself := get?_setChildren_self hp.found hnull items
      rw [attrOrNull, attrOrNull, attr?_entity hself, attr?_entity hb.found]
      simp only [entityAttr?, htarget, Table.get?_put_of_ne hn, hc, if_false]
    · have hbf := Nat.ne_of_lt (lt_fresh_of_get? hb.found)
      have hsame := get?_setChildren_of_ne hp.found hnull items hbf hbp
      rw [attrOrNull, attrOrNull, attr?_entity (hsame.trans hb.found), attr?_entity hb.found]
      simp only [entityAttr?, htarget]
  · rw [setChildren_of_list hl, attrOrNull, attrOrNull, attr?_put_list hget]

/-- Attributes that have nothing to do with the place of a node in its tree stay the same for
objects of all kinds. -/
theorem attrOrNull_setChildren_entity (hp : h.NodeAt p e) (hb : h.get? b = some (.entity g))
    (items : List Value) {name : String} (hn : name ∉ ["nodes", "children", "parent"]) :
    (h.setChildren p items).attrOrNull (.ref b) name = h.attrOrNull (.ref b) name := by
  simp only [List.mem_cons, List.not_mem_nil, or_false, not_or] at hn
  obtain ⟨hnodes, hchildren, hparent⟩ := hn
  rcases hp.nodes_cases with hnull | ⟨l, old, hl, hget⟩
  · by_cases hbp : b = p
    · subst hbp
      obtain rfl : e = g := by simpa [hp.found] using hb
      rw [attrOrNull, attrOrNull, attr?_entity (get?_setChildren_self hp.found hnull items),
        attr?_entity hb]
      simp only [entityAttr?, Table.get?_put_of_ne hnodes, hchildren, hparent, if_false]
    · have hbf := Nat.ne_of_lt (lt_fresh_of_get? hb)
      have hsame := get?_setChildren_of_ne hp.found hnull items hbf hbp
      rw [attrOrNull, attrOrNull, attr?_entity (hsame.trans hb), attr?_entity hb]
      simp only [entityAttr?, hparent, if_false]
  · rw [setChildren_of_list hl, attrOrNull, attrOrNull, attr?_put_list hget]

theorem childList?_setChildren_self (hp : h.NodeAt p e) (items : List Value) :
    (h.setChildren p items).childList? (.ref p) = some items := by
  rcases hp.nodes_cases with hnull | ⟨l, old, hl, hget⟩
  · exact childList?_setChildren_first hp.found hnull hp.genuine items
  · rw [setChildren_of_list hl, childList?, attrOrNull, attr?_put_list hget, ← attrOrNull, hl,
      list?_of_get? (get?_put_self (lt_fresh_of_get? hget))]

theorem attrOrNull_nodes_setChildren_of_ne (hp : h.NodeAt p e) (hb : h.NodeAt b g) (hne : b ≠ p)
    (items : List Value) :
    (h.setChildren p items).attrOrNull (.ref b) "nodes" = h.attrOrNull (.ref b) "nodes" := by
  rcases hp.nodes_cases with hnull | ⟨l, old, hl, hget⟩
  · have hbf := Nat.ne_of_lt (lt_fresh_of_get? hb.found)
    have hsame := get?_setChildren_of_ne hp.found hnull items hbf hne
    rw [attrOrNull_of_genuine (hsame.trans hb.found) hb.genuine (by decide),
      hb.attrOrNull_nodes]
  · rw [setChildren_of_list hl, attrOrNull, attrOrNull, attr?_put_list hget]

/-- A node keeps its children when a node with another list is given other children. -/
theorem childList?_setChildren_of_ne (hp : h.NodeAt p e) (hb : h.NodeAt b g) (hne : b ≠ p)
    (hapart : ∀ l, h.attrOrNull (.ref p) "nodes" = .ref l → h.attrOrNull (.ref b) "nodes" ≠ .ref l)
    (items : List Value) :
    (h.setChildren p items).childList? (.ref b) = h.childList? (.ref b) := by
  rw [childList?, childList?, attrOrNull_nodes_setChildren_of_ne hp hb hne]
  rcases hp.nodes_cases with hnull | ⟨l, old, hl, hget⟩
  · rcases hb.nodes_cases with hb' | ⟨l, old, hl, hget⟩
    · rw [hb']
      rfl
    · have hlf := Nat.ne_of_lt (lt_fresh_of_get? hget)
      have hlp : l ≠ p := by rintro rfl; simp [hp.found] at hget
      rw [hl, list?_of_get? hget, list?_of_get?]
      rw [get?_setChildren_of_ne hp.found hnull items hlf hlp, hget]
  · rw [setChildren_of_list hl, list?_put_of_ne _ (hapart l hl)]

theorem kindAt?_setChildren (hp : h.NodeAt p e) (items : List Value) (a : Addr) :
    (h.setChildren p items).kindAt? a = h.kindAt? a := by
  rcases hp.nodes_cases with hnull | ⟨l, old, hl, hget⟩
  · by_cases haf : a = h.fresh
    · -- Where the new list is there was nothing before.
      have hnone := get?_eq_none_of_fresh_le (h := h) (Nat.le_refl h.fresh)
      rw [haf, kindAt?_of_list (get?_setChildren_fresh hp.found hnull items)]
      simp [kindAt?, entity?, object?, hnone]
    · by_cases hap : a = p
      · rw [hap, kindAt?_of_get? (get?_setChildren_self hp.found hnull items),
          kindAt?_of_get? hp.found]
      · exact kindAt?_congr (get?_setChildren_of_ne hp.found hnull items haf hap)
  · rw [setChildren_of_list hl]
    by_cases hal : a = l
    · rw [hal, kindAt?_of_list (get?_put_self (lt_fresh_of_get? hget)), kindAt?_of_list hget]
    · exact kindAt?_congr (get?_put_of_ne _ hal)

/-- The heap after the children of a node were cut down to some of them; a node without a list of
children stays without one. -/
def trimChildren (h : Heap) (p : Addr) (items : List Value) : Heap :=
  match h.childList? (.ref p) with
  | none => h
  | some _ => h.setChildren p items

theorem trimChildren_of_null (hnull : h.attrOrNull (.ref p) "nodes" = .null) (items : List Value) :
    h.trimChildren p items = h := by
  simp [trimChildren, childList?, hnull, list?, object?]

theorem trimChildren_of_list (hl : h.attrOrNull (.ref p) "nodes" = .ref l)
    (hget : h.get? l = some (.list old)) (items : List Value) :
    h.trimChildren p items = h.put l (.list items) := by
  simp [trimChildren, childList?, hl, list?_of_get? hget, setChildren_of_list hl]

/-- Cutting the children down to all of them changes nothing. -/
theorem trimChildren_children (h : Heap) (p : Addr) :
    h.trimChildren p (h.children (.ref p)) = h := by
  cases hlist : h.childList? (.ref p) with
  | none => simp [trimChildren, hlist]
  | some items =>
    obtain ⟨l, hl, hget⟩ := get?_of_list? hlist
    have hitems : h.children (.ref p) = items := by simp [children, hlist]
    rw [trimChildren_of_list hl hget, hitems, put_get? hget]

theorem attr?_trimChildren (h : Heap) (p : Addr) (items : List Value) (v : Value) (name : String) :
    (h.trimChildren p items).attr? v name = h.attr? v name := by
  cases hlist : h.childList? (.ref p) with
  | none => simp [trimChildren, hlist]
  | some old =>
    obtain ⟨l, hl, hget⟩ := get?_of_list? hlist
    rw [trimChildren_of_list hl hget, attr?_put_list hget]

theorem childList?_trimChildren_self (h : Heap) (p : Addr) (items : List Value) :
    (h.trimChildren p items).childList? (.ref p) =
      (h.childList? (.ref p)).map fun _ ↦ items := by
  cases hlist : h.childList? (.ref p) with
  | none => simp [trimChildren, hlist]
  | some old =>
    obtain ⟨l, hl, hget⟩ := get?_of_list? hlist
    have hself := list?_of_get? (get?_put_self (o := .list items) (lt_fresh_of_get? hget))
    rw [childList?, attrOrNull, attr?_trimChildren, ← attrOrNull, hl,
      trimChildren_of_list hl hget, hself]
    rfl

end Giving

/-! ## Forests -/

section Forests

variable {h : Heap} {S : Addr → Prop} {a c p : Addr} {e f : Entity}

theorem NodeAt.link (ha : h.NodeAt a e) (hc : h.get? c = some (.entity f)) (hp : p < h.fresh) :
    ∃ e', (h.link c p).NodeAt a e' := by
  have hlisted : ∀ l items, h.get? l = some (.list items) →
      (h.link c p).get? l = some (.list items) := by
    intro l items hl
    rw [get?_link_of_ne c p (by rintro rfl; simp [hc] at hl), hl]
  by_cases hac : a = c
  · subst hac
    obtain rfl : e = f := by simpa [ha.found] using hc
    refine ⟨e.withParent p, get?_link_self hc p, ha.genuine.withParent p, ?_, ?_⟩
    · rw [Entity.get?_withParent (by decide)]
      exact ha.listed.imp_right fun ⟨l, items, hl, hget⟩ ↦ ⟨l, items, hl, hlisted l items hget⟩
    · intro q hq
      rw [fresh_link]
      rcases ha.genuine.kind with hk | hk
      · simp only [Entity.withParent, hk, Link.weak.injEq] at hq
        exact hq ▸ hp
      · simp only [Entity.withParent, hk] at hq
        exact ha.anchored q hq
  · refine ⟨e, (get?_link_of_ne c p hac).trans ha.found, ha.genuine, ?_, ?_⟩
    · exact ha.listed.imp_right fun ⟨l, items, hl, hget⟩ ↦ ⟨l, items, hl, hlisted l items hget⟩
    · rw [fresh_link]
      exact ha.anchored

theorem NodeAt.setChildren (ha : h.NodeAt a e) (hp : h.NodeAt p f) (items : List Value) :
    ∃ e', (h.setChildren p items).NodeAt a e' := by
  have hanchored : ∀ q, e.parent = .weak q → q < (h.setChildren p items).fresh :=
    fun q hq ↦ Nat.lt_of_lt_of_le (ha.anchored q hq) (fresh_le_setChildren h p items)
  rcases hp.nodes_cases with hnull | ⟨l, old, hl, hget⟩
  · by_cases hap : a = p
    · subst hap
      refine ⟨_, get?_setChildren_self ha.found hnull items, ?_, .inr ⟨h.fresh, items, ?_, ?_⟩, ?_⟩
      · refine ⟨ha.genuine.kind, fun name hn ↦ ?_⟩
        have hne : name ≠ "nodes" := by
          rintro rfl
          rcases ha.genuine.kind with hk | hk <;>
            simp only [hk] at hn <;> exact absurd hn (by decide)
        rw [Table.get?_put_of_ne hne]
        exact ha.genuine.unhidden name hn
      · exact Table.get?_put_self _ _ _
      · exact get?_setChildren_fresh ha.found hnull items
      · exact hanchored
    · have hsame : ∀ b o, h.get? b = some o → b ≠ p → (h.setChildren p items).get? b = some o := by
        intro b o hb hne
        have hbf := Nat.ne_of_lt (lt_fresh_of_get? hb)
        rw [get?_setChildren_of_ne hp.found hnull items hbf hne, hb]
      refine ⟨e, hsame a _ ha.found hap, ha.genuine, ?_, hanchored⟩
      refine ha.listed.imp_right fun ⟨l, old, hl, hget⟩ ↦ ⟨l, old, hl, hsame l _ hget ?_⟩
      rintro rfl
      simp [hp.found] at hget
  · rw [setChildren_of_list hl] at hanchored ⊢
    have hla : a ≠ l := by rintro rfl; simp [ha.found] at hget
    refine ⟨e, (get?_put_of_ne _ hla).trans ha.found, ha.genuine, ?_, hanchored⟩
    refine ha.listed.imp_right fun ⟨m, old', hm, hget'⟩ ↦ ?_
    by_cases hml : m = l
    · refine ⟨m, items, hm, ?_⟩
      rw [hml, get?_put_self (lt_fresh_of_get? hget)]
    · exact ⟨m, old', hm, (get?_put_of_ne _ hml).trans hget'⟩

theorem Forest.mono {T : Addr → Prop} (hF : h.Forest S) (hsub : ∀ a, T a → S a) : h.Forest T where
  node := fun a ha ↦ hF.node a (hsub a ha)
  unshared := fun a b l ha hb ↦ hF.unshared a b l (hsub a ha) (hsub b hb)

theorem Forest.link (hF : h.Forest S) (hc : h.get? c = some (.entity f)) (hp : p < h.fresh) :
    (h.link c p).Forest S where
  node := fun a ha ↦ by
    obtain ⟨e, he⟩ := hF.node a ha
    exact he.link hc hp
  unshared := fun a b l ha hb hla hlb ↦ by
    rw [attrOrNull_link hc p (.inr (by decide))] at hla hlb
    exact hF.unshared a b l ha hb hla hlb

theorem Forest.setChildren (hF : h.Forest S) (hp : S p) (items : List Value) :
    (h.setChildren p items).Forest S := by
  obtain ⟨f, hf⟩ := hF.node p hp
  refine ⟨fun a ha ↦ ?_, ?_⟩
  · obtain ⟨e, he⟩ := hF.node a ha
    exact he.setChildren hf items
  · -- The list of the node itself is its old one or new; nobody else gets another list.
    have hself : ∀ b l, S b → b ≠ p → h.attrOrNull (.ref b) "nodes" = .ref l →
        (h.setChildren p items).attrOrNull (.ref p) "nodes" ≠ .ref l := by
      intro b l hb hbp hlb hlp
      rcases hf.nodes_cases with hnull | ⟨m, old, hm, hget⟩
      · have hattr : (h.setChildren p items).attrOrNull (.ref p) "nodes" = .ref h.fresh := by
          rw [attrOrNull, attr?_entity (get?_setChildren_self hf.found hnull items)]
          rcases hf.genuine.kind with hk | hk <;> simp [entityAttr?, hk]
        obtain ⟨g, hg⟩ := hF.node b hb
        rcases hg.nodes_cases with hnull' | ⟨m, old, hm, hget⟩
        · simp [hnull'] at hlb
        · rw [hattr] at hlp
          rw [hm] at hlb
          cases hlp
          cases hlb
          exact absurd (lt_fresh_of_get? hget) (Nat.lt_irrefl _)
      · rw [setChildren_of_list hm, attrOrNull, attr?_put_list hget, ← attrOrNull] at hlp
        exact hbp (hF.unshared b p l hb hp hlb hlp)
    intro a b l ha hb hla hlb
    obtain ⟨e, he⟩ := hF.node a ha
    obtain ⟨g, hg⟩ := hF.node b hb
    by_cases hap : a = p <;> by_cases hbp : b = p
    · rw [hap, hbp]
    · subst hap
      rw [attrOrNull_nodes_setChildren_of_ne hf hg hbp] at hlb
      exact absurd hla (hself b l hb hbp hlb)
    · subst hbp
      rw [attrOrNull_nodes_setChildren_of_ne hf he hap] at hla
      exact absurd hlb (hself a l ha hap hla)
    · rw [attrOrNull_nodes_setChildren_of_ne hf he hap] at hla
      rw [attrOrNull_nodes_setChildren_of_ne hf hg hbp] at hlb
      exact hF.unshared a b l ha hb hla hlb

/-- Giving a node other children leaves the children of all others alone. -/
theorem Forest.children_setChildren (hF : h.Forest S) (hp : S p) {a : Addr}
    (ha : S a) (hne : a ≠ p) (items : List Value) :
    (h.setChildren p items).children (.ref a) = h.children (.ref a) := by
  obtain ⟨e, he⟩ := hF.node p hp
  obtain ⟨g, hg⟩ := hF.node a ha
  have hapart : ∀ l, h.attrOrNull (.ref p) "nodes" = .ref l →
      h.attrOrNull (.ref a) "nodes" ≠ .ref l :=
    fun l hlp hla ↦ hne (hF.unshared a p l ha hp hla hlp)
  rw [children, childList?_setChildren_of_ne he hg hne hapart, children]

/-- A node without children can join any forest. -/
theorem Forest.join (hF : h.Forest S) (ha : h.NodeAt a e)
    (hnull : h.attrOrNull (.ref a) "nodes" = .null) : h.Forest fun b ↦ S b ∨ b = a where
  node := fun b hb ↦ by
    rcases hb with hb | rfl
    · exact hF.node b hb
    · exact ⟨e, ha⟩
  unshared := fun b c l hb hc hlb hlc ↦ by
    rcases hb with hb | rfl
    · rcases hc with hc | rfl
      · exact hF.unshared b c l hb hc hlb hlc
      · simp [hnull] at hlc
    · simp [hnull] at hlb

end Forests

/-! ## Adding objects -/

section Extending

variable {h h' h'' : Heap} {S : Addr → Prop} {a : Addr} {e : Entity}

theorem extends_add (h : Heap) (o : Object) : h.Extends (h.add o) where
  grows := by simp
  same := fun _ ha ↦ get?_add_of_lt o ha

theorem Extends.trans (h₁ : h.Extends h') (h₂ : h'.Extends h'') : h.Extends h'' where
  grows := Nat.le_trans h₁.grows h₂.grows
  same := fun a ha ↦ (h₂.same a (Nat.lt_of_lt_of_le ha h₁.grows)).trans (h₁.same a ha)

theorem Extends.found {o : Object} (hx : h.Extends h') (ha : h.get? a = some o) :
    h'.get? a = some o :=
  (hx.same a (lt_fresh_of_get? ha)).trans ha

theorem NodeAt.extend (ha : h.NodeAt a e) (hx : h.Extends h') : h'.NodeAt a e where
  found := hx.found ha.found
  genuine := ha.genuine
  listed := ha.listed.imp_right fun ⟨l, items, hl, hget⟩ ↦ ⟨l, items, hl, hx.found hget⟩
  anchored := fun q hq ↦ Nat.lt_of_lt_of_le (ha.anchored q hq) hx.grows

theorem Extends.attrOrNull (hx : h.Extends h') (ha : h.NodeAt a e) (name : String) :
    h'.attrOrNull (.ref a) name = h.attrOrNull (.ref a) name := by
  have htarget : e.parent.target h' = e.parent.target h := by
    cases hlink : e.parent with
    | weak q => simp only [Link.target, hx.same q (ha.anchored q hlink)]
    | _ => rfl
  rw [Heap.attrOrNull, Heap.attrOrNull, attr?_entity (hx.found ha.found), attr?_entity ha.found]
  simp only [entityAttr?, htarget]

theorem Extends.children (hx : h.Extends h') (ha : h.NodeAt a e) :
    h'.children (.ref a) = h.children (.ref a) := by
  rw [Heap.children, Heap.children, childList?, childList?, hx.attrOrNull ha]
  rcases ha.nodes_cases with hnull | ⟨l, items, hl, hget⟩
  · rw [hnull]
    rfl
  · rw [hl, list?_of_get? hget, list?_of_get? (hx.found hget)]

theorem Forest.extend (hF : h.Forest S) (hx : h.Extends h') : h'.Forest S where
  node := fun a ha ↦ by
    obtain ⟨e, he⟩ := hF.node a ha
    exact ⟨e, he.extend hx⟩
  unshared := fun a b l ha hb hla hlb ↦ by
    obtain ⟨e, he⟩ := hF.node a ha
    obtain ⟨g, hg⟩ := hF.node b hb
    rw [hx.attrOrNull he] at hla
    rw [hx.attrOrNull hg] at hlb
    exact hF.unshared a b l ha hb hla hlb

end Extending

/-! ## Configurations -/

/-- Whatever else happened to a heap, its configurations are the same. -/
def KeepsSettings (h h' : Heap) : Prop :=
  ∀ a e, h.get? a = some (.entity e) → e.kind = .settings → h'.get? a = some (.entity e)

section Configurations

variable {h h' h'' : Heap} {c l p : Addr} {e f : Entity}

theorem KeepsSettings.refl (h : Heap) : h.KeepsSettings h :=
  fun _ _ ha _ ↦ ha

theorem KeepsSettings.trans (h₁ : h.KeepsSettings h') (h₂ : h'.KeepsSettings h'') :
    h.KeepsSettings h'' :=
  fun a e ha hk ↦ h₂ a e (h₁ a e ha hk) hk

theorem Extends.keepsSettings (hx : h.Extends h') : h.KeepsSettings h' :=
  fun _ _ ha _ ↦ hx.found ha

theorem keepsSettings_link (hc : h.get? c = some (.entity f)) (hf : f.kind ≠ .settings) (p : Addr) :
    h.KeepsSettings (h.link c p) := by
  intro a e ha hk
  have hac : a ≠ c := by
    rintro rfl
    rw [hc] at ha
    cases ha
    exact hf hk
  rw [get?_link_of_ne c p hac, ha]

theorem keepsSettings_put_list {old : List Value} (hl : h.get? l = some (.list old))
    (items : List Value) : h.KeepsSettings (h.put l (.list items)) := by
  intro a e ha _
  have hal : a ≠ l := by rintro rfl; simp [hl] at ha
  rw [get?_put_of_ne _ hal, ha]

theorem keepsSettings_setChildren (hp : h.NodeAt p e) (items : List Value) :
    h.KeepsSettings (h.setChildren p items) := by
  rcases hp.nodes_cases with hnull | ⟨l, old, hl, hget⟩
  · intro a f ha hk
    have hap : a ≠ p := by
      rintro rfl
      rw [hp.found] at ha
      cases ha
      rcases hp.genuine.kind with hk' | hk' <;> simp [hk] at hk'
    rw [get?_setChildren_of_ne hp.found hnull items (Nat.ne_of_lt (lt_fresh_of_get? ha)) hap, ha]
  · rw [setChildren_of_list hl]
    exact keepsSettings_put_list hget items

end Configurations

end Heap

end TagTree
