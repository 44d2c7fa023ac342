import TagTree.Settings.File
import TagTree.Proofs.AcceptedSettings
import TagTree.Proofs.Children
import TagTree.Proofs.StoredText

/-!
# Settings that are stored and loaded again

A configuration that is saved at a location where files can be stored is found there again: the file
is valid, and loading it gives a new configuration with the same four settings. Nothing but loading
with the wish to activate changes which configuration is in force.

What is written does not depend on the characters in the settings, by `Json.parse_indented`, and the
settings pass their check a second time, by `Settings.Accepted.check_toGiven`. What remains is that
a location leads to the same place after a file was put there.
-/

namespace TagTree

/-! ## Locations -/

namespace Files

variable {files : Files} {path other : List String} {entry : FileEntry}

/-- A file can be stored at a location: the directories that lead to it are there or can be made,
and there is no directory in its place. -/
def Writable (files : Files) (l : Location) : Prop :=
  ∃ made path, FileOp.prepare l files = .ok () made ∧ made.locate l = .ok path ∧
    made.entry? path ≠ some .directory

theorem entry?_put_self (hhome : path.isPrefixOf home = false) :
    Files.entry? (files.put path entry) path = some entry := by
  simp [put, entry?, hhome]

theorem entry?_put_of_ne (hne : other ≠ path) :
    Files.entry? (files.put path entry) other = files.entry? other := by
  have hkept : (files.entries.filter fun e ↦ e.1 != path).lookup other =
      files.entries.lookup other := by
    induction files.entries with
    | nil => rfl
    | cons e rest ih =>
      obtain ⟨p, x⟩ := e
      by_cases hp : p = path
      · have hother : (other == p) = false := beq_false_of_ne (hp ▸ hne)
        simp [List.lookup_cons, hp, ih, hp ▸ hother]
      · simp [List.lookup_cons, hp, ih]
  have hother : (other == path) = false := beq_false_of_ne hne
  simp [put, entry?, List.lookup_cons, hother, hkept]

/-- Names lead where they did before, if something took a place that was no directory: only
directories are passed on the way. -/
theorem follow_put (hpath : files.entry? path ≠ some .directory) {directory target : List String}
    {names : List String} (hfollow : files.follow directory names = .ok target) :
    (files.put path entry).follow directory names = .ok target := by
  induction names generalizing directory with
  | nil => exact hfollow
  | cons name rest ih =>
    unfold follow at hfollow ⊢
    split at hfollow
    · cases hfollow
    · cases hfollow
    · next hdirectory =>
      have hne : directory ≠ path := by
        rintro rfl
        exact hpath hdirectory
      rw [entry?_put_of_ne hne, hdirectory]
      simp only
      split at hfollow
      · cases hfollow
      · next hshort =>
        rw [if_neg hshort]
        exact ih hfollow

theorem locate_put (hpath : files.entry? path ≠ some .directory) {l : Location}
    (hlocate : files.locate l = .ok path) : (files.put path entry).locate l = .ok path := by
  unfold locate at hlocate ⊢
  split at hlocate
  · cases hlocate
  · next hnull =>
    split at hlocate
    · cases hlocate
    · next hshort =>
      rw [if_neg hnull, if_neg hshort]
      exact follow_put hpath hlocate

/-- A file that was put at a location is what stands there. -/
theorem at?_put (hpath : files.entry? path ≠ some .directory) {l : Location}
    (hlocate : files.locate l = .ok path) : (files.put path entry).at? l = .ok (some entry) := by
  have hhome : path.isPrefixOf home = false := by
    rw [← Bool.not_eq_true]
    intro h
    apply hpath
    unfold entry?
    exact if_pos h
  rw [at?, locate_put hpath hlocate]
  exact congrArg Except.ok (entry?_put_self hhome)

end Files

namespace FileOp

theorem write_apply {files : Files} {l : Location} {path : List String}
    (hlocate : files.locate l = .ok path) (hpath : files.entry? path ≠ some .directory)
    (bytes : List Nat) :
    write l bytes files = .ok () (files.put path (.file bytes)) := by
  have hcontent : files.withContent l bytes = .ok (files.put path (.file bytes)) := by
    unfold Files.withContent
    rw [hlocate]
    dsimp only [bind, Except.bind]
    split
    · next h => exact absurd h hpath
    · rfl
  have hget : (get : FileOp Files) files = .ok files files := rfl
  simp only [write, change, bind, EStateM.bind, hget, hcontent]
  rfl

end FileOp

/-! ## The content of the file -/

namespace Settings

/-- The document that is stored for settings. -/
def document (s : Settings) : Json :=
  .obj (Json.textMembers s.toTable)

/-- Settings can be read from the bytes that are stored for them. -/
theorem Accepted.ofBytes_document {s : Settings} (hs : s.Accepted) :
    ofBytes (Text.encodeUtf8 (s.document.indented 0)) = .ok s := by
  have hempty : s.toTable ≠ [] := List.cons_ne_nil _ _
  have hnames : s.toTable.keys.Nodup := by
    change ["open_suffix", "close_suffix", "join_separator", "log_level"].Nodup
    decide
  have hgiven : givenMembers (Json.textMembers s.toTable) = s.toGiven := rfl
  unfold ofBytes document
  rw [Text.decodeUtf8_encodeUtf8]
  simp only
  rw [Text.uniformLineEnds_of_notMem _ (Json.notMem_indented hempty),
    Json.parse_indented _ hempty hnames]
  simp only
  rw [hgiven, hs.check_toGiven]

end Settings

/-- A configuration with the given settings stands at an address. -/
def Heap.ConfigurationAt (h : Heap) (c : Addr) (s : Settings) : Prop :=
  h.get? c = some (.entity ⟨.settings, s.toAttrs, .absent⟩)

namespace Op

variable {σ : Type} {w : World σ} {c : Addr} {s : Settings}

theorem onFiles_of_ok {α : Type} {op : FileOp α} {a : α} {files : Files}
    (h : op w.files = .ok a files) : (onFiles op : Op σ α) w = .ok a { w with files := files } := by
  rw [onFiles, h]

theorem dumpFields_toAttrs (s : Settings) (w : World σ) :
    (dumpFields s.toAttrs : Op σ (Table Value)) w = .ok s.toAttrs w := by
  have hfields : Settings.fieldsOf s.toAttrs = s.toAttrs := by
    simp [Settings.fieldsOf, Settings.toAttrs, Settings.toTable, Settings.fieldNames]
  rw [dumpFields, hfields, show walkDepth = 99999 + 1 from rfl]
  rfl

theorem configuration?_of_configurationAt {h : Heap} (hc : h.ConfigurationAt c s) :
    configuration? h (.ref c) = some (c, ⟨.settings, s.toAttrs, .absent⟩) := by
  simp [configuration?, Heap.entity?_of_get? hc]

theorem configurationAt_add (h : Heap) (s : Settings) :
    (h.add (.entity ⟨.settings, s.toAttrs, .absent⟩)).ConfigurationAt h.fresh s :=
  Heap.get?_add_fresh h _

/-! ## Saving -/

/-- The mapping that is stored for settings. -/
def storedMapping (s : Settings) : Object :=
  .dict (s.toTable.map fun (name, text) ↦ (.str name, .str text))

theorem storedForm_apply (call : Caller σ) (hc : w.heap.ConfigurationAt c s) :
    storedForm call (.ref c) w =
      .ok (.ref w.heap.fresh) { w with heap := w.heap.add (storedMapping s) } := by
  unfold storedForm
  rw [bind_of_ok (heap_apply w), configuration?_of_configurationAt hc]
  simp only
  rw [bind_of_ok (dumpFields_toAttrs s w)]
  rfl

theorem documentOf_storedMapping (h : Heap) (s : Settings) :
    documentOf (h.add (storedMapping s)) walkDepth [] (.ref h.fresh) = .ok s.document := by
  have hobject : (h.add (storedMapping s)).object? (.ref h.fresh) = some (storedMapping s) :=
    Heap.get?_add_fresh h _
  rw [show walkDepth = 99998 + 1 + 1 from rfl, documentOf.eq_def]
  simp only
  rw [hobject]
  rfl

theorem saveFile_apply (call : Caller σ) {path : String} {made : Files} {place : List String}
    (hc : w.heap.ConfigurationAt c s)
    (hprepare : FileOp.prepare (Location.ofText path) w.files = .ok () made)
    (hlocate : made.locate (Location.ofText path) = .ok place)
    (hplace : made.entry? place ≠ some .directory) :
    saveFile call (.ref c) path w = .ok ()
      { w with
        heap := w.heap.add (storedMapping s)
        files := made.put place (.file (Text.encodeUtf8 (s.document.indented 0))) } := by
  unfold saveFile
  rw [bind_of_ok (onFiles_of_ok hprepare),
    bind_of_ok (storedForm_apply (w := { w with files := made }) call hc),
    bind_of_ok (heap_apply _)]
  simp only
  rw [documentOf_storedMapping]
  simp only
  exact onFiles_of_ok (FileOp.write_apply hlocate hplace _)

/-! ## Loading -/

theorem settingsIn_apply {path : String} {bytes : List Nat}
    (hat : w.files.at? (Location.ofText path) = .ok (some (.file bytes))) :
    settingsIn path w = .ok (Settings.ofBytes bytes) w := by
  have hcontains : w.files.contains (Location.ofText path) = .ok true := by
    rw [Files.contains, hat]
    rfl
  have hread : w.files.read (Location.ofText path) = .ok bytes := by
    rw [Files.read, hat]
    rfl
  unfold settingsIn
  rw [bind_of_ok (get_apply w)]
  simp only [hcontains, hread, fromFiles]
  rfl

theorem validateFile_apply {path : String} {bytes : List Nat}
    (hat : w.files.at? (Location.ofText path) = .ok (some (.file bytes)))
    (hbytes : Settings.ofBytes bytes = .ok s) :
    validateFile path w = .ok (.ok (.ref w.heap.fresh))
      { w with heap := w.heap.add (.entity ⟨.settings, s.toAttrs, .absent⟩) } := by
  unfold validateFile
  rw [bind_of_ok (settingsIn_apply hat), hbytes]
  rfl

theorem fieldsText_apply (s : Settings) (w : World σ) :
    ∃ text, (fieldsText ⟨.settings, s.toAttrs, .absent⟩ : Op σ String) w = .ok text w := by
  unfold fieldsText
  rw [bind_of_ok (dumpFields_toAttrs s w)]
  exact ⟨_, rfl⟩

/-- Putting a configuration in force changes nothing else but the log. -/
theorem activate_apply (hc : w.heap.ConfigurationAt c s) :
    ∃ log, activate (.ref c) w = .ok (.ref c) { w with active := some c, log := log } := by
  obtain ⟨text, htext⟩ := fieldsText_apply s { w with active := some c }
  unfold activate
  rw [bind_of_ok (heap_apply w), configuration?_of_configurationAt hc]
  simp only
  rw [bind_of_ok (show (modify fun w ↦ { w with active := some c } : Op σ PUnit) w =
    .ok ⟨⟩ { w with active := some c } from rfl), bind_of_ok htext]
  exact ⟨_, rfl⟩

/-- Loading a file that is valid. -/
theorem loadFile_of_valid {path : String}
    (hvalid : validateFile path w = .ok (.ok (.ref w.heap.fresh))
      { w with heap := w.heap.add (.entity ⟨.settings, s.toAttrs, .absent⟩) })
    (activating : Bool) :
    ∃ log, loadFile path activating w = .ok (.ref w.heap.fresh)
      { w with
        heap := w.heap.add (.entity ⟨.settings, s.toAttrs, .absent⟩)
        active := if activating then some w.heap.fresh else w.active
        log := log } := by
  unfold loadFile
  rw [bind_of_ok hvalid]
  simp only
  rw [bind_of_ok (debug_apply _ _ _)]
  cases activating with
  | false => exact ⟨_, rfl⟩
  | true =>
    have hnew := configurationAt_add w.heap s
    obtain ⟨log, hactivate⟩ := activate_apply
      (w := { w with
        heap := w.heap.add (.entity ⟨.settings, s.toAttrs, .absent⟩)
        log := w.log.message configurationLogger 10
          ("Loaded configuration from " ++ pathText path) }) hnew
    refine ⟨log, ?_⟩
    simp only [if_true]
    rw [bind_of_ok hactivate]
    rfl

theorem loadFile_apply {path : String} {bytes : List Nat}
    (hat : w.files.at? (Location.ofText path) = .ok (some (.file bytes)))
    (hbytes : Settings.ofBytes bytes = .ok s) (activating : Bool) :
    ∃ log, loadFile path activating w = .ok (.ref w.heap.fresh)
      { w with
        heap := w.heap.add (.entity ⟨.settings, s.toAttrs, .absent⟩)
        active := if activating then some w.heap.fresh else w.active
        log := log } :=
  loadFile_of_valid (validateFile_apply hat hbytes) activating

end Op

/-- A configuration that was saved is found again. The file is valid, and loading it gives a new
configuration with the same settings, in every world with these files; it is put in force if that is
asked for, and otherwise the configuration in force stays as it is. -/
theorem saved_settings_load_unchanged {σ : Type} (call : Caller σ) {given : Settings.Given}
    {s : Settings} (hcheck : Settings.check given = .ok s) {w : World σ} {c : Addr}
    (hc : w.heap.ConfigurationAt c s) {path : String}
    (hpath : w.files.Writable (Location.ofText path)) :
    ∃ saved, Op.saveFile call (.ref c) path w = .ok () saved ∧ saved.active = w.active ∧
      w.heap.Extends saved.heap ∧
      ∀ later : World σ, later.files = saved.files →
        (∃ c' checked, Op.validateFile path later = .ok (.ok (.ref c')) checked ∧
          later.heap.get? c' = none ∧ checked.heap.ConfigurationAt c' s ∧
          later.heap.Extends checked.heap ∧ checked.active = later.active) ∧
        ∀ activating, ∃ c' loaded, Op.loadFile path activating later = .ok (.ref c') loaded ∧
          later.heap.get? c' = none ∧ loaded.heap.ConfigurationAt c' s ∧
          later.heap.Extends loaded.heap ∧
          loaded.active = if activating then some c' else later.active := by
  have haccepted := Settings.accepted_of_check hcheck
  obtain ⟨made, place, hprepare, hlocate, hplace⟩ := hpath
  refine ⟨_, Op.saveFile_apply call hc hprepare hlocate hplace, rfl, Heap.extends_add _ _, ?_⟩
  intro later hfiles
  have hat : later.files.at? (Location.ofText path) =
      .ok (some (.file (Text.encodeUtf8 (s.document.indented 0)))) := by
    rw [hfiles]
    exact Files.at?_put hplace hlocate
  have hbytes := haccepted.ofBytes_document
  have hfree : later.heap.get? later.heap.fresh = none :=
    Heap.get?_eq_none_of_fresh_le (Nat.le_refl _)
  have hnew := Op.configurationAt_add later.heap s
  have hkept := Heap.extends_add later.heap (.entity ⟨.settings, s.toAttrs, .absent⟩)
  constructor
  · exact ⟨_, _, Op.validateFile_apply hat hbytes, hfree, hnew, hkept, rfl⟩
  · intro activating
    obtain ⟨log, hload⟩ := Op.loadFile_apply hat hbytes activating
    exact ⟨_, _, hload, hfree, hnew, hkept, rfl⟩

/-- Settings with marks, escapes, line ends of two kinds and characters of one to four bytes. -/
def unusualSettings : Settings where
  openSuffix := ".\"\\\x01"
  closeSuffix := ".é\n"
  joinSeparator := "\r\n😀\t€"
  logLevel := "ERROR"

/-- A world with one configuration, which is not in force. -/
def oneConfiguration (s : Settings) : World Unit where
  heap := ⟨#[some (.entity ⟨.settings, s.toAttrs, .absent⟩)]⟩
  client := ()

/-- The directory of the file is made on the way. -/
theorem saved_settings_load_with_escapes :
    let s := unusualSettings
    let w := oneConfiguration s
    let call : Caller Unit := fun _ _ _ ↦ throw .unsupported
    Settings.check s.toGiven = .ok s ∧ w.heap.ConfigurationAt 0 s ∧
      w.files.Writable (Location.ofText "a/b.json") ∧
      ∃ saved c' loaded, Op.saveFile call (.ref 0) "a/b.json" w = .ok () saved ∧
        Op.loadFile "a/b.json" true saved = .ok (.ref c') loaded ∧
        loaded.heap.ConfigurationAt c' s ∧ loaded.active = some c' := by
  intro s w call
  have haccepted : s.Accepted := ⟨by decide +kernel, by decide +kernel, by decide, by decide⟩
  have hcheck := haccepted.check_toGiven
  have hc : w.heap.ConfigurationAt 0 s := rfl
  have hlocation : Location.ofText "a/b.json" = ⟨"", ["a", "b.json"]⟩ := by decide +kernel
  have hpath : w.files.Writable (Location.ofText "a/b.json") := by
    rw [hlocation]
    exact ⟨⟨[(["tmp", "tmp00000000", "a"], .directory)]⟩, ["tmp", "tmp00000000", "a", "b.json"],
      rfl, rfl, by decide⟩
  obtain ⟨saved, hsave, -, -, hlater⟩ := saved_settings_load_unchanged call hcheck hc hpath
  obtain ⟨c', loaded, hload, -, hnew, -, hactive⟩ := (hlater saved rfl).2 true
  exact ⟨hcheck, hc, hpath, saved, c', loaded, hsave, hload, hnew, hactive⟩

end TagTree
