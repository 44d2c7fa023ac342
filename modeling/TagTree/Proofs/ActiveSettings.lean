import TagTree.Proofs.Phases
import TagTree.Proofs.Replay
import TagTree.Proofs.SettingsFiles

/-!
# The configuration in force stays acceptable

Whatever is made, loaded, saved and put in force, the configuration that is in force has settings
that were accepted, as long as no field of a configuration is assigned. Calls that fail do not
change which configuration is in force, and neither do those that only look at files or store
something there.

What a call can do is said once, by `SettingsCall.Outcome`; that all configurations stay acceptable
follows from it for a call and then for a run.
-/

namespace TagTree

open Op

variable {σ α β : Type}

/-! ## Texts that are suffixes -/

theorem Settings.isSuffix_iff {text : String} :
    isSuffix text = true ↔ 2 ≤ text.length ∧ text.toList.head? = some '.' := by
  rw [← String.length_toList, isSuffix]
  split
  · next h => simp [h]
  · next hother =>
    constructor
    · intro h
      cases h
    · intro ⟨hlength, hhead⟩
      -- With two characters or more, the first of them a full stop, the text has the other form.
      cases htext : text.toList with
      | nil => simp [htext] at hhead
      | cons c rest =>
        cases rest with
        | nil => simp [htext] at hlength
        | cons d rest =>
          rw [htext] at hhead
          cases hhead
          exact absurd htext (hother d rest)

theorem Settings.accepted_of_ofBytes {bytes : List Nat} {s : Settings}
    (h : ofBytes bytes = .ok s) : s.Accepted := by
  unfold ofBytes at h
  split at h
  · cases h
  · split at h
    · cases h
    · split at h
      · next hcheck =>
        cases h
        exact accepted_of_check hcheck
      · cases h
    · cases h

/-- The default settings are acceptable. -/
theorem Settings.accepted_default : Settings.Accepted {} := by
  constructor <;> decide

/-! ## Heaps with acceptable configurations only -/

/-- All configurations have settings that were accepted. -/
def Heap.OnlyAccepted (h : Heap) : Prop :=
  ∀ a e, h.get? a = some (.entity e) → e.kind = .settings →
    ∃ s : Settings, s.Accepted ∧ e = ⟨.settings, s.toAttrs, .absent⟩

namespace Heap.OnlyAccepted

variable {h : Heap} {a : Addr} {e : Entity} {s : Settings}

theorem add (hh : h.OnlyAccepted) {o : Object}
    (ho : ∀ e, o = .entity e → e.kind = .settings →
      ∃ s : Settings, s.Accepted ∧ e = ⟨.settings, s.toAttrs, .absent⟩) :
    (h.add o).OnlyAccepted := by
  intro a e ha hk
  by_cases hfresh : a = h.fresh
  · rw [hfresh, get?_add_fresh] at ha
    exact ho e (Option.some.inj ha) hk
  · rw [get?_add_of_ne _ hfresh] at ha
    exact hh a e ha hk

theorem add_settings (hh : h.OnlyAccepted) (hs : s.Accepted) :
    (h.add (.entity ⟨.settings, s.toAttrs, .absent⟩)).OnlyAccepted := by
  apply hh.add
  intro e he _
  cases he
  exact ⟨s, hs, rfl⟩

theorem accepted_of_configurationAt (hh : h.OnlyAccepted) (ha : h.ConfigurationAt a s) :
    s.Accepted := by
  obtain ⟨s', hs', he⟩ := hh a _ ha rfl
  have hattrs : s.toAttrs = s'.toAttrs := congrArg Entity.attrs he
  have hsame : s = s' := by
    cases s
    cases s'
    simpa [Settings.toAttrs, Settings.toTable] using hattrs
  rw [hsame]
  exact hs'

/-- What is taken for a configuration has accepted settings. -/
theorem configuration?_some (hh : h.OnlyAccepted) {v : Value}
    (hv : configuration? h v = some (a, e)) :
    ∃ s : Settings, s.Accepted ∧ v = .ref a ∧ e = ⟨.settings, s.toAttrs, .absent⟩ ∧
      h.ConfigurationAt a s := by
  unfold configuration? at hv
  split at hv
  · next b f hentity =>
    split at hv
    · next hkind =>
      cases hv
      have hfound := Heap.get?_of_entity? hentity
      obtain ⟨s, hs, rfl⟩ := hh _ _ hfound hkind
      exact ⟨s, hs, rfl, rfl, hfound⟩
    · cases hv
  · cases hv

end Heap.OnlyAccepted

/-- All configurations are acceptable, and what is in force is one of them. -/
structure World.WellSet (w : World σ) : Prop where
  accepted : w.heap.OnlyAccepted
  active : ∀ a, w.active = some a → ∃ s, w.heap.ConfigurationAt a s

/-- A world has more objects than another one and the same configuration in force. -/
structure World.Follows (w w' : World σ) : Prop where
  objects : w.heap.Extends w'.heap
  accepted : w'.heap.OnlyAccepted
  active : w'.active = w.active

namespace World

variable {w w' w'' : World σ}

theorem Follows.refl (hw : w.heap.OnlyAccepted) : w.Follows w :=
  ⟨⟨Nat.le_refl _, fun _ _ ↦ rfl⟩, hw, rfl⟩

theorem Follows.trans (h₁ : w.Follows w') (h₂ : w'.Follows w'') : w.Follows w'' :=
  ⟨h₁.objects.trans h₂.objects, h₂.accepted, h₂.active.trans h₁.active⟩

theorem WellSet.follow (hw : w.WellSet) (h : w.Follows w') : w'.WellSet where
  accepted := h.accepted
  active := by
    intro a ha
    rw [h.active] at ha
    obtain ⟨s, hs⟩ := hw.active a ha
    exact ⟨s, h.objects.found hs⟩

end World

/-! ## Operations that leave the configuration in force alone -/

namespace Op

/-- An operation makes at most new objects, whether it succeeds or fails. -/
def Spares (x : Op σ α) (w : World σ) : Prop :=
  w.Follows (x.after w)

section Spares

variable {x : Op σ α} {f : α → Op σ β} {w w' : World σ} {a : α}

theorem spares_of_ok (hx : x w = .ok a w') (h : w.Follows w') : x.Spares w := by
  rw [Spares, after_of_ok hx]
  exact h

theorem spares_of_reads (hx : x.Reads w) (hw : w.heap.OnlyAccepted) : x.Spares w := by
  rw [Spares, hx]
  exact .refl hw

theorem Spares.bind (hx : x.Spares w)
    (hf : ∀ a w', x w = .ok a w' → w'.heap.OnlyAccepted → (f a).Spares w') :
    (x >>= f).Spares w := by
  unfold Spares at hx ⊢
  cases hrun : x w with
  | ok a w' =>
    rw [after_of_ok hrun] at hx
    have hnext := hf a w' hrun hx.accepted
    have hsame : (x >>= f).after w = (f a).after w' := by
      rw [after, after, bind_of_ok hrun]
    rw [hsame]
    exact hx.trans hnext
  | error fault w' =>
    rw [after_of_error hrun] at hx
    rw [after_of_error (bind_of_error hrun f)]
    exact hx

theorem spares_onFiles (hw : w.heap.OnlyAccepted) (op : FileOp α) :
    (onFiles op : Op σ α).Spares w := by
  have hkept : ∀ files, w.Follows { w with files } :=
    fun _ ↦ ⟨⟨Nat.le_refl _, fun _ _ ↦ rfl⟩, hw, rfl⟩
  unfold Spares after onFiles
  cases op w.files with
  | ok a files => exact hkept files
  | error fault files => exact hkept files

theorem spares_newConfiguration (hw : w.heap.OnlyAccepted) {s : Settings} (hs : s.Accepted) :
    (newConfiguration s : Op σ Value).Spares w :=
  spares_of_ok (new_apply _ w) ⟨Heap.extends_add _ _, hw.add_settings hs, rfl⟩

end Spares

/-! ## Files with settings -/

section Files

variable {w : World σ}

theorem settingsIn_cases (path : String) (w : World σ) :
    (∃ found, settingsIn path w = .ok found w ∧
      ∀ s, found = .ok s → s.Accepted) ∨
    ∃ fault, settingsIn path w = .error (.ofFileFault fault) w := by
  unfold settingsIn
  rw [bind_of_ok (get_apply w)]
  cases w.files.contains (Location.ofText path) with
  | error fault => exact .inr ⟨fault, rfl⟩
  | ok there =>
    cases there with
    | false =>
      refine .inl ⟨.error .missing, rfl, ?_⟩
      intro s h
      cases h
    | true =>
      cases w.files.read (Location.ofText path) with
      | error fault => exact .inr ⟨fault, rfl⟩
      | ok bytes =>
        refine .inl ⟨Settings.ofBytes bytes, rfl, ?_⟩
        intro s h
        exact Settings.accepted_of_ofBytes h

/-- A file is valid, or it is reported with a reason, or there is a fault in reaching it. -/
theorem validateFile_cases (path : String) (w : World σ) :
    (∃ s : Settings, s.Accepted ∧ validateFile path w = .ok (.ok (.ref w.heap.fresh))
      { w with heap := w.heap.add (.entity ⟨.settings, s.toAttrs, .absent⟩) }) ∨
    (∃ reason, validateFile path w = .ok (.error reason) w) ∨
    ∃ fault, validateFile path w = .error (.ofFileFault fault) w := by
  rcases settingsIn_cases path w with ⟨found, hfound, haccepted⟩ | ⟨fault, hfault⟩
  · cases found with
    | ok s =>
      refine .inl ⟨s, haccepted s rfl, ?_⟩
      rw [validateFile, bind_of_ok hfound]
      rfl
    | error problem =>
      refine .inr (.inl ⟨problem.message (pathText path), ?_⟩)
      rw [validateFile, bind_of_ok hfound]
      rfl
  · refine .inr (.inr ⟨fault, ?_⟩)
    rw [validateFile, bind_of_error hfault]

end Files

end Op

/-- Whether a fault says that something is no configuration, or a file holds none. -/
def Fault.isAboutSettings : Fault → Bool
  | .notSettings _ | .settingsFile _ _ => true
  | _ => false

namespace Op

section Loading

variable {w : World σ} {path : String}

theorem loadFile_of_reason {reason : String}
    (h : validateFile path w = .ok (.error reason) w) (activating : Bool) :
    loadFile path activating w = .error (.settingsFile reason (pathText path)) w := by
  rw [loadFile, bind_of_ok h]
  rfl

theorem loadFile_of_fault {fault : Fault} (h : validateFile path w = .error fault w)
    (activating : Bool) : loadFile path activating w = .error fault w := by
  rw [loadFile, bind_of_error h]

theorem isAboutSettings_ofFileFault (fault : FileFault) :
    (Fault.ofFileFault fault).isAboutSettings = false := by
  cases fault <;> rfl

/-- Loading says that a file holds no configuration just if checking it reports a reason. -/
theorem loadFile_fails_iff (path : String) (activating : Bool) (w : World σ) :
    (∃ fault, (loadFile path activating).result w = .error fault ∧ fault.isAboutSettings = true) ↔
      ∃ reason, (validateFile path).result w = .ok (.error reason) := by
  rcases validateFile_cases path w with ⟨s, -, hvalid⟩ | ⟨reason, hreason⟩ | ⟨fault, hfault⟩
  · obtain ⟨log, hload⟩ := loadFile_of_valid hvalid activating
    rw [result_of_ok hload, result_of_ok hvalid]
    simp
  · rw [result_of_error (loadFile_of_reason hreason activating), result_of_ok hreason]
    exact ⟨fun _ ↦ ⟨reason, rfl⟩, fun _ ↦ ⟨_, rfl, rfl⟩⟩
  · rw [result_of_error (loadFile_of_fault hfault activating), result_of_error hfault]
    simp [isAboutSettings_ofFileFault]

end Loading

/-! ## Storing -/

section Storing

variable {w : World σ}

theorem attr?_of_getAttr {v x : Value} {name : String} (hfirst : name ≠ "first")
    (hlast : name ≠ "last") (h : (getAttr v name : Op σ Value) w = .ok x w) :
    w.heap.attr? v name = some x := by
  have hattr : w.heap.attr v name = .ok x := by
    rw [getAttr, bind_of_ok (heap_apply w)] at h
    cases hread : w.heap.attr v name with
    | error fault =>
      rw [hread] at h
      cases h
    | ok y =>
      rw [hread] at h
      cases h
      rfl
  unfold Heap.attr at hattr
  simp only [hfirst, hlast, and_false, if_false] at hattr
  split at hattr
  all_goals
    split at hattr
    · next hsome =>
      cases hattr
      exact hsome
    · cases hattr

/-- A method that is not there is asked for in vain. -/
theorem reads_callAttr (foreign : Caller σ) (fuel : Nat) {v : Value} {name : String}
    (hfirst : name ≠ "first") (hlast : name ≠ "last") (hnone : w.heap.capability v name = none)
    (args : List Value) : (callAttr (invoke foreign fuel) v name args).Reads w := by
  refine (reads_getAttr w v name).bind fun x hrun ↦ ?_
  have hcallable : w.heap.callable x = false := by
    rw [Heap.capability, attr?_of_getAttr hfirst hlast hrun] at hnone
    simpa using hnone
  obtain ⟨fault, hcall, -⟩ := invoke_of_not_callable hcallable foreign fuel args []
  exact after_of_error hcall

theorem spares_storedForm (foreign : Caller σ) (fuel : Nat) (hw : w.heap.OnlyAccepted) {v : Value}
    (hv : configuration? w.heap v = none → w.heap.capability v "model_dump" = none) :
    (storedForm (invoke foreign fuel) v).Spares w := by
  cases hc : configuration? w.heap v with
  | none =>
    have hform : storedForm (invoke foreign fuel) v w =
        callAttr (invoke foreign fuel) v "model_dump" [] w := by
      rw [storedForm, bind_of_ok (heap_apply w), hc]
    have hreads := reads_callAttr foreign fuel (by decide) (by decide) (hv hc) []
    apply spares_of_reads _ hw
    rw [Reads, after, hform]
    exact hreads
  | some found =>
    obtain ⟨s, -, rfl, -, hat⟩ := hw.configuration?_some (a := found.1) (e := found.2) hc
    have haccepted : (w.heap.add (storedMapping s)).OnlyAccepted :=
      hw.add fun e he _ ↦ by cases he
    exact spares_of_ok (storedForm_apply _ hat) ⟨Heap.extends_add _ _, haccepted, rfl⟩

theorem spares_saveFile (foreign : Caller σ) (fuel : Nat) (hw : w.heap.OnlyAccepted) {v : Value}
    (hv : configuration? w.heap v = none → w.heap.capability v "model_dump" = none)
    (path : String) : (saveFile (invoke foreign fuel) v path).Spares w := by
  refine (spares_onFiles hw _).bind fun _ w₁ hrun hw₁ ↦ ?_
  have hheap : w₁.heap = w.heap := by
    unfold onFiles at hrun
    split at hrun
    · cases hrun
      rfl
    · cases hrun
  refine (spares_storedForm foreign fuel hw₁ (hheap ▸ hv)).bind fun stored w₂ _ hw₂ ↦ ?_
  refine (spares_of_reads (reads_heap w₂) hw₂).bind fun h w₃ _ hw₃ ↦ ?_
  split
  · exact spares_onFiles hw₃ _
  · exact (spares_onFiles hw₃ _).bind fun _ w₄ _ hw₄ ↦ spares_of_reads (reads_throw w₄ _) hw₄

end Storing

end Op

/-! ## Calls -/

/-- A call that has to do with configurations. -/
inductive SettingsCall
  | make (named : Table Value)
  | activate (v : Value)
  | reset
  | current
  | validate (path : String)
  | load (path : String) (activating : Bool)
  | save (v : Value) (path : String)

namespace SettingsCall

/-- What a call does, and what it returns unless that is no value. -/
def run (call : Caller σ) : SettingsCall → Op σ Value
  | make named => makeConfiguration named
  | activate v => Op.activate v
  | reset => do
    resetConfiguration
    return .null
  | current => currentConfiguration
  | validate path => do
    let _ ← validateFile path
    return .null
  | load path activating => loadFile path activating
  | save v path => do
    saveFile call v path
    return .null

/-- Calls that are not about which configuration is in force. -/
def isQuiet : SettingsCall → Bool
  | make _ | validate _ | save _ _ | load _ false => true
  | activate _ | reset | current | load _ true => false

/-- Only configurations are asked to write themselves out by code of their own. -/
def Modest (h : Heap) : SettingsCall → Prop
  | save v _ => configuration? h v = none → h.capability v "model_dump" = none
  | _ => True

/-- What a call can do. -/
inductive Outcome (w : World σ) : SettingsCall → EStateM.Result Fault (World σ) Value → Prop
  | failed {c : SettingsCall} {fault : Fault} {w' : World σ} :
    w.Follows w' → Outcome w c (.error fault w')
  | quiet {c : SettingsCall} {r : Value} {w' : World σ} :
    c.isQuiet = true → w.Follows w' → Outcome w c (.ok r w')
  | installed {c : SettingsCall} {a : Addr} {s : Settings} {w' : World σ} :
    c.isQuiet = false → w.heap.Extends w'.heap → w'.heap.OnlyAccepted → w'.active = some a →
    w'.heap.ConfigurationAt a s → Outcome w c (.ok (.ref a) w')
  | reset : Outcome w .reset (.ok .null { w with active := none })

section Outcomes

variable {w : World σ}

theorem outcome_of_spares {c : SettingsCall} {x : Op σ Value} (hc : c.isQuiet = true)
    (hx : x.Spares w) : c.Outcome w (x w) := by
  unfold Spares after at hx
  cases hrun : x w with
  | ok r w' =>
    rw [hrun] at hx
    exact .quiet hc hx
  | error fault w' =>
    rw [hrun] at hx
    exact .failed hx

theorem outcome_activate (hw : w.WellSet) (v : Value) :
    (activate v).Outcome w (Op.activate v w) := by
  cases hc : configuration? w.heap v with
  | none =>
    have hfails : Op.activate v w = .error (.notSettings (w.heap.typeName v)) w := by
      rw [Op.activate, bind_of_ok (heap_apply w), hc]
      rfl
    rw [hfails]
    exact .failed (.refl hw.accepted)
  | some found =>
    obtain ⟨s, -, rfl, -, hat⟩ := hw.accepted.configuration?_some (a := found.1) (e := found.2) hc
    obtain ⟨log, hactivate⟩ := activate_apply hat
    rw [hactivate]
    exact .installed rfl ⟨Nat.le_refl _, fun _ _ ↦ rfl⟩ hw.accepted rfl hat

/-- The configuration in force is the one that was there, or a new one with default settings. -/
theorem currentConfiguration_apply (hw : w.WellSet) :
    ∃ c s w', currentConfiguration w = .ok (.ref c) w' ∧ w.heap.Extends w'.heap ∧
      w'.heap.OnlyAccepted ∧ w'.active = some c ∧ w'.heap.ConfigurationAt c s := by
  cases hactive : w.active with
  | some a =>
    have hsame : currentConfiguration w = .ok (.ref a) w := by
      rw [currentConfiguration, bind_of_ok (get_apply w), hactive]
      rfl
    obtain ⟨s, hs⟩ := hw.active a hactive
    exact ⟨a, s, w, hsame, ⟨Nat.le_refl _, fun _ _ ↦ rfl⟩, hw.accepted, hactive, hs⟩
  | none =>
    have hmade : currentConfiguration w = .ok (.ref w.heap.fresh)
        { w with
          heap := w.heap.add (.entity ⟨.settings, Settings.toAttrs {}, .absent⟩)
          active := some w.heap.fresh } := by
      rw [currentConfiguration, bind_of_ok (get_apply w), hactive]
      rfl
    have haccepted := hw.accepted.add_settings Settings.accepted_default
    exact ⟨_, {}, _, hmade, Heap.extends_add _ _, haccepted, rfl, configurationAt_add _ _⟩

theorem spares_validateFile (hw : w.heap.OnlyAccepted) (path : String) :
    (validateFile path : Op σ _).Spares w := by
  rcases validateFile_cases path w with ⟨s, hs, hvalid⟩ | ⟨reason, hreason⟩ | ⟨fault, hfault⟩
  · exact spares_of_ok hvalid ⟨Heap.extends_add _ _, hw.add_settings hs, rfl⟩
  · exact spares_of_ok hreason (.refl hw)
  · rw [Spares, after_of_error hfault]
    exact .refl hw

theorem outcome_load (hw : w.WellSet) (path : String) (activating : Bool) :
    (load path activating).Outcome w (loadFile path activating w) := by
  rcases validateFile_cases path w with ⟨s, hs, hvalid⟩ | ⟨reason, hreason⟩ | ⟨fault, hfault⟩
  · obtain ⟨log, hload⟩ := loadFile_of_valid hvalid activating
    have hextends := Heap.extends_add w.heap (.entity ⟨.settings, s.toAttrs, .absent⟩)
    have haccepted := hw.accepted.add_settings hs
    rw [hload]
    cases activating with
    | false => exact .quiet rfl ⟨hextends, haccepted, rfl⟩
    | true => exact .installed rfl hextends haccepted rfl (configurationAt_add _ _)
  · rw [loadFile_of_reason hreason]
    exact .failed (.refl hw.accepted)
  · rw [loadFile_of_fault hfault]
    exact .failed (.refl hw.accepted)

theorem outcome (foreign : Caller σ) (fuel : Nat) (hw : w.WellSet) {c : SettingsCall}
    (hc : c.Modest w.heap) : c.Outcome w (c.run (invoke foreign fuel) w) := by
  have hpure : ∀ (v : Value) (w' : World σ), w'.heap.OnlyAccepted →
      (pure v : Op σ Value).Spares w' :=
    fun v w' hw' ↦ spares_of_reads (reads_pure w' v) hw'
  cases c with
  | make named =>
    refine outcome_of_spares (x := makeConfiguration named) rfl ?_
    unfold makeConfiguration
    split
    · next hcheck =>
      exact spares_newConfiguration hw.accepted (Settings.accepted_of_check hcheck)
    · exact spares_of_reads (reads_throw w _) hw.accepted
  | activate v => exact outcome_activate hw v
  | reset => exact .reset
  | current =>
    obtain ⟨a, s, w', hcurrent, hextends, haccepted, hactive, hat⟩ := currentConfiguration_apply hw
    rw [run, hcurrent]
    exact .installed rfl hextends haccepted hactive hat
  | validate path =>
    exact outcome_of_spares rfl
      ((spares_validateFile hw.accepted path).bind fun _ w' _ hw' ↦ hpure _ w' hw')
  | load path activating => exact outcome_load hw path activating
  | save v path =>
    exact outcome_of_spares rfl
      ((spares_saveFile foreign fuel hw.accepted hc path).bind fun _ w' _ hw' ↦ hpure _ w' hw')

/-- A call keeps all configurations acceptable. -/
theorem wellSet_after (foreign : Caller σ) (fuel : Nat) (hw : w.WellSet) {c : SettingsCall}
    (hc : c.Modest w.heap) : ((c.run (invoke foreign fuel)).after w).WellSet := by
  have houtcome := outcome foreign fuel hw hc
  unfold after
  generalize c.run (invoke foreign fuel) w = result at houtcome
  cases houtcome with
  | failed hfollows => exact hw.follow hfollows
  | quiet _ hfollows => exact hw.follow hfollows
  | installed _ _ haccepted hactive hat =>
    refine ⟨haccepted, fun a ha ↦ ?_⟩
    rw [hactive] at ha
    cases ha
    exact ⟨_, hat⟩
  | reset => exact ⟨hw.accepted, fun a ha ↦ by cases ha⟩

/-- A call that fails or is not about the configuration in force leaves it in force. -/
theorem follows_after (foreign : Caller σ) (fuel : Nat) (hw : w.WellSet) {c : SettingsCall}
    (hc : c.Modest w.heap)
    (hleaves : c.isQuiet = true ∨ ∃ fault, (c.run (invoke foreign fuel)).result w = .error fault) :
    w.Follows ((c.run (invoke foreign fuel)).after w) := by
  have houtcome := outcome foreign fuel hw hc
  unfold result at hleaves
  unfold after
  generalize c.run (invoke foreign fuel) w = result at houtcome hleaves
  cases houtcome with
  | failed hfollows => exact hfollows
  | quiet _ hfollows => exact hfollows
  | installed hloud =>
    rw [hloud] at hleaves
    simp at hleaves
  | reset =>
    simp [isQuiet] at hleaves

/-- A call that is about the configuration in force and succeeds puts in force what it returns. -/
theorem active_after (foreign : Caller σ) (fuel : Nat) (hw : w.WellSet) {c : SettingsCall}
    (hc : c.Modest w.heap) (hloud : c.isQuiet = false) {r : Value}
    (hr : (c.run (invoke foreign fuel)).result w = .ok r) :
    (c = .reset ∧ ((c.run (invoke foreign fuel)).after w).active = none) ∨
      ∃ a, r = .ref a ∧ ((c.run (invoke foreign fuel)).after w).active = some a := by
  have houtcome := outcome foreign fuel hw hc
  unfold result at hr
  unfold after
  generalize c.run (invoke foreign fuel) w = result at houtcome hr
  cases houtcome with
  | failed => cases hr
  | quiet hquiet =>
    rw [hquiet] at hloud
    cases hloud
  | installed _ _ _ hactive =>
    cases hr
    exact .inr ⟨_, rfl, hactive⟩
  | reset => exact .inl ⟨rfl, rfl⟩

end Outcomes

end SettingsCall

/-! ## Runs -/

/-- The worlds that calls lead to from one without configurations. In an interlude anything may
change except for configurations and which one is in force; the files may be any others. -/
inductive SettingsRun (call : Caller σ) : World σ → Prop
  | start {w : World σ} :
    w.active = none → (∀ a e, w.heap.get? a = some (.entity e) → e.kind ≠ .settings) →
    SettingsRun call w
  | interlude {w w' : World σ} :
    SettingsRun call w → w'.active = w.active →
    (∀ a e, e.kind = .settings →
      (w'.heap.get? a = some (.entity e) ↔ w.heap.get? a = some (.entity e))) →
    SettingsRun call w'
  | step {w : World σ} {c : SettingsCall} :
    SettingsRun call w → c.Modest w.heap → SettingsRun call ((c.run call).after w)

theorem SettingsRun.wellSet {foreign : Caller σ} {fuel : Nat} {w : World σ}
    (hrun : SettingsRun (invoke foreign fuel) w) : w.WellSet := by
  induction hrun with
  | start hnone hfree =>
    refine ⟨fun a e ha hk ↦ absurd hk (hfree a e ha), fun a ha ↦ ?_⟩
    rw [hnone] at ha
    cases ha
  | interlude _ hactive hsame ih =>
    refine ⟨fun a e ha hk ↦ ih.accepted a e ((hsame a e hk).mp ha) hk, fun a ha ↦ ?_⟩
    rw [hactive] at ha
    obtain ⟨s, hs⟩ := ih.active a ha
    exact ⟨s, (hsame a _ rfl).mpr hs⟩
  | step _ hc ih => exact SettingsCall.wellSet_after foreign fuel ih hc

section Runs

variable {foreign : Caller σ} {fuel : Nat} {w : World σ}

/-- At every point of every run: the configuration in force can be had, its suffixes are full stops
with something behind them and differ, and its level is one of five names. The next call leaves the
configuration in force as it is if it fails or is not about that, and otherwise puts in force what
it returns. Loading a file says that it holds no configuration just if checking the file reports a
reason. -/
theorem configuration_in_force_is_accepted (hrun : SettingsRun (invoke foreign fuel) w) :
    (∃ c s w', currentConfiguration w = .ok (.ref c) w' ∧ w'.heap.ConfigurationAt c s ∧
      2 ≤ s.openSuffix.length ∧ s.openSuffix.toList.head? = some '.' ∧
      2 ≤ s.closeSuffix.length ∧ s.closeSuffix.toList.head? = some '.' ∧
      s.openSuffix ≠ s.closeSuffix ∧
      s.logLevel ∈ ["DEBUG", "INFO", "WARNING", "ERROR", "CRITICAL"]) ∧
    (∀ c : SettingsCall, c.Modest w.heap →
      let w' := (c.run (invoke foreign fuel)).after w
      ((c.isQuiet = true ∨ ∃ fault, (c.run (invoke foreign fuel)).result w = .error fault) →
        w'.active = w.active ∧ ∀ a, w.active = some a → w'.heap.get? a = w.heap.get? a) ∧
      ∀ r, c.isQuiet = false → (c.run (invoke foreign fuel)).result w = .ok r →
        (c = .reset ∧ w'.active = none) ∨ ∃ a, r = .ref a ∧ w'.active = some a) ∧
    ∀ path activating,
      (∃ fault, (loadFile path activating).result w = .error fault ∧
        fault.isAboutSettings = true) ↔
      ∃ reason, (validateFile path).result w = .ok (.error reason) := by
  have hw := hrun.wellSet
  refine ⟨?_, fun c hc ↦ ⟨fun hleaves ↦ ?_, fun r hloud hr ↦ ?_⟩, fun path activating ↦ ?_⟩
  · obtain ⟨a, s, w', hcurrent, -, haccepted, -, hat⟩ := SettingsCall.currentConfiguration_apply hw
    have hs := haccepted.accepted_of_configurationAt hat
    obtain ⟨hopenLength, hopenHead⟩ := Settings.isSuffix_iff.mp hs.openSuffix
    obtain ⟨hcloseLength, hcloseHead⟩ := Settings.isSuffix_iff.mp hs.closeSuffix
    exact ⟨a, s, w', hcurrent, hat, hopenLength, hopenHead, hcloseLength, hcloseHead, hs.differ,
      hs.logLevel⟩
  · have hfollows := SettingsCall.follows_after foreign fuel hw hc hleaves
    refine ⟨hfollows.active, fun a ha ↦ ?_⟩
    obtain ⟨s, hs⟩ := hw.active a ha
    rw [hfollows.objects.found hs]
    exact hs.symm
  · exact SettingsCall.active_after foreign fuel hw hc hloud hr
  · exact loadFile_fails_iff path activating w

end Runs

/-- A configuration is made and put in force. A file that is not there cannot be loaded in its
place. -/
theorem configuration_in_force_after_failure :
    let call : Caller Unit := invoke (fun _ _ _ ↦ throw .unsupported) 1
    let make := SettingsCall.make [("open_suffix", .str ".a"), ("log_level", .str " info")]
    let load := SettingsCall.load "a.json" true
    let w₁ := (make.run call).after { client := () }
    let w₂ := ((SettingsCall.activate (.ref 0)).run call).after w₁
    SettingsRun call w₂ ∧ w₂.heap.ConfigurationAt 0 ⟨".a", ".close", ",", "INFO"⟩ ∧
      w₂.active = some 0 ∧ (∃ fault, (load.run call).result w₂ = .error fault) ∧
      ((load.run call).after w₂).active = some 0 := by
  intro call make load w₁ w₂
  have hstart : SettingsRun call { client := () } := by
    refine .start rfl fun a e ha ↦ ?_
    cases ha
  have hrun : SettingsRun call w₂ := (hstart.step (c := make) trivial).step trivial
  have hactive : w₂.active = some 0 := by decide +kernel
  have hvalid : (validateFile "a.json").result w₂ =
      .ok (.error "Configuration file not found: <tmp>/a.json") := by decide +kernel
  obtain ⟨-, hcalls, hfiles⟩ := configuration_in_force_is_accepted hrun
  obtain ⟨fault, hfault, -⟩ := (hfiles "a.json" true).mpr ⟨_, hvalid⟩
  obtain ⟨hkept, -⟩ := (hcalls load trivial).1 (.inr ⟨fault, hfault⟩)
  have hmade : w₂.heap.get? 0 =
      some (.entity ⟨.settings, Settings.toAttrs ⟨".a", ".close", ",", "INFO"⟩, .absent⟩) := by
    decide +kernel
  exact ⟨hrun, hmade, hactive, ⟨fault, hfault⟩, hkept.trans hactive⟩

end TagTree
