import TagTree.Log.Setup
import TagTree.Proofs.Replay

/-!
# Setting up the log again and again

However often the log is set up, and whether the levels asked for are known or not, it has one
handler of the library's own and the handlers of others in their order, and records are made in the
plain way with their importance filled in once. The level is the one that the last successful call
asked for.

All this is read off the record of the calls, by `LogCall.levelAfter` for the level. A call that
fails because of its level has attached the handler by then, so it counts for everything but the
level.
-/

namespace TagTree

open Op

/-! ## Calls and what they ask for -/

/-- The level that is asked for, as an argument. -/
def levelArgument : Option String → Value
  | none => .null
  | some text => .str text

/-- The name of the level that setting up the log comes down to, in capitals: the one asked for, or
the configured one if that is missing or empty. There is none if the configured level is no text. -/
def World.levelName? {σ : Type} (w : World σ) (level : Option String) : Option String :=
  match level with
  | some text => if text = "" then configured else some (Text.upper text)
  | none => configured
where
  configured : Option String :=
    match Table.get? w.settings "log_level" with
    | some (.str text) => some (Text.upper text)
    | _ => none

/-- A call that has to do with how the log is set up. -/
inductive LogCall
  /-- The log is set up, with a level of the given name. -/
  | setup (name : String)
  /-- Records are made to carry an importance. -/
  | install
  deriving DecidableEq

namespace LogCall

def isSetup : LogCall → Bool
  | setup _ => true
  | install => false

/-- The level after a call: another one only if the log was set up with a level that is known. -/
def level (before : Int) : LogCall → Int
  | setup name => ((Log.levelNumber? name).map Int.ofNat).getD before
  | install => before

/-- The level after several calls. -/
def levelAfter (before : Int) (history : List LogCall) : Int :=
  history.foldl level before

theorem levelAfter_append (before : Int) (history : List LogCall) (c : LogCall) :
    levelAfter before (history ++ [c]) = c.level (levelAfter before history) := by
  simp [levelAfter, List.foldl_append]

end LogCall

/-! ## Single calls -/

namespace Log

@[simp]
theorem handlers_installMaker (log : Log) : log.installMaker.handlers = log.handlers := by
  unfold installMaker
  split <;> rfl

@[simp]
theorem level_installMaker (log : Log) : log.installMaker.level = log.level := by
  unfold installMaker
  split <;> rfl

/-- Once records carry an importance, nothing is done about it any more. -/
theorem maker_installMaker {log : Log}
    (hmaker : log.maker = .plain ∨ log.maker = .withImportance .plain) :
    log.installMaker.maker = .withImportance .plain := by
  unfold installMaker
  rcases hmaker with hmaker | hmaker
  · simp [hmaker, RecordMaker.givesImportance]
  · simp [hmaker, RecordMaker.givesImportance]

theorem count_replaceHandler (log : Log) : log.replaceHandler.handlers.count .unified = 1 := by
  have hnone : (log.handlers.filter (· != .unified)).count .unified = 0 :=
    List.count_eq_zero.mpr (by simp)
  simp [replaceHandler, List.count_append, hnone]

theorem filter_replaceHandler (log : Log) :
    log.replaceHandler.handlers.filter (· != .unified) =
      log.handlers.filter (· != .unified) := by
  simp [replaceHandler, List.filter_append, List.filter_filter]

end Log

section Calls

variable {σ : Type} {w : World σ} {level : Option String} {name : String}

theorem requestedLevel_apply (call : Caller σ) (hname : w.levelName? level = some name) :
    requestedLevel call (levelArgument level) w = .ok (.str name) w := by
  have hconfigured : World.levelName?.configured w = some name →
      (do upper call (← setting "log_level") : Op σ Value) w = .ok (.str name) w := by
    intro h
    unfold World.levelName?.configured at h
    split at h
    · next text hsetting =>
      cases h
      have hread : (setting "log_level" : Op σ Value) w = .ok (.str text) w := by
        rw [setting, bind_of_ok (get_apply w), hsetting]
        rfl
      rw [bind_of_ok hread]
      rfl
    · cases h
  rw [requestedLevel, bind_of_ok (heap_apply w)]
  unfold World.levelName? at hname
  split at hname
  · next text =>
    split at hname
    · next hempty =>
      subst hempty
      exact hconfigured hname
    · next hne =>
      have htrue : w.heap.truthy (levelArgument (some text)) = true := by
        simpa [levelArgument, Heap.truthy] using hne
      cases hname
      rw [if_pos htrue]
      rfl
  · exact hconfigured hname

/-- Setting up the log does everything but setting the level, whatever the level. -/
theorem setupLog_apply (call : Caller σ) (hname : w.levelName? level = some name) :
    setupLog call (levelArgument level) w =
      match Log.levelNumber? name with
      | some number =>
        .ok (.int number)
          { w with log := { w.log.installMaker.replaceHandler with level := number } }
      | none =>
        .error (.unknownLevel name) { w with log := w.log.installMaker.replaceHandler } := by
  rw [setupLog, bind_of_ok (requestedLevel_apply call hname)]
  cases hnumber : Log.levelNumber? name with
  | none =>
    have hlevel : levelNumber (.str name) = .error (.unknownLevel name) := by
      simp [levelNumber, hnumber]
    rw [hlevel]
    rfl
  | some number =>
    have hlevel : levelNumber (.str name) = .ok number := by
      simp [levelNumber, hnumber]
    rw [hlevel]
    rfl

theorem result_setupLog (call : Caller σ) (hname : w.levelName? level = some name) :
    (setupLog call (levelArgument level)).result w =
      match Log.levelNumber? name with
      | some number => .ok (.int number)
      | none => .error (.unknownLevel name) := by
  rw [Op.result, setupLog_apply call hname]
  cases Log.levelNumber? name <;> rfl

/-- What the log is like after it was set up. -/
theorem log_after_setupLog (call : Caller σ) (hname : w.levelName? level = some name) :
    ((setupLog call (levelArgument level)).after w).log =
      { w.log.installMaker.replaceHandler with
        level := (LogCall.setup name).level w.log.level } := by
  rw [Op.after, setupLog_apply call hname]
  cases hnumber : Log.levelNumber? name with
  | none => simp [LogCall.level, hnumber, Log.replaceHandler]
  | some number => simp [LogCall.level, hnumber]

end Calls

/-! ## Runs -/

/-- The worlds that setting up the log leads to, each with a record of all calls, failed ones
included. In an interlude anything may change except for how the log is set up; in particular
another configuration may be put in force. -/
inductive LogRun {σ : Type} (call : Caller σ) (w₀ : World σ) : List LogCall → World σ → Prop
  | start : LogRun call w₀ [] w₀
  | interlude {history : List LogCall} {w w' : World σ} :
    LogRun call w₀ history w → w'.log.handlers = w.log.handlers → w'.log.maker = w.log.maker →
    w'.log.level = w.log.level → LogRun call w₀ history w'
  | setup {history : List LogCall} {w : World σ} {level : Option String} {name : String} :
    LogRun call w₀ history w → w.levelName? level = some name →
    LogRun call w₀ (history ++ [.setup name]) ((setupLog call (levelArgument level)).after w)
  | install {history : List LogCall} {w : World σ} :
    LogRun call w₀ history w →
    LogRun call w₀ (history ++ [.install]) (installRecordMaker.after w)

/-- How the log is set up agrees with a record of calls: `others` are the handlers of others, and
`level` is the level in the beginning. -/
structure Log.Agrees (log : Log) (others : List Handler) (level : Int) (history : List LogCall) :
    Prop where
  others : log.handlers.filter (· != .unified) = others
  own : log.handlers.count .unified = if history.any LogCall.isSetup then 1 else 0
  maker : log.maker = if history.isEmpty then .plain else .withImportance .plain
  level : log.level = LogCall.levelAfter level history

namespace Log.Agrees

variable {log : Log} {others : List Handler} {level : Int} {history : List LogCall}

theorem maker_installed (h : log.Agrees others level history) :
    log.installMaker.maker = .withImportance .plain := by
  apply maker_installMaker
  rw [h.maker]
  split
  · exact .inl rfl
  · exact .inr rfl

theorem setup (h : log.Agrees others level history) (name : String) :
    Log.Agrees
      { log.installMaker.replaceHandler with level := (LogCall.setup name).level log.level }
      others level (history ++ [.setup name]) where
  others := by
    rw [filter_replaceHandler, handlers_installMaker, h.others]
  own := by
    rw [count_replaceHandler]
    simp [LogCall.isSetup]
  maker := by
    have hnew := h.maker_installed
    simpa [replaceHandler] using hnew
  level := by
    rw [LogCall.levelAfter_append, ← h.level]

theorem install (h : log.Agrees others level history) :
    log.installMaker.Agrees others level (history ++ [.install]) where
  others := by rw [handlers_installMaker, h.others]
  own := by
    rw [handlers_installMaker, h.own]
    simp [LogCall.isSetup]
  maker := by
    rw [h.maker_installed]
    simp
  level := by
    rw [level_installMaker, LogCall.levelAfter_append, ← h.level]
    rfl

end Log.Agrees

section Runs

variable {σ : Type} {call : Caller σ} {w₀ w : World σ} {history : List LogCall}

theorem LogRun.agrees {others : List Nat} (hrun : LogRun call w₀ history w)
    (hothers : w₀.log.handlers = others.map .foreign) (hplain : w₀.log.maker = .plain) :
    w.log.Agrees (others.map .foreign) w₀.log.level history := by
  induction hrun with
  | start =>
    have hforeign : ∀ handler ∈ others.map Handler.foreign, (handler != .unified) = true := by
      simp
    refine ⟨?_, ?_, hplain, rfl⟩
    · rw [hothers, List.filter_eq_self.mpr hforeign]
    · rw [hothers]
      exact List.count_eq_zero.mpr (by simp)
  | interlude _ hhandlers hmaker hlevel ih =>
    exact ⟨by rw [hhandlers, ih.others], by rw [hhandlers, ih.own], by rw [hmaker, ih.maker],
      by rw [hlevel, ih.level]⟩
  | setup _ hname ih =>
    rw [log_after_setupLog call hname]
    exact ih.setup _
  | install _ ih => exact ih.install

/-- At every point of every run of calls that begins with nothing but foreign handlers: the foreign
handlers are all there, in their order; there is one handler of the library's own as soon as the log
was set up, by a call that succeeded or failed; records are made plainly with their importance
filled in once as soon as there was any call; and the level is the number of the last name that is
known. The next call succeeds if and only if the name that it comes down to is known, and then it
returns the number of that name. -/
theorem log_set_up_once {others : List Nat} (hothers : w₀.log.handlers = others.map .foreign)
    (hplain : w₀.log.maker = .plain) (hrun : LogRun call w₀ history w) :
    w.log.handlers.filter (· != .unified) = others.map .foreign ∧
    w.log.handlers.count .unified = (if history.any LogCall.isSetup then 1 else 0) ∧
    w.log.maker = (if history.isEmpty then .plain else .withImportance .plain) ∧
    w.log.level = LogCall.levelAfter w₀.log.level history ∧
    ∀ level name, w.levelName? level = some name →
      (setupLog call (levelArgument level)).result w =
        match Log.levelNumber? name with
        | some number => .ok (.int number)
        | none => .error (.unknownLevel name) := by
  have hagrees := hrun.agrees hothers hplain
  refine ⟨hagrees.others, hagrees.own, hagrees.maker, hagrees.level, ?_⟩
  intro level name hname
  exact result_setupLog call hname

end Runs

/-- A world with two handlers of others, whose log was never set up. -/
def foreignHandlers : World Unit where
  log := { handlers := [.foreign 0, .foreign 1] }
  client := ()

/-- The log is set up three times: with a known level, with one that is not known, and with the
configured one. -/
theorem log_set_up_with_failure :
    let call : Caller Unit := fun _ _ _ ↦ throw .unsupported
    let w₁ := (setupLog call (.str "debug")).after foreignHandlers
    let w₂ := (setupLog call (.str " debug")).after w₁
    let w₃ := (setupLog call (.str "")).after w₂
    LogRun call foreignHandlers [.setup "DEBUG", .setup " DEBUG", .setup "WARNING"] w₃ ∧
      w₂.log.level = 10 ∧ w₃.log.level = 30 ∧
      (setupLog call (.str " debug")).result w₁ = .error (.unknownLevel " DEBUG") ∧
      w₃.log.handlers.count .unified = 1 ∧
      w₃.log.handlers.filter (· != .unified) = [.foreign 0, .foreign 1] ∧
      w₃.log.maker = .withImportance .plain := by
  intro call w₁ w₂ w₃
  have hknown : foreignHandlers.levelName? (some "debug") = some "DEBUG" := by decide +kernel
  have hunknown : w₁.levelName? (some " debug") = some " DEBUG" := by decide +kernel
  have hempty : w₂.levelName? (some "") = some "WARNING" := by decide +kernel
  have hothers : foreignHandlers.log.handlers = [0, 1].map .foreign := rfl
  have h₁ : LogRun call foreignHandlers [.setup "DEBUG"] w₁ := LogRun.start.setup hknown
  have h₂ : LogRun call foreignHandlers [.setup "DEBUG", .setup " DEBUG"] w₂ := h₁.setup hunknown
  have h₃ : LogRun call foreignHandlers [.setup "DEBUG", .setup " DEBUG", .setup "WARNING"] w₃ :=
    h₂.setup hempty
  obtain ⟨-, -, -, -, hresult⟩ := log_set_up_once hothers rfl h₁
  obtain ⟨-, -, -, hlevel₂, -⟩ := log_set_up_once hothers rfl h₂
  obtain ⟨hkept, hown, hmaker, hlevel₃, -⟩ := log_set_up_once hothers rfl h₃
  exact ⟨h₃, hlevel₂, hlevel₃, hresult _ _ hunknown, hown, hkept, hmaker⟩

end TagTree
