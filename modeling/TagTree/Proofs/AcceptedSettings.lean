import TagTree.Settings.Basic

/-!
# Accepted settings

What is known of settings that passed their check: both suffixes are a full stop with something
behind it, they differ, and the level is one of the five names in capitals. Nothing else is known of
them, since settings of this kind pass the check as they are.
-/

namespace TagTree.Settings

/-- Settings that the check accepts and gives back unchanged. -/
structure Accepted (s : Settings) : Prop where
  openSuffix : isSuffix s.openSuffix = true
  closeSuffix : isSuffix s.closeSuffix = true
  differ : s.openSuffix ≠ s.closeSuffix
  logLevel : s.logLevel ∈ levelNames

/-! ## What the check lets through -/

/-- A field that passes its check has whatever the default and all accepted texts have. -/
theorem checkField_of_ok {given : Given} {name default text : String}
    {check : String → Except Problem String} {P : String → Prop} (hdefault : P default)
    (hcheck : ∀ given accepted, check given = .ok accepted → P accepted)
    (hfield : checkField given name default check = .ok text) : P text := by
  unfold checkField at hfield
  split at hfield
  · cases hfield
    exact hdefault
  · cases hfield
  · split at hfield
    · next haccepted =>
      cases hfield
      exact hcheck _ _ haccepted
    · cases hfield

theorem isSuffix_of_checkSuffix (text accepted : String)
    (h : checkSuffix text = .ok accepted) : isSuffix accepted = true := by
  unfold checkSuffix at h
  split at h
  · next hsuffix =>
    cases h
    exact hsuffix
  · cases h

theorem mem_levelNames_of_checkLevel (text accepted : String)
    (h : checkLevel text = .ok accepted) : accepted ∈ levelNames := by
  simp only [checkLevel] at h
  generalize Text.upper (Text.trim text) = name at h
  split at h
  · next hlevel =>
    cases h
    exact hlevel
  · cases h

theorem accepted_of_check {given : Given} {s : Settings} (h : check given = .ok s) :
    s.Accepted := by
  simp only [check] at h
  split at h
  · next o c j l hopen hclose _ hlevel _ =>
    split at h
    · cases h
    · next hdiffer =>
      cases h
      exact {
        openSuffix := checkField_of_ok (by decide) isSuffix_of_checkSuffix hopen
        closeSuffix := checkField_of_ok (by decide) isSuffix_of_checkSuffix hclose
        differ := hdiffer
        logLevel := checkField_of_ok (by decide) mem_levelNames_of_checkLevel hlevel }
  · cases h

/-! ## Checking again -/

/-- A level name is its own normal form. -/
theorem checkLevel_of_mem {name : String} (h : name ∈ levelNames) :
    checkLevel name = .ok name := by
  have hnormal : Text.upper (Text.trim name) = name := by
    simp only [levelNames, List.mem_cons, List.not_mem_nil, or_false] at h
    rcases h with rfl | rfl | rfl | rfl | rfl <;> decide +kernel
  simp only [checkLevel, hnormal, if_pos h]

/-- The fields of settings as they are given to the check. -/
def toGiven (s : Settings) : Given :=
  s.toTable.map fun (name, text) ↦ (name, some text)

/-- Accepted settings pass the check unchanged. -/
theorem Accepted.check_toGiven {s : Settings} (hs : s.Accepted) : check s.toGiven = .ok s := by
  have hopen : checkSuffix s.openSuffix = .ok s.openSuffix := if_pos hs.openSuffix
  have hclose : checkSuffix s.closeSuffix = .ok s.closeSuffix := if_pos hs.closeSuffix
  have hlevel := checkLevel_of_mem hs.logLevel
  simp [check, checkField, unknownFields, fieldNames, toGiven, toTable, Table.get?_cons, hopen,
    hclose, hlevel, hs.differ]

end TagTree.Settings
