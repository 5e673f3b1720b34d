import Mathlib.Tactic.Common
import ReleasePress.Proofs.Calendar.Pattern
import ReleasePress.Proofs.Filter.Misuse

/-!
# Dates in the default pattern

An environment is built with every default pattern that has no unknown conversion, and then the default pattern
writes either every date or none at all: it fails for its conversion `%#z` alone, which stands for an offset that
can only be read (`Environment.formatDate_default`).
-/

namespace ReleasePress

open ReleasePress.Git

namespace DateFormat

/-- Why dates cannot be written in the default pattern: for nothing but `%#z`. -/
theorem fault?_default (format : DateFormat) :
    (DateItem.HasLenientOffset format.pattern → format.fault? none = some (.unwritable format.pattern)) ∧
      (¬ DateItem.HasLenientOffset format.pattern → format.fault? none = none) := by
  obtain ⟨items, hitems⟩ := Option.isSome_iff_exists.1 format.valid
  simp only [← DateItem.lenientOffset_mem_listOf?_iff hitems, fault?, Option.getD_none, hitems]
  exact ⟨fun hmem => if_pos hmem, fun hmem => if_neg hmem⟩

theorem pattern_of_ofPattern? {pattern : String} {format : DateFormat} (h : ofPattern? pattern = .ok format) :
    format.pattern = pattern := by
  unfold ofPattern? at h
  split at h
  · cases h
    rfl
  · cases h

end DateFormat

namespace FilterLibrary

variable {σ : Type} {library : FilterLibrary σ}

/-- Whether `format_date` is told to write universal time, by arguments that name no pattern. -/
def clockOnly? : List Value → Option Bool
  | [] => some false
  | [.nil] => some false
  | [.nil, .nil] => some false
  | [.nil, .bool universal] => some universal
  | _ => none

/-- The default pattern writes every date, in universal time as on every clock, for templates as well. -/
def WritesDates (library : FilterLibrary σ) : Prop :=
  (∀ zone m universal, ∃ text, library.dates.write zone m none universal = .ok text) ∧
    ∀ subject args, subject.asDate?.isSome = true → (clockOnly? args).isSome = true →
      ∃ text, library.formatDate subject args = .ok (.string text)

/-- The default pattern writes no date at all. -/
def WritesNoDate (library : FilterLibrary σ) : Prop :=
  (∀ zone m universal, library.dates.write zone m none universal = .error (.unwritable library.dates.pattern)) ∧
    ∀ subject args, subject.asDate?.isSome = true → (clockOnly? args).isSome = true →
      library.formatDate subject args = .error (.badPattern (.unwritable library.dates.pattern))

/-- Without a pattern `format_date` writes the date in the default pattern. -/
theorem formatDate_clockOnly {subject : Value} {args : List Value} {m : Moment} {universal : Bool}
    (hdate : subject.asDate? = some m) (hargs : clockOnly? args = some universal) :
    library.formatDate subject args =
      match library.dates.write library.zone m none universal with
      | .ok text => .ok (.string text)
      | .error cause => .error (.badPattern cause) := by
  fun_cases clockOnly? args with
  | case5 => simp [clockOnly?] at hargs
  | _ =>
      cases hargs
      simp only [formatDate, hdate]
      rfl

theorem writesNoDate_of_fault (h : library.dates.fault? none = some (.unwritable library.dates.pattern)) :
    library.WritesNoDate := by
  have hwrite (zone m universal) :
      library.dates.write zone m none universal = .error (.unwritable library.dates.pattern) := by
    rw [← refusal_eq_some_iff, refusal_write, h]
  refine ⟨hwrite, fun subject args hdate hargs => ?_⟩
  obtain ⟨m, hdate⟩ := Option.isSome_iff_exists.1 hdate
  obtain ⟨universal, hargs⟩ := Option.isSome_iff_exists.1 hargs
  rw [formatDate_clockOnly hdate hargs, hwrite]

theorem writesDates_of_no_fault (h : library.dates.fault? none = none) : library.WritesDates := by
  have hwrite (zone m universal) : ∃ text, library.dates.write zone m none universal = .ok text := by
    have hnone := refusal_write library.dates zone m none universal
    cases htext : library.dates.write zone m none universal with
    | ok text => exact ⟨text, rfl⟩
    | error cause => simp [htext, h] at hnone
  refine ⟨hwrite, fun subject args hdate hargs => ?_⟩
  obtain ⟨m, hdate⟩ := Option.isSome_iff_exists.1 hdate
  obtain ⟨universal, hargs⟩ := Option.isSome_iff_exists.1 hargs
  obtain ⟨text, htext⟩ := hwrite library.zone m universal
  exact ⟨text, by rw [formatDate_clockOnly hdate hargs, htext]⟩

end FilterLibrary

namespace Environment

variable {σ : Type} {repository : Repository σ} {settings : Settings} {base : String}
  {circumstances : Circumstances}

theorem ofSettings_eq_ok_iff {environment : Environment σ} :
    ofSettings repository settings base circumstances = .ok environment ↔
      ∃ dates, DateFormat.ofPattern? settings.datePattern = .ok dates ∧
        environment = {
          library := { circumstances with repository, notesRef := settings.notesRef, dates }
          roots := settings.templateDirsFrom base } := by
  unfold ofSettings
  cases DateFormat.ofPattern? settings.datePattern with
  | error cause => simp
  | ok dates => simp [eq_comm]

/-- Settings make an environment whenever their default pattern makes a format, and then dates in the default
pattern are all written, unless the pattern has the conversion `%#z`: then none is. -/
theorem formatDate_default (repository : Repository σ) (settings : Settings) (base : String)
    (circumstances : Circumstances) :
    (∀ format, DateFormat.ofPattern? settings.datePattern = .ok format →
      ∃ environment, ofSettings repository settings base circumstances = .ok environment ∧
        environment.library.dates = format) ∧
      ∀ environment, ofSettings repository settings base circumstances = .ok environment →
        DateFormat.ofPattern? settings.datePattern = .ok environment.library.dates ∧
          (¬ DateItem.HasLenientOffset settings.datePattern → environment.library.WritesDates) ∧
          (DateItem.HasLenientOffset settings.datePattern → environment.library.WritesNoDate) := by
  constructor
  · intro format hformat
    exact ⟨_, ofSettings_eq_ok_iff.2 ⟨format, hformat, rfl⟩, rfl⟩
  · rintro environment hbuild
    obtain ⟨dates, hdates, rfl⟩ := ofSettings_eq_ok_iff.1 hbuild
    have hfault := DateFormat.fault?_default dates
    rw [DateFormat.pattern_of_ofPattern? hdates] at hfault
    refine ⟨hdates, fun hlenient => ?_, fun hlenient => ?_⟩
    · exact FilterLibrary.writesDates_of_no_fault (hfault.2 hlenient)
    · refine FilterLibrary.writesNoDate_of_fault ?_
      rw [hfault.1 hlenient, DateFormat.pattern_of_ofPattern? hdates]

/-- Settings with `%Y-%m-%d` make an environment that writes every date, and settings with `%#z` one that writes
none. -/
theorem formatDate_default_day :
    (∃ environment, ofSettings (Git.Store.repository {}) { datePattern := "%Y-%m-%d" } "/" calm =
        .ok environment ∧ environment.library.WritesDates) ∧
      ∃ environment, ofSettings (Git.Store.repository {}) { datePattern := "%#z" } "/" calm =
        .ok environment ∧ environment.library.WritesNoDate := by
  have hday : ¬ DateItem.HasLenientOffset "%Y-%m-%d" := by
    rw [← DateItem.lenientOffset_mem_listOf?_iff rfl]
    decide
  constructor
  · obtain ⟨hbuilds, hwrites⟩ :=
      formatDate_default (Git.Store.repository {}) { datePattern := "%Y-%m-%d" } "/" calm
    obtain ⟨environment, hbuild, -⟩ := hbuilds ⟨"%Y-%m-%d", rfl⟩ rfl
    exact ⟨environment, hbuild, (hwrites environment hbuild).2.1 hday⟩
  · obtain ⟨hbuilds, hwrites⟩ :=
      formatDate_default (Git.Store.repository {}) { datePattern := "%#z" } "/" calm
    obtain ⟨environment, hbuild, -⟩ := hbuilds ⟨"%#z", rfl⟩ rfl
    exact ⟨environment, hbuild, (hwrites environment hbuild).2.2 ⟨[], [], rfl, rfl⟩⟩

end Environment

/-- The pattern `%#z` is accepted, and noon of 2024-03-01 in universal time cannot be written in it. -/
theorem DateFormat.write_lenientOffset :
    ∃ format, ofPattern? "%#z" = .ok format ∧
      format.write 0 ⟨1709294400, 0, 0⟩ none true = .error (.unwritable "%#z") :=
  ⟨⟨"%#z", rfl⟩, rfl, rfl⟩

end ReleasePress
