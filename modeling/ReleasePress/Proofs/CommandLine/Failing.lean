import ReleasePress.Proofs.CommandLine.Prepared
import ReleasePress.Proofs.Output.Passthrough

/-! # Failing runs

A run can fail in many places: before it gets to its template, when the template is found, loaded or rendered, when
the one document to print is chosen, and when documents are written. `CommandLine.run_leaves_noTrace` says that only
the last of these can leave anything behind. All others leave the files as they were and print nothing but the
failure; and since they and a failed writing are all the failures there are, a run that fails has either written
nothing or was at writing. -/

namespace ReleasePress.CommandLine

open ReleasePress.Git

variable {s : Surroundings} {options : RenderOptions}

/-- A run fails before it writes anything. -/
inductive FailsUnwritten (s : Surroundings) (options : RenderOptions) : Failure → Prop
  | unprepared {failure : Failure} (hfails : FailsUnprepared s options failure) : FailsUnwritten s options failure
  | resolving {p : Preparation} {cause : TemplateError} (hp : IsPrepared s options p)
      (hresolve : Template.resolve s.files p.environment.roots options.name = .error cause) :
      FailsUnwritten s options (.template cause)
  | loading {p : Preparation} {source : TemplateSource} {cause : TemplateError} (hp : IsPrepared s options p)
      (hresolve : Template.resolve s.files p.environment.roots options.name = .ok source)
      (hload : (Template.loadSource s.files p.environment.roots options.name source).1 = .error cause) :
      FailsUnwritten s options (.template cause)
  | rendering {p : Preparation} {source : TemplateSource} {entries : Entries} {cause : TemplateError}
      (hp : IsPrepared s options p)
      (hresolve : Template.resolve s.files p.environment.roots options.name = .ok source)
      (hload : (Template.loadSource s.files p.environment.roots options.name source).1 = .ok entries)
      (hrender : (rendered s options p).1 = .error cause) :
      FailsUnwritten s options (.template cause)
  | choosing {p : Preparation} {documents : Documents} {failure : Failure} (hp : IsPrepared s options p)
      (hrender : (rendered s options p).1 = .ok documents) (houtput : options.output = none)
      (hchoice : singleDocument options.name documents = .error failure) :
      FailsUnwritten s options failure

/-- A run gets to writing its documents, and one of them cannot be written. -/
def FailsWriting (s : Surroundings) (options : RenderOptions) : Prop :=
  ∃ p documents source output cause files, IsPrepared s options p ∧
    (rendered s options p).1 = .ok documents ∧
    Template.resolve s.files p.environment.roots options.name = .ok source ∧
    options.output = some output ∧
    (Output.writeAll output source documents).run.run s.files = (.error cause, files)

/-! ## Outcomes -/

/-- If rendering fails, the template is not found, not loaded or not rendered. -/
theorem failsUnwritten_of_rendered_error {p : Preparation} {cause : TemplateError} (hp : IsPrepared s options p)
    (hrender : (rendered s options p).1 = .error cause) : FailsUnwritten s options (.template cause) := by
  cases hresolve : Template.resolve s.files p.environment.roots options.name with
  | error cause' =>
      obtain rfl : cause' = cause :=
        Except.error.inj ((rendered_of_resolve_error hresolve).symm.trans hrender)
      exact .resolving hp hresolve
  | ok source =>
      cases hload : (Template.loadSource s.files p.environment.roots options.name source).1 with
      | error cause' =>
          obtain rfl : cause' = cause :=
            Except.error.inj ((rendered_of_loadSource_error hresolve hload).symm.trans hrender)
          exact .loading hp hresolve hload
      | ok entries => exact .rendering hp hresolve hload hrender

section Outcome

variable {isVerbose isQuiet : Bool} {failure : Failure}

/-- What a run that has written nothing shows of its failure. -/
structure LeavesNoTrace (s : Surroundings) (failure : Failure) (outcome : Outcome) : Prop where
  files_eq : outcome.files = s.files
  stdout_eq : outcome.stdout = ""
  code_ne : outcome.code ≠ 0
  /-- The failure is told on standard error, after the warnings. -/
  stderr_eq : ∃ warnings, outcome.stderr = warnings ++ failure.report

theorem runRender_of_render_error {progress : Progress}
    (hrender : (render s options).run.run {} = (.error failure, progress)) :
    LeavesNoTrace s failure (runRender s options isVerbose isQuiet) := by
  simp only [runRender, hrender]
  exact ⟨rfl, rfl, one_ne_zero, _, rfl⟩

theorem render_run_of_error {p : Preparation} {cause : TemplateError} (hp : IsPrepared s options p)
    (hrender : (rendered s options p).1 = .error cause) :
    ∃ progress, (render s options).run.run {} = (.error (.template cause), progress) := by
  rw [render_run hp, hrender]
  exact ⟨_, rfl⟩

theorem render_run_of_ok {p : Preparation} {documents : Documents} (hp : IsPrepared s options p)
    (hrender : (rendered s options p).1 = .ok documents) :
    ∃ progress, (render s options).run.run {} =
      (.ok (documents, Template.resolve s.files p.environment.roots options.name), progress) := by
  rw [render_run hp, hrender]
  exact ⟨_, rfl⟩

theorem FailsUnwritten.leavesNoTrace (hfails : FailsUnwritten s options failure) :
    LeavesNoTrace s failure (runRender s options isVerbose isQuiet) := by
  cases hfails with
  | unprepared hfails =>
      obtain ⟨progress, hrun⟩ := hfails.render_run
      exact runRender_of_render_error hrun
  | resolving hp hresolve =>
      obtain ⟨progress, hrun⟩ := render_run_of_error hp (rendered_of_resolve_error hresolve)
      exact runRender_of_render_error hrun
  | loading hp hresolve hload =>
      obtain ⟨progress, hrun⟩ := render_run_of_error hp (rendered_of_loadSource_error hresolve hload)
      exact runRender_of_render_error hrun
  | rendering hp hresolve hload hrender =>
      obtain ⟨progress, hrun⟩ := render_run_of_error hp hrender
      exact runRender_of_render_error hrun
  | choosing hp hrender houtput hchoice =>
      obtain ⟨progress, hrun⟩ := render_run_of_ok hp hrender
      simp only [runRender, hrun, deliver, houtput, hchoice]
      exact ⟨rfl, rfl, one_ne_zero, _, rfl⟩

/-- Without an output directory there is nothing to write to. -/
theorem runRender_files_of_no_output (houtput : options.output = none) :
    (runRender s options isVerbose isQuiet).files = s.files := by
  rcases hrun : (render s options).run.run {} with ⟨result, progress⟩
  cases result with
  | error failure => exact (runRender_of_render_error hrun).files_eq
  | ok found =>
      simp only [runRender, hrun, deliver, houtput]
      split
      · rfl
      · rfl

/-- A template that was rendered has a source. -/
theorem exists_source_of_rendered {p : Preparation} {documents : Documents}
    (hrender : (rendered s options p).1 = .ok documents) :
    ∃ source, Template.resolve s.files p.environment.roots options.name = .ok source := by
  cases hresolve : Template.resolve s.files p.environment.roots options.name with
  | error cause =>
      rw [rendered_of_resolve_error hresolve] at hrender
      cases hrender
  | ok source => exact ⟨source, rfl⟩

/-- A run fails before it writes, or while it writes, or not at all. -/
theorem code_runRender_ne_zero_iff :
    (runRender s options isVerbose isQuiet).code ≠ 0 ↔
      (∃ failure, FailsUnwritten s options failure) ∨ FailsWriting s options := by
  constructor
  · intro hcode
    rcases unprepared_or_exists_prepared s options with ⟨failure, hfails⟩ | ⟨p, hp⟩
    · exact .inl ⟨failure, .unprepared hfails⟩
    cases hrender : (rendered s options p).1 with
    | error cause => exact .inl ⟨_, failsUnwritten_of_rendered_error hp hrender⟩
    | ok documents =>
        obtain ⟨source, hresolve⟩ := exists_source_of_rendered hrender
        obtain ⟨progress, hrun⟩ := render_run_of_ok hp hrender
        rw [hresolve] at hrun
        cases houtput : options.output with
        | none =>
            cases hchoice : singleDocument options.name documents with
            | error failure => exact .inl ⟨failure, .choosing hp hrender houtput hchoice⟩
            | ok text =>
                simp only [runRender, hrun, deliver, houtput, hchoice] at hcode
                exact absurd rfl hcode
        | some output =>
            rcases hwrite : (Output.writeAll output source documents).run.run s.files with ⟨answer, files⟩
            cases answer with
            | error cause =>
                exact .inr ⟨p, documents, source, output, cause, files, hp, hrender, hresolve, houtput, hwrite⟩
            | ok answer =>
                simp only [runRender, hrun, deliver, houtput, hwrite] at hcode
                exact absurd rfl hcode
  · rintro (⟨failure, hfails⟩ | ⟨p, documents, source, output, cause, files, hp, hrender, hresolve, houtput, hwrite⟩)
    · exact hfails.leavesNoTrace.code_ne
    · obtain ⟨progress, hrun⟩ := render_run_of_ok hp hrender
      rw [hresolve] at hrun
      simp only [runRender, hrun, deliver, houtput, hwrite]
      exact one_ne_zero

end Outcome

/-- **A run that fails before it writes leaves no trace.** For arguments that ask to render a template: if the
repository, the settings, the context, the template or the choice of the document fails, the files are as before,
nothing is printed, and the exit code tells the failure. Without an output directory nothing is written at all. Any
other failure is one of writing. -/
theorem run_leaves_noTrace {arguments : List String} {isVerbose isQuiet : Bool}
    (hrequest : Request.parse arguments = .run (.render options) isVerbose isQuiet) :
    (∀ failure, FailsUnwritten s options failure → LeavesNoTrace s failure (run s arguments)) ∧
      (options.output = none → (run s arguments).files = s.files) ∧
      ((run s arguments).code ≠ 0 ↔
        (∃ failure, FailsUnwritten s options failure) ∨ FailsWriting s options) := by
  have hrun : run s arguments = runRender s options isVerbose isQuiet := by
    rw [run, hrequest]
  rw [hrun]
  exact ⟨fun failure hfails => hfails.leavesNoTrace, runRender_files_of_no_output, code_runRender_ne_zero_iff⟩

/-- What the arguments `render missing` ask for. -/
def missing : RenderOptions where
  name := "missing"
  repository := "."
  templateDirs := []
  context := none
  output := none
  settings := none

theorem run_leaves_noTrace_missing :
    FailsUnwritten atRoot missing (.template (.notFound "missing" [])) ∧
      LeavesNoTrace atRoot (.template (.notFound "missing" [])) (run atRoot ["render", "missing"]) := by
  have hrequest : Request.parse ["render", "missing"] = .run (.render missing) false false := by decide +kernel
  have hmade : ∃ environment, Environment.ofSettings
      (Git.WorkTree.repository atRoot.executable atRoot.files ⟨"/", Git.defaultAliasFile⟩) {} "/"
      atRoot.toCircumstances = .ok environment ∧ environment.roots = [] :=
    Environment.exists_ofSettings_of_standard rfl
  obtain ⟨environment, hmade, hroots⟩ := hmade
  have hsettings : settingsOf atRoot.files "/" missing = .ok {} := rfl
  have hp : IsPrepared atRoot missing
      ⟨⟨"/", Git.defaultAliasFile⟩, [{ Git.Command.topLevel with directory := some "." }.invocation], {},
        environment, []⟩ := ⟨rfl, hsettings, hmade, rfl⟩
  have hfails : FailsUnwritten atRoot missing (.template (.notFound "missing" [])) := by
    refine .resolving hp ?_
    rw [hroots]
    rfl
  exact ⟨hfails, (run_leaves_noTrace hrequest).1 _ hfails⟩

end ReleasePress.CommandLine
