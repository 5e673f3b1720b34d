import ReleasePress.Proofs.CommandLine.Prepared

/-! # Successful runs

Rendering succeeds exactly if each of its parts does: the repository is open, the settings make an environment,
the context can be read and all documents of the template are rendered (`CommandLine.render_eq_ok_iff`). A
run that succeeds leaves the files behind that writing the documents leaves. -/

namespace ReleasePress.CommandLine

open ReleasePress.Git

variable {s : Surroundings} {options : RenderOptions} {progress : Progress}

/-- Rendering succeeds exactly if its parts do. -/
theorem render_eq_ok_iff {documents : Documents} {source : Except TemplateError TemplateSource} :
    (∃ progress, (render s options).run.run {} = (.ok (documents, source), progress)) ↔
      ∃ tree invocations settings environment context,
        (WorkTree.open_ s.executable options.repository).run [] = (.ok tree, invocations) ∧
        settingsOf s.files tree.path options = .ok settings ∧
        Environment.ofSettings
          ({ tree with aliasFile := settings.aliasFile }.repository s.executable s.files) settings
          tree.path s.toCircumstances = .ok environment ∧
        contextOf s.files options.context = .ok context ∧
        ((environment.renderTemplates s.files options.name context).run
          { repository := invocations }).1 = .ok documents ∧
        source = Template.resolve s.files environment.roots options.name := by
  constructor
  · rintro ⟨progress, hrun⟩
    rcases unprepared_or_exists_prepared s options with ⟨failure, hfails⟩ | ⟨p, hp⟩
    · obtain ⟨progress', hfailed⟩ := hfails.render_run
      rw [hfailed] at hrun
      cases hrun
    · rw [render_run hp] at hrun
      cases hrendered : (rendered s options p).1 with
      | error cause =>
          rw [hrendered] at hrun
          cases hrun
      | ok documents' =>
          rw [hrendered] at hrun
          cases hrun
          exact ⟨p.tree, p.invocations, p.settings, p.environment, p.context, hp.opened, hp.configured, hp.made,
            hp.read, hrendered, rfl⟩
  · rintro ⟨tree, invocations, settings, environment, context, hopen, hsettings, henvironment,
      hcontext, hrender, rfl⟩
    have hp : IsPrepared s options ⟨tree, invocations, settings, environment, context⟩ :=
      ⟨hopen, hsettings, henvironment, hcontext⟩
    have hrendered : (rendered s options ⟨tree, invocations, settings, environment, context⟩).1 =
        .ok documents := hrender
    rw [render_run hp, hrendered]
    exact ⟨_, rfl⟩

/-- A run with an output directory succeeds exactly if all documents are written, and leaves behind the files
that writing them leaves. -/
theorem runRender_succeeds_iff {documents : Documents} {source : TemplateSource} {output : String}
    {isVerbose isQuiet : Bool} {files : FileTree}
    (hrender : (render s options).run.run {} = (.ok (documents, .ok source), progress))
    (houtput : options.output = some output) :
    (runRender s options isVerbose isQuiet).code = 0 ∧
        (runRender s options isVerbose isQuiet).files = files ↔
      (Output.writeAll output source documents).run.run s.files = (.ok (), files) := by
  simp only [runRender, hrender, deliver, houtput]
  rcases (Output.writeAll output source documents).run.run s.files with ⟨answer, files'⟩
  cases answer with
  | error cause =>
      constructor
      · rintro ⟨⟨⟩, -⟩
      · rintro ⟨⟩
  | ok answer =>
      constructor
      · rintro ⟨-, rfl⟩
        rfl
      · rintro ⟨⟩
        exact ⟨rfl, rfl⟩

end ReleasePress.CommandLine
