import ReleasePress.CommandLine.Run
import ReleasePress.Proofs.State

/-! # Runs up to their template

Before a run looks for its template it opens the repository, makes an environment of the settings and reads the
context. `CommandLine.IsPrepared` says what is then at hand, and `CommandLine.render_run` that the rest of
rendering is a matter of the environment alone. A run that does not get so far fails at the first of these
steps that fails (`CommandLine.unprepared_or_exists_prepared`). -/

namespace ReleasePress.CommandLine

open ReleasePress.Git

variable {s : Surroundings} {options : RenderOptions}

/-- What is at hand when a template is looked for. -/
structure Preparation where
  tree : WorkTree
  /-- The invocations of Git so far, last one first. -/
  invocations : List Invocation
  settings : Settings
  environment : Environment (List Invocation)
  context : Fields

/-- A run gets to its template with this at hand. -/
structure IsPrepared (s : Surroundings) (options : RenderOptions) (p : Preparation) : Prop where
  opened : (WorkTree.open_ s.executable options.repository).run [] = (.ok p.tree, p.invocations)
  configured : settingsOf s.files p.tree.path options = .ok p.settings
  made : Environment.ofSettings
    ({ p.tree with aliasFile := p.settings.aliasFile }.repository s.executable s.files) p.settings p.tree.path
    s.toCircumstances = .ok p.environment
  read : contextOf s.files options.context = .ok p.context

/-- A run fails before it gets to its template. -/
inductive FailsUnprepared (s : Surroundings) (options : RenderOptions) : Failure → Prop
  | opening {cause : RepositoryError} {invocations : List Invocation}
      (hopen : (WorkTree.open_ s.executable options.repository).run [] = (.error cause, invocations)) :
      FailsUnprepared s options (.repository options.repository cause)
  | settings {tree : WorkTree} {invocations : List Invocation} {cause : Settings.Failure}
      (hopen : (WorkTree.open_ s.executable options.repository).run [] = (.ok tree, invocations))
      (hsettings : settingsOf s.files tree.path options = .error cause) :
      FailsUnprepared s options (.settings cause)
  | pattern {tree : WorkTree} {invocations : List Invocation} {settings : Settings} {cause : TemplateError}
      (hopen : (WorkTree.open_ s.executable options.repository).run [] = (.ok tree, invocations))
      (hsettings : settingsOf s.files tree.path options = .ok settings)
      (henvironment : Environment.ofSettings
        ({ tree with aliasFile := settings.aliasFile }.repository s.executable s.files) settings tree.path
        s.toCircumstances = .error cause) :
      FailsUnprepared s options (.template cause)
  | context {tree : WorkTree} {invocations : List Invocation} {settings : Settings}
      {environment : Environment (List Invocation)} {cause : ContextFailure}
      (hopen : (WorkTree.open_ s.executable options.repository).run [] = (.ok tree, invocations))
      (hsettings : settingsOf s.files tree.path options = .ok settings)
      (henvironment : Environment.ofSettings
        ({ tree with aliasFile := settings.aliasFile }.repository s.executable s.files) settings tree.path
        s.toCircumstances = .ok environment)
      (hcontext : contextOf s.files options.context = .error cause) :
      FailsUnprepared s options (.context cause)

/-- A run gets to its template, or it fails at one of the steps before. -/
theorem unprepared_or_exists_prepared (s : Surroundings) (options : RenderOptions) :
    (∃ failure, FailsUnprepared s options failure) ∨ ∃ p, IsPrepared s options p := by
  rcases hopen : (WorkTree.open_ s.executable options.repository).run [] with ⟨result, invocations⟩
  cases result with
  | error cause => exact .inl ⟨_, .opening hopen⟩
  | ok tree =>
      cases hsettings : settingsOf s.files tree.path options with
      | error cause => exact .inl ⟨_, .settings hopen hsettings⟩
      | ok settings =>
          cases henvironment : Environment.ofSettings
            ({ tree with aliasFile := settings.aliasFile }.repository s.executable s.files) settings tree.path
            s.toCircumstances with
          | error cause => exact .inl ⟨_, .pattern hopen hsettings henvironment⟩
          | ok environment =>
              cases hcontext : contextOf s.files options.context with
              | error cause => exact .inl ⟨_, .context hopen hsettings henvironment hcontext⟩
              | ok context =>
                  exact .inr ⟨⟨tree, invocations, settings, environment, context⟩,
                    hopen, hsettings, henvironment, hcontext⟩

/-! ## Runs of the parts -/

theorem get_run (progress : Progress) : (get : Part Progress).run.run progress = (.ok progress, progress) := rfl

theorem openRepository_run {result : Except RepositoryError WorkTree} {invocations : List Invocation}
    (hopen : (WorkTree.open_ s.executable options.repository).run [] = (result, invocations)) :
    (openRepository s options).run.run {} =
      (settle (.repository options.repository) result).run.run { invocations } := by
  rw [openRepository, run_bind_of_ok (get_run _)]
  dsimp only
  rw [hopen]
  exact run_bind_of_ok rfl

theorem settle_run_ok {ε α : Type} (failure : ε → Failure) (a : α) (progress : Progress) :
    (settle failure (.ok a)).run.run progress = (.ok a, progress) := rfl

theorem settle_run_error {ε α : Type} (failure : ε → Failure) (cause : ε) (progress : Progress) :
    (settle (α := α) failure (.error cause)).run.run progress = (.error (failure cause), progress) := rfl

/-- The documents of a template, with the state that rendering it leaves. -/
def rendered (s : Surroundings) (options : RenderOptions) (p : Preparation) :
    Except TemplateError Documents × FilterState (List Invocation) :=
  (p.environment.renderTemplates s.files options.name p.context).run { repository := p.invocations }

/-- Once everything is at hand, a run renders its template and fails only as that does. -/
theorem render_run {p : Preparation} (hp : IsPrepared s options p) :
    (render s options).run.run {} =
      (match (rendered s options p).1 with
        | .ok documents => .ok (documents, Template.resolve s.files p.environment.roots options.name)
        | .error cause => .error (.template cause),
      { invocations := (rendered s options p).2.repository, warnings := (rendered s options p).2.warnings }) := by
  have hopened := openRepository_run hp.opened
  rw [settle_run_ok] at hopened
  rw [render, run_bind_of_ok hopened, hp.configured, run_bind_of_ok (settle_run_ok _ _ _)]
  dsimp only
  rw [hp.made]
  dsimp only
  have hcontext : (settle .context (contextOf s.files options.context)).run.run
      ({ invocations := p.invocations } : Progress) = (.ok p.context, { invocations := p.invocations }) := by
    rw [hp.read]
    rfl
  have hdocuments : (documentsFrom s options p.environment).run.run { invocations := p.invocations } =
      (settle .template (rendered s options p).1).run.run
        { invocations := (rendered s options p).2.repository,
          warnings := (rendered s options p).2.warnings } := by
    rw [documentsFrom, run_bind_of_ok hcontext, run_bind_of_ok (get_run _)]
    have hrendered : (p.environment.renderTemplates s.files options.name p.context).run
        { repository := p.invocations } = rendered s options p := rfl
    dsimp only
    rw [hrendered, run_bind_of_ok (get_run _), List.append_nil]
    exact run_bind_of_ok rfl
  cases hresult : (rendered s options p).1 with
  | error cause =>
      rw [hresult, settle_run_error] at hdocuments
      exact run_bind_of_error hdocuments
  | ok documents =>
      rw [hresult, settle_run_ok] at hdocuments
      rw [run_bind_of_ok hdocuments]
      rfl

/-- A run that does not get to its template fails for the reason that it does not. -/
theorem FailsUnprepared.render_run {failure : Failure} (hfails : FailsUnprepared s options failure) :
    ∃ progress, (render s options).run.run {} = (.error failure, progress) := by
  cases hfails with
  | opening hopen =>
      have hopened := openRepository_run hopen
      rw [settle_run_error] at hopened
      exact ⟨_, run_bind_of_error hopened⟩
  | settings hopen hsettings =>
      have hopened := openRepository_run hopen
      rw [settle_run_ok] at hopened
      rw [render, run_bind_of_ok hopened, hsettings]
      exact ⟨_, run_bind_of_error (settle_run_error _ _ _)⟩
  | pattern hopen hsettings henvironment =>
      have hopened := openRepository_run hopen
      rw [settle_run_ok] at hopened
      rw [render, run_bind_of_ok hopened, hsettings, run_bind_of_ok (settle_run_ok _ _ _)]
      dsimp only
      rw [henvironment]
      exact ⟨_, rfl⟩
  | context hopen hsettings henvironment hcontext =>
      have hopened := openRepository_run hopen
      rw [settle_run_ok] at hopened
      rw [render, run_bind_of_ok hopened, hsettings, run_bind_of_ok (settle_run_ok _ _ _)]
      dsimp only
      rw [henvironment]
      dsimp only
      rw [documentsFrom, hcontext]
      exact ⟨_, run_bind_of_error (run_bind_of_error (settle_run_error _ _ _))⟩

/-! ## Rendering what cannot be found or loaded -/

/-- What cannot be loaded is not rendered either. -/
theorem rendered_of_load_error {p : Preparation} {cause : TemplateError}
    (hload : (Template.load s.files p.environment.roots options.name).1 = .error cause) :
    (rendered s options p).1 = .error cause := by
  rw [rendered, Environment.renderTemplates, run_bind]
  simp only [hload, run_pure]

theorem rendered_of_resolve_error {p : Preparation} {cause : TemplateError}
    (hresolve : Template.resolve s.files p.environment.roots options.name = .error cause) :
    (rendered s options p).1 = .error cause := by
  refine rendered_of_load_error ?_
  rw [Template.load, hresolve]

theorem rendered_of_loadSource_error {p : Preparation} {source : TemplateSource} {cause : TemplateError}
    (hresolve : Template.resolve s.files p.environment.roots options.name = .ok source)
    (hload : (Template.loadSource s.files p.environment.roots options.name source).1 = .error cause) :
    (rendered s options p).1 = .error cause := by
  refine rendered_of_load_error ?_
  rw [Template.load, hresolve]
  exact hload

end ReleasePress.CommandLine
