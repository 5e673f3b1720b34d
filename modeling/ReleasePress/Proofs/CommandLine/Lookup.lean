import ReleasePress.Proofs.CommandLine.Prepared
import ReleasePress.Proofs.Output.Passthrough
import ReleasePress.Proofs.Template.Precedence

/-! # Where a run looks for its template

Template directories come from the options and from the settings. Those of the options are put in front as they are
seen from the working directory, and then all of them are seen from the top of the work tree. The second step
leaves the first ones alone, because they are absolute by then. So a run searches the directories of the options
first, each from the working directory, and those of the settings after them, each from the top of the work tree
(`CommandLine.IsPrepared.roots_eq`); and what the name finds there is what is rendered (`CommandLine.render_lookup`). -/

namespace ReleasePress

/-! ## Absolute paths -/

namespace Path

theorem join_of_isAbsolute {path : String} (habsolute : isAbsolute path = true) (base : String) :
    join base path = path := by
  rw [join, habsolute, Bool.true_or, if_pos rfl]

theorem isAbsolute_join {base : String} (habsolute : isAbsolute base = true) (path : String) :
    isAbsolute (join base path) = true := by
  have hbase : base ≠ "" := by
    rintro rfl
    cases habsolute
  rw [join]
  split
  · next hpath =>
      have hempty : base.isEmpty = false := by simpa using hbase
      rwa [hempty, Bool.or_false] at hpath
  · split
    · rw [isAbsolute_append hbase, habsolute]
    · rw [String.append_assoc, isAbsolute_append hbase, habsolute]

end Path

namespace CommandLine

open ReleasePress.Git

variable {s : Surroundings} {options : RenderOptions} {p : Preparation}

/-! ## Search roots -/

/-- The settings of the file that the options name, or else of the file at the top of the work tree. -/
def fileSettings (files : FileTree) (top : String) (options : RenderOptions) : Except Settings.Failure Settings :=
  match options.settings with
  | some path => Settings.load files path
  | none => Settings.discover files top

/-- The directories that are searched: those of the options as seen from the working directory, and then those of
the settings as seen from the top of the work tree. -/
def searched (s : Surroundings) (options : RenderOptions) (settings : Settings) (top : String) : List String :=
  options.templateDirs.map (Path.join s.files.workingDirectory) ++ settings.templateDirs.map (Path.join top)

theorem settingsOf_eq (files : FileTree) (top : String) (options : RenderOptions) :
    settingsOf files top options = (fileSettings files top options).map fun settings =>
      { settings with templateDirs :=
          options.templateDirs.map (Path.join files.workingDirectory) ++ settings.templateDirs } := rfl

theorem roots_of_ofSettings {σ : Type} {repository : Repository σ} {settings : Settings} {base : String}
    {circumstances : Circumstances} {environment : Environment σ}
    (hmade : Environment.ofSettings repository settings base circumstances = .ok environment) :
    environment.roots = settings.templateDirsFrom base := by
  rw [Environment.ofSettings] at hmade
  split at hmade
  · cases hmade
  · obtain rfl := Except.ok.inj hmade
    rfl

/-- The directories of the options are not moved when all directories are seen from the top of the work tree. -/
theorem IsPrepared.roots_eq (hp : IsPrepared s options p) {settings : Settings}
    (hsettings : fileSettings s.files p.tree.path options = .ok settings)
    (habsolute : Path.isAbsolute s.files.workingDirectory = true) :
    p.environment.roots = searched s options settings p.tree.path := by
  have hconfigured := hp.configured
  rw [settingsOf_eq, hsettings] at hconfigured
  have hdirs : p.settings.templateDirs =
      options.templateDirs.map (Path.join s.files.workingDirectory) ++ settings.templateDirs := by
    rw [← Except.ok.inj hconfigured]
  have hkept : (options.templateDirs.map (Path.join s.files.workingDirectory)).map (Path.join p.tree.path) =
      options.templateDirs.map (Path.join s.files.workingDirectory) := by
    rw [List.map_map]
    refine List.map_congr_left fun directory _ => ?_
    exact Path.join_of_isAbsolute (Path.isAbsolute_join habsolute directory) p.tree.path
  rw [roots_of_ofSettings hp.made, Settings.templateDirsFrom, hdirs, List.map_append, hkept, searched]

/-! ## What is rendered -/

/-- The documents of a source, with the state that rendering them leaves. -/
def renderedFrom (s : Surroundings) (options : RenderOptions) (p : Preparation) (source : TemplateSource) :
    Except TemplateError Documents × FilterState (List Invocation) :=
  let (entries, warnings) := Template.loadSource s.files p.environment.roots options.name source
  let rendering : FilterLibrary.Session (List Invocation) (Except TemplateError Documents) :=
    match entries with
    | .error cause => pure (.error cause)
    | .ok entries => p.environment.renderEntries p.context entries
  (Environment.warn warnings >>= fun _ => rendering).run { repository := p.invocations }

theorem rendered_of_source {source : TemplateSource}
    (hresolve : Template.resolve s.files p.environment.roots options.name = .ok source) :
    rendered s options p = renderedFrom s options p source := by
  rw [rendered, Environment.renderTemplates, Template.load, hresolve]
  rfl

/-- **The order of the search.** A run whose repository, settings and context are there renders what its template's
name finds among the brought-along templates and then in the directories of the options and of the settings, in
this order. If the name finds nothing, the run fails and lists just these directories. -/
theorem render_lookup (hp : IsPrepared s options p) {settings : Settings}
    (hsettings : fileSettings s.files p.tree.path options = .ok settings)
    (habsolute : Path.isAbsolute s.files.workingDirectory = true) :
    ∃ found, Template.Finds s.files (searched s options settings p.tree.path) options.name found ∧
      match found with
      | .ok source =>
        (render s options).run.run {} =
          ((match (renderedFrom s options p source).1 with
            | .ok documents => .ok (documents, .ok source)
            | .error cause => .error (.template cause)),
          { invocations := (renderedFrom s options p source).2.repository,
            warnings := (renderedFrom s options p source).2.warnings })
      | .error cause =>
        cause = .notFound options.name (searched s options settings p.tree.path) ∧
          ∃ progress, (render s options).run.run {} = (.error (.template cause), progress) := by
  have hroots := hp.roots_eq hsettings habsolute
  refine ⟨_, Template.finds_resolve _ _ _, ?_⟩
  have hrun := render_run hp
  rw [← hroots]
  cases hresolve : Template.resolve s.files p.environment.roots options.name with
  | ok source =>
      rw [hresolve, rendered_of_source hresolve] at hrun
      exact hrun
  | error cause =>
      have hfinds := Template.finds_iff.2 hresolve.symm
      rw [rendered_of_resolve_error hresolve] at hrun
      refine ⟨?_, _, hrun⟩
      cases hfinds
      rfl

/-- A tree in which the options name one directory and the settings name two. -/
def spread : FileTree :=
  ⟨.directory [("release-docs.toml", .file "template_dirs = [\"/gone\", \"docs\"]\n".toUTF8),
    ("here", .directory [("mine", .directory [])]), ("docs", .directory [("notes.md", .file "{{ 1 }}".toUTF8)])],
    "/here"⟩

/-- Options that render the template of this tree. -/
def spreadOptions : RenderOptions where
  name := "notes.md"
  repository := "."
  templateDirs := ["mine"]
  context := none
  output := none
  settings := none

theorem render_lookup_spread :
    ∃ p : Preparation, IsPrepared { atRoot with files := spread } spreadOptions p ∧
      Template.Finds spread ["/here/mine", "/gone", "/docs"] "notes.md" (.ok (.file "/docs/notes.md")) ∧
      (render { atRoot with files := spread } spreadOptions).run.run {} =
        ((match (renderedFrom { atRoot with files := spread } spreadOptions p (.file "/docs/notes.md")).1 with
          | .ok documents => .ok (documents, .ok (.file "/docs/notes.md"))
          | .error cause => .error (.template cause)),
        { invocations := (renderedFrom { atRoot with files := spread } spreadOptions p
            (.file "/docs/notes.md")).2.repository,
          warnings := (renderedFrom { atRoot with files := spread } spreadOptions p
            (.file "/docs/notes.md")).2.warnings }) := by
  have hfile : fileSettings spread "/" spreadOptions = .ok { templateDirs := ["/gone", "docs"] } := by decide +kernel
  have hsettings : settingsOf spread "/" spreadOptions =
      .ok { templateDirs := ["/here/mine", "/gone", "docs"] } := by decide +kernel
  have hmade : ∃ environment, Environment.ofSettings
      (Git.WorkTree.repository atRoot.executable spread ⟨"/", Git.defaultAliasFile⟩)
      { templateDirs := ["/here/mine", "/gone", "docs"] } "/" atRoot.toCircumstances =
        .ok environment ∧
      environment.roots = Settings.templateDirsFrom "/" { templateDirs := ["/here/mine", "/gone", "docs"] } :=
    Environment.exists_ofSettings_of_standard rfl
  obtain ⟨environment, hmade, -⟩ := hmade
  have hp : IsPrepared { atRoot with files := spread } spreadOptions
      ⟨⟨"/", Git.defaultAliasFile⟩, [{ Git.Command.topLevel with directory := some "." }.invocation],
        { templateDirs := ["/here/mine", "/gone", "docs"] }, environment, []⟩ := ⟨rfl, hsettings, hmade, rfl⟩
  have hsearched : searched { atRoot with files := spread } spreadOptions { templateDirs := ["/gone", "docs"] } "/" =
      ["/here/mine", "/gone", "/docs"] := by decide +kernel
  have hresolve : Template.resolve spread ["/here/mine", "/gone", "/docs"] "notes.md" =
      .ok (.file "/docs/notes.md") := by decide +kernel
  obtain ⟨found, hfinds, hrun⟩ := render_lookup hp hfile (by decide +kernel)
  rw [hsearched] at hfinds
  obtain rfl := (Template.finds_iff.1 hfinds).trans hresolve
  exact ⟨_, hp, hfinds, hrun⟩

end CommandLine

end ReleasePress
