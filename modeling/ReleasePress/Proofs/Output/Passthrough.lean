import ReleasePress.Proofs.CommandLine.Render
import ReleasePress.Proofs.Environment.Alone
import ReleasePress.Proofs.Files.Descent
import ReleasePress.Proofs.Output.Beneath
import ReleasePress.Proofs.Output.Write
import ReleasePress.Proofs.Template.Entries

/-! # Files that are passed through

A file that is passed through is copied when the turn of its key comes. If until then no document was written
over it, and none is written over the copy later, then the copy holds what the file held before the run;
except that a file that is copied onto itself is emptied. `CommandLine.runRender_passthrough` says so for
runs of the program, with the order of the keys for the order of writing. -/

namespace ReleasePress

open ReleasePress.Template

namespace Output

open FileTree

variable {files files' : FileTree} {output directory key : String}

/-- A copy holds what the original held before all documents were written, if no document before it goes to
where the original is and none after it to where the copy is. -/
theorem writeAll_passthrough {before after : Documents} {original : Location} {held : ByteArray}
    (hroot : files.HasRoot)
    (hwrite : (writeAll output (.directory directory) (before ++ (key, none) :: after)).run.run files =
      (.ok (), files'))
    (hheld : files.locate true (Path.join directory key) = .ok (original, some (.file held)))
    (hbefore : ∀ key' ∈ before.map Prod.fst,
      ¬files'.SamePlace (Path.join output key') (Path.join directory key))
    (hafter : ∀ key' ∈ after.map Prod.fst,
      ¬files'.SamePlace (Path.join output key') (Path.join output key)) :
    ∃ place, files'.locate true (Path.join output key) =
      .ok (place, some (.file (if original = place then .empty else held))) := by
  obtain ⟨reached, hfirst, hrest⟩ := writeAll_append_iff.1 hwrite
  obtain ⟨⟨⟩, copied, hcopy, hlast⟩ := run_bind_eq_ok_iff.1 hrest
  have hkeepsFirst := writeAll_keeps hroot hfirst
  have hreachedRoot := hkeepsFirst.hasRoot hroot
  obtain ⟨place, bytes, hkeepsCopy, hplace, -, hbytes⟩ := writeOne_spec hreachedRoot hcopy
  have hkeepsLast := writeAll_keeps (hkeepsCopy.hasRoot hreachedRoot) hlast
  have hend := hkeepsCopy.trans hkeepsLast
  -- until its turn comes the original is left alone
  have hreached : reached.locate true (Path.join directory key) = .ok (original, some (.file held)) := by
    have hlocate := hkeepsFirst.locate hheld
    have huntouched : reached.root.at? original = some (.file held) := by
      refine (hkeepsFirst.file_iff ?_ held).2 (locate_at? hheld)
      rintro ⟨key', hkey', node?, htarget⟩
      have htarget' := hend.locate htarget
      exact hbefore key' hkey' ⟨original, _, htarget', hend.locate hlocate⟩
    rw [hlocate, huntouched]
  -- and from then on the copy is
  have hstays : files'.root.at? place = some (.file bytes) := by
    refine (hkeepsLast.file_iff ?_ bytes).2 (locate_at? hplace)
    rintro ⟨key', hkey', node?, htarget⟩
    have hplace' := hkeepsLast.locate hplace
    rw [locate_at? htarget] at hplace'
    exact hafter key' hkey' ⟨place, _, htarget, hplace'⟩
  refine ⟨place, ?_⟩
  rw [hkeepsLast.locate hplace, hstays, hbytes directory original held rfl rfl hreached]

end Output

/-- The documents of a template are in the order of their keys. -/
theorem Environment.pairwise_documents {σ : Type} {environment : Environment σ} {files : FileTree} {name : String}
    {source : TemplateSource} {context : Fields} {filters : FilterState σ} {documents : Documents}
    (hresolve : resolve files environment.roots name = .ok source)
    (hrender : ((environment.renderTemplates files name context).run filters).1 = .ok documents) :
    documents.Pairwise fun a b => a.1 < b.1 := by
  obtain ⟨loaded, filters', hload, -⟩ := exists_entries_of_renderTemplates hresolve hrender
  have hloaded : (load files environment.roots name).1 = .ok loaded := by rw [load, hresolve, hload]
  exact pairwise_renderTemplates hloaded hrender

/-- The file of a key that is passed through is where its key says. -/
theorem Environment.locate_passthrough {σ : Type} {environment : Environment σ} {files : FileTree}
    {name directory key : String} {context : Fields} {filters : FilterState σ} {documents : Documents}
    (hnamed : files.root.WellNamed) (hdistinct : files.root.DistinctNames)
    (hresolve : resolve files environment.roots name = .ok (.directory directory))
    (hrender : ((environment.renderTemplates files name context).run filters).1 = .ok documents)
    (hkey : (key, none) ∈ documents) :
    ∃ original held, files.locate true (Path.join directory key) = .ok (original, some (.file held)) := by
  obtain ⟨entries, hfind⟩ := FileTree.find_of_isDirectory (resolve_spec hresolve)
  obtain ⟨loaded, warnings, hwalk, hvisited⟩ := visited_walkDirectory hfind
  obtain ⟨loaded', filters', hload, hentries⟩ := exists_entries_of_renderTemplates hresolve hrender
  obtain rfl : loaded = loaded' := by
    simp only [loadSource, hwalk] at hload
    exact Except.ok.inj hload
  have hmem := environment.passthrough_of_renderEntries context loaded filters' hentries hkey
  obtain ⟨location, held, hfile, rfl⟩ := hvisited.exists_file hmem
  obtain ⟨around, hlocate⟩ := FileTree.locate_of_find hfind
  have hextends : FileTree.Extends directory location (Path.join directory ("/".intercalate location)) :=
    FileTree.extends_join (FileTree.ne_empty_of_locate hlocate) hfile.ne_nil
      (hfile.isEntryName (FileTree.find_wellNamed hnamed hfind))
  have hat := hfile.at? (FileTree.find_distinctNames hdistinct hfind)
  exact ⟨around ++ location, held, FileTree.locate_names hextends hfile.ne_nil hlocate hat (by simp) true⟩

namespace CommandLine

open FileTree

/-- The file of a key that is passed through is where its key says, and the keys are in order. -/
theorem render_passthrough {s : Surroundings} {options : RenderOptions} {progress : Progress}
    {documents : Documents} {directory key : String}
    (hnamed : s.files.root.WellNamed) (hdistinct : s.files.root.DistinctNames)
    (hrender : (render s options).run.run {} = (.ok (documents, .ok (.directory directory)), progress))
    (hkey : (key, none) ∈ documents) :
    s.files.HasRoot ∧ documents.Pairwise (fun a b => a.1 < b.1) ∧
      ∃ original held,
        s.files.locate true (Path.join directory key) = .ok (original, some (.file held)) := by
  obtain ⟨tree, invocations, settings, environment, context, -, -, -, -, hdocuments, hresolve⟩ :=
    render_eq_ok_iff.1 ⟨progress, hrender⟩
  obtain ⟨entries, hfind⟩ := find_of_isDirectory (resolve_spec hresolve.symm)
  exact ⟨hasRoot_of_find hfind, Environment.pairwise_documents hresolve.symm hdocuments,
    Environment.locate_passthrough hnamed hdistinct hresolve.symm hdocuments hkey⟩

/-- After a successful run with an output directory, a file that is passed through is there as it was, unless it
was copied onto itself and so emptied; provided that no document with a key before its own was written where
it is, and none with a later key where its copy is. -/
theorem runRender_passthrough {s : Surroundings} {options : RenderOptions} {isVerbose isQuiet : Bool}
    {outcome : Outcome} {progress : Progress} {documents : Documents} {directory output key : String}
    (hnamed : s.files.root.WellNamed) (hdistinct : s.files.root.DistinctNames)
    (hrender : (render s options).run.run {} = (.ok (documents, .ok (.directory directory)), progress))
    (houtput : options.output = some output) (hrun : runRender s options isVerbose isQuiet = outcome)
    (hcode : outcome.code = 0) (hkey : (key, none) ∈ documents)
    (hsource : ∀ key' ∈ documents.map Prod.fst, key' < key →
      ¬outcome.files.SamePlace (Path.join output key') (Path.join directory key))
    (htarget : ∀ key' ∈ documents.map Prod.fst, key < key' →
      ¬outcome.files.SamePlace (Path.join output key') (Path.join output key)) :
    ∃ held, s.files.read (Path.join directory key) = .ok held ∧
      (¬outcome.files.SamePlace (Path.join output key) (Path.join directory key) →
        outcome.files.read (Path.join output key) = .ok held) ∧
      (outcome.files.SamePlace (Path.join output key) (Path.join directory key) →
        outcome.files.read (Path.join output key) = .ok .empty) := by
  obtain ⟨hroot, hsorted, original, held, hheld⟩ := render_passthrough hnamed hdistinct hrender hkey
  have hwrite := (runRender_succeeds_iff hrender houtput).1 ⟨by rw [hrun, hcode], by rw [hrun]⟩
  obtain ⟨before, after, rfl⟩ := List.append_of_mem hkey
  obtain ⟨-, hlater, hearlier⟩ := List.pairwise_append.1 hsorted
  have hbefore : ∀ key' ∈ before.map Prod.fst,
      ¬outcome.files.SamePlace (Path.join output key') (Path.join directory key) := by
    intro key' hkey'
    obtain ⟨document, hdocument, rfl⟩ := List.mem_map.1 hkey'
    exact hsource _ (by simp [hkey']) (hearlier document hdocument (key, none) (by simp))
  have hafter : ∀ key' ∈ after.map Prod.fst,
      ¬outcome.files.SamePlace (Path.join output key') (Path.join output key) := by
    intro key' hkey'
    obtain ⟨document, hdocument, rfl⟩ := List.mem_map.1 hkey'
    exact htarget _ (by simp [hkey']) ((List.pairwise_cons.1 hlater).1 document hdocument)
  obtain ⟨place, hplace⟩ := Output.writeAll_passthrough hroot hwrite hheld hbefore hafter
  have horiginal := (Output.writeAll_keeps hroot hwrite).locate hheld
  refine ⟨held, read_eq_ok_iff.2 ⟨original, hheld⟩, fun hother => ?_, fun hsame => ?_⟩
  · have hne : original ≠ place := by
      rintro rfl
      rw [locate_at? hplace] at horiginal
      exact hother ⟨original, _, hplace, horiginal⟩
    rw [if_neg hne] at hplace
    exact read_eq_ok_iff.2 ⟨place, hplace⟩
  · obtain ⟨location, node?, hcopy, hsame⟩ := hsame
    rw [hplace] at hcopy
    rw [horiginal] at hsame
    obtain ⟨rfl, -⟩ := Prod.mk.inj (Except.ok.inj hcopy)
    obtain ⟨rfl, -⟩ := Prod.mk.inj (Except.ok.inj hsame)
    rw [if_pos rfl] at hplace
    exact read_eq_ok_iff.2 ⟨_, hplace⟩

/-! ## A template and its output in one tree -/

/-- A tree in which one directory is a template, with one file that is passed through. -/
def drawn : FileTree :=
  ⟨.directory [("templates", .directory [("release", .directory [("logo.txt", .file "logo".toUTF8)])])],
    "/"⟩

/-- A run in this tree, with a repository at its root. -/
def atRoot : Surroundings where
  toCircumstances := Environment.calm
  files := drawn
  executable := fun _ _ => { stdout := "/\n".toUTF8, stderr := .empty, code := 0 }
  logFilter := none

/-- Options that render the template of the tree to an output directory. -/
def drawnTo (output : String) : RenderOptions where
  name := "release"
  repository := "."
  templateDirs := ["templates"]
  context := none
  output := some output
  settings := none

theorem render_drawnTo (output : String) : ∃ progress,
    (render atRoot (drawnTo output)).run.run {} =
      (.ok ([("logo.txt", none)], .ok (.directory "/templates/release")), progress) := by
  have hfind : drawn.findLink "/templates/release" =
      .ok (.directory [("logo.txt", .file "logo".toUTF8)]) := rfl
  have hleaves : leaves (.directory [("logo.txt", .file "logo".toUTF8)]) =
      [.file ["logo.txt"] "logo".toUTF8] := by
    simp [leaves, groups, inOrder, Leaf.below]
  have hwalk : walkDirectory drawn "/templates/release" = .ok ([("logo.txt", .passthrough)], []) := by
    rw [walkDirectory, hfind]
    simp only [hleaves]
    rfl
  have hresolve : resolve drawn ["/templates"] "release" = .ok (.directory "/templates/release") := rfl
  have hload : load drawn ["/templates"] "release" = (.ok [("logo.txt", .passthrough)], []) := by
    rw [load, hresolve]
    simp only [loadSource, hwalk]
  have henvironment : ∃ environment, Environment.ofSettings
      (Git.WorkTree.repository atRoot.executable drawn ⟨"/", Git.defaultAliasFile⟩)
      { templateDirs := ["/templates"] } "/" atRoot.toCircumstances = .ok environment ∧
      environment.roots = ["/templates"] :=
    Environment.exists_ofSettings_of_standard rfl
  obtain ⟨environment, henvironment, hroots⟩ := henvironment
  have hopen : (Git.WorkTree.open_ atRoot.executable ".").run [] = (.ok ⟨"/", Git.defaultAliasFile⟩,
      [{ Git.Command.topLevel with directory := some "." }.invocation]) := rfl
  refine render_eq_ok_iff.2 ⟨_, _, { templateDirs := ["/templates"] }, environment, [], hopen, rfl,
    henvironment, rfl, ?_, ?_⟩
  · rw [← hroots] at hload
    have hname : (drawnTo output).name = "release" := rfl
    have hfiles : atRoot.files = drawn := rfl
    simp only [Environment.renderTemplates, hname, hfiles, hload]
    rfl
  · rw [hroots]
    exact hresolve.symm

/-- The tree after the template was rendered to its own directory. -/
def emptied : FileTree :=
  ⟨.directory [("templates", .directory [("release", .directory [("logo.txt", .file .empty)])])], "/"⟩

theorem writeAll_emptied :
    (Output.writeAll "/templates/release" (.directory "/templates/release") [("logo.txt", none)]).run.run
      drawn = (.ok (), emptied) := by
  have hparent : Path.parent? "/templates/release/logo.txt" = some "/templates/release" := by
    decide +kernel
  have hexists : drawn.createDirectory "/templates/release" = .error .exists_ := by
    have hlocate : drawn.locate false "/templates/release" =
        .ok (["templates", "release"], some (.directory [("logo.txt", .file "logo".toUTF8)])) := rfl
    have htrim : trimSeparators "/templates/release" = "/templates/release" := rfl
    rw [createDirectory, htrim, hlocate]
  have hcopy : drawn.copy "/templates/release/logo.txt" "/templates/release/logo.txt" = .ok emptied := by
    have hread : drawn.read "/templates/release/logo.txt" = .ok "logo".toUTF8 := rfl
    have hempty : drawn.write "/templates/release/logo.txt" .empty = .ok emptied := rfl
    have hagain : emptied.read "/templates/release/logo.txt" = .ok .empty := rfl
    have hwrite : emptied.write "/templates/release/logo.txt" .empty = .ok emptied := rfl
    exact copy_eq_ok_iff.2 ⟨_, _, _, hread, hempty, hagain, hwrite⟩
  exact Output.writeAll_single hparent (createDirectories_of_exists rfl hexists rfl) hcopy

/-- Rendered to its own directory, a template loses what its file held. -/
theorem runRender_emptied :
    (∃ progress, (render atRoot (drawnTo "/templates/release")).run.run {} =
        (.ok ([("logo.txt", none)], .ok (.directory "/templates/release")), progress)) ∧
      (runRender atRoot (drawnTo "/templates/release") false false).code = 0 ∧
      atRoot.files.read (Path.join "/templates/release" "logo.txt") = .ok "logo".toUTF8 ∧
      (runRender atRoot (drawnTo "/templates/release") false false).files.read
        (Path.join "/templates/release" "logo.txt") = .ok .empty := by
  obtain ⟨progress, hrender⟩ := render_drawnTo "/templates/release"
  obtain ⟨hcode, hfiles⟩ := (runRender_succeeds_iff hrender rfl).2 writeAll_emptied
  refine ⟨⟨progress, hrender⟩, hcode, rfl, ?_⟩
  rw [hfiles]
  rfl

/-- The tree with one more file at the root, which is around the template. -/
def withLogo (bytes : ByteArray) : FileTree :=
  ⟨.directory [("templates", .directory [("release", .directory [("logo.txt", .file "logo".toUTF8)])]),
    ("logo.txt", .file bytes)], "/"⟩

theorem writeAll_withLogo :
    (Output.writeAll "/" (.directory "/templates/release") [("logo.txt", none)]).run.run drawn =
      (.ok (), withLogo "logo".toUTF8) := by
  have hparent : Path.parent? "/logo.txt" = some "/" := by decide +kernel
  have hexists : drawn.createDirectory "/" = .error .exists_ := by
    have hlocate : drawn.locate false "/" = .ok ([], some drawn.root) := rfl
    have htrim : trimSeparators "/" = "/" := rfl
    rw [createDirectory, htrim, hlocate]
  have hcopy : drawn.copy "/templates/release/logo.txt" "/logo.txt" = .ok (withLogo "logo".toUTF8) := by
    have hread : drawn.read "/templates/release/logo.txt" = .ok "logo".toUTF8 := rfl
    have hempty : drawn.write "/logo.txt" .empty = .ok (withLogo .empty) := rfl
    have hagain : (withLogo .empty).read "/templates/release/logo.txt" = .ok "logo".toUTF8 := rfl
    have hwrite : (withLogo .empty).write "/logo.txt" "logo".toUTF8 = .ok (withLogo "logo".toUTF8) := rfl
    exact copy_eq_ok_iff.2 ⟨_, _, _, hread, hempty, hagain, hwrite⟩
  exact Output.writeAll_single hparent (createDirectories_of_exists rfl hexists rfl) hcopy

theorem runRender_passthrough_around :
    (runRender atRoot (drawnTo "/") false false).code = 0 ∧
      ∃ held, atRoot.files.read (Path.join "/templates/release" "logo.txt") = .ok held ∧
        (runRender atRoot (drawnTo "/") false false).files.read (Path.join "/" "logo.txt") = .ok held := by
  obtain ⟨progress, hrender⟩ := render_drawnTo "/"
  have hrun : (runRender atRoot (drawnTo "/") false false).code = 0 ∧
      (runRender atRoot (drawnTo "/") false false).files = withLogo "logo".toUTF8 :=
    (runRender_succeeds_iff hrender rfl).2 writeAll_withLogo
  obtain ⟨hcode, hfiles⟩ := hrun
  obtain ⟨hnamed, hdistinct⟩ := FileNode.names_of_isSound drawn.root (by decide)
  -- there is one key, so no other one comes before or after it
  have hone : ∀ key' ∈ [("logo.txt", (none : Option String))].map Prod.fst,
      ¬key' < "logo.txt" ∧ ¬"logo.txt" < key' := by
    intro key' hkey'
    obtain rfl : key' = "logo.txt" := by simpa using hkey'
    exact ⟨lt_irrefl _, lt_irrefl _⟩
  obtain ⟨held, hheld, hcopy, -⟩ := runRender_passthrough hnamed hdistinct hrender rfl rfl hcode
    (List.mem_singleton.2 rfl) (fun key' hkey' hearlier => absurd hearlier (hone key' hkey').1)
    fun key' hkey' hlater => absurd hlater (hone key' hkey').2
  refine ⟨hcode, held, hheld, hcopy ?_⟩
  rw [hfiles]
  rintro ⟨location, node?, htarget, hsource⟩
  have hplace : (withLogo "logo".toUTF8).locate true "/logo.txt" =
      .ok (["logo.txt"], some (.file "logo".toUTF8)) := rfl
  have horiginal : (withLogo "logo".toUTF8).locate true "/templates/release/logo.txt" =
      .ok (["templates", "release", "logo.txt"], some (.file "logo".toUTF8)) := rfl
  have hsame := (hplace.symm.trans htarget).trans (hsource.symm.trans horiginal)
  simp at hsame

end CommandLine

end ReleasePress
