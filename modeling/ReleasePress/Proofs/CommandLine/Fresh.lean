import ReleasePress.Proofs.Environment.ByName
import ReleasePress.Proofs.Output.Fresh
import ReleasePress.Proofs.Output.Passthrough

/-! # Rendering to a fresh directory

A directory that is rendered to an output directory which is not there yet ends up there completely: each key has
its text or a copy of its file, there is no other file, and the message counts them. Two things can be in the way:
keys that cannot be written side by side, and a place where no directory can be made, such as one below a link
that leads nowhere. `CommandLine.deliver_fresh` excludes both and nothing else; the directories may lie inside
each other, since all files that are copied were there before. -/

namespace ReleasePress.CommandLine

open FileTree Template

/-- **A fresh output directory holds the documents and nothing else.** If the documents of a directory can be
written side by side, then delivering them to an output directory that is not there yet but can be made succeeds.
The files below it are those of the keys, and as many as the message says; under each key there is its text, or
what the file of the key holds in the directory that was rendered. -/
theorem deliver_fresh {σ : Type} {environment : Environment σ} {files : FileTree} (options : RenderOptions)
    (isQuiet : Bool) {output directory : String} {context : Fields} {filters : FilterState σ}
    {documents : Documents} (hnamed : files.root.WellNamed) (hdistinct : files.root.DistinctNames)
    (hresolve : resolve files environment.roots options.name = .ok (.directory directory))
    (hrender : ((environment.renderTemplates files options.name context).run filters).1 = .ok documents)
    (hsides : SideBySide (documents.map Prod.fst)) (houtput : options.output = some output)
    (hfresh : files.Fresh output) :
    ∃ files', deliver files options isQuiet documents (.ok (.directory directory)) =
        (.ok (if isQuiet then "" else writtenMessage output (files'.filesBelow output).length), files') ∧
      ((files'.filesBelow output).map Prod.fst).Perm (documents.map fun document => names document.1) ∧
      (∀ key text, (key, some text) ∈ documents →
        files'.read (Path.join output key) = .ok text.toUTF8) ∧
      ∀ key, (key, none) ∈ documents → ∃ bytes, files.read (Path.join directory key) = .ok bytes ∧
        files'.read (Path.join output key) = .ok bytes := by
  obtain ⟨entries, hfind⟩ := find_of_isDirectory (resolve_spec hresolve)
  have hkeys : (documents.map Prod.fst).Nodup :=
    List.pairwise_map.2 ((Environment.pairwise_documents hresolve hrender).imp fun hlt => hlt.ne)
  have hsupplies : ∀ document ∈ documents,
      ∃ bytes, Output.Supplies files directory document.1 document.2 bytes := by
    rintro ⟨key, document⟩ hdocument
    cases document with
    | some text => exact ⟨_, .text text⟩
    | none =>
        obtain ⟨original, held, hlocate⟩ :=
          Environment.locate_passthrough hnamed hdistinct hresolve hrender hdocument
        exact ⟨held, .file (read_eq_ok_iff.2 ⟨original, hlocate⟩)⟩
  obtain ⟨files', bytes, hwrite, hbelow, hwritten⟩ :=
    Output.writeAll_fresh (hasRoot_of_find hfind) hdistinct hfresh hsides hkeys hsupplies
  have hcount : documents.length = (files'.filesBelow output).length := by
    rw [hbelow.length_eq, List.length_map]
  refine ⟨files', ?_, ?_, fun key text hkey => ?_, fun key hkey => ?_⟩
  · simp only [deliver, houtput, hwrite, hcount]
  · have hlocations := hbelow.map Prod.fst
    rwa [List.map_map] at hlocations
  · obtain ⟨hsupplied, hread⟩ := hwritten _ hkey
    generalize bytes (key, some text) = held at hsupplied hread
    cases hsupplied
    exact hread
  · obtain ⟨hsupplied, hread⟩ := hwritten _ hkey
    cases hsupplied with
    | file hfile => exact ⟨_, hfile, hread⟩

/-- Options that render the template of two files to an output directory. -/
def nestedTo (output : String) : RenderOptions :=
  { drawnTo output with name := "notes" }

theorem deliver_fresh_nested :
    ∃ files', deliver Environment.nested (nestedTo "/new") false
        [("docs/sum.base.md", some "2"), ("logo.png", none)] (.ok (.directory "/templates/notes")) =
          (.ok (writtenMessage "/new" 2), files') ∧
      ((files'.filesBelow "/new").map Prod.fst).Perm [["docs", "sum.base.md"], ["logo.png"]] ∧
      files'.read "/new/docs/sum.base.md" = .ok "2".toUTF8 ∧ files'.read "/new/logo.png" = .ok .empty := by
  obtain ⟨hnamed, hdistinct⟩ := FileNode.names_of_isSound Environment.nested.root (by decide)
  have hresolve : resolve Environment.nested Environment.plain.roots "notes" =
      .ok (.directory "/templates/notes") := rfl
  have hfirst : names "docs/sum.base.md" = ["docs", "sum.base.md"] := by decide +kernel
  have hsecond : names "logo.png" = ["logo.png"] := by decide +kernel
  have hsides : SideBySide ["docs/sum.base.md", "logo.png"] := by
    constructor <;> simp only [List.forall_mem_cons, hfirst, hsecond] <;> decide +kernel
  have hroot : Environment.nested.locate true "/" = .ok ([], some Environment.nested.root) := rfl
  have hfresh : Environment.nested.Fresh (Path.join "/" ("/".intercalate ["new"])) :=
    fresh_join hroot (by decide +kernel) rfl
  have hnew : Path.join "/" ("/".intercalate ["new"]) = "/new" := by decide +kernel
  rw [hnew] at hfresh
  obtain ⟨files', hdeliver, hbelow, htext, hcopy⟩ := deliver_fresh (nestedTo "/new") false hnamed hdistinct
    hresolve Environment.render_nested hsides rfl hfresh
  have hcount := hbelow.length_eq
  rw [List.length_map] at hcount
  simp only [List.map_cons, List.map_nil, hfirst, hsecond] at hbelow
  have hjoin : Path.join "/new" "docs/sum.base.md" = "/new/docs/sum.base.md" := by decide +kernel
  have hjoin' : Path.join "/new" "logo.png" = "/new/logo.png" := by decide +kernel
  have hread := htext "docs/sum.base.md" "2" (by simp)
  obtain ⟨bytes, hlogo, hread'⟩ := hcopy "logo.png" (by simp)
  have hempty : Environment.nested.read (Path.join "/templates/notes" "logo.png") = .ok .empty := rfl
  obtain rfl : bytes = .empty := Except.ok.inj (hlogo.symm.trans hempty)
  rw [hcount] at hdeliver
  rw [hjoin] at hread
  rw [hjoin'] at hread'
  exact ⟨files', hdeliver, hbelow, hread, hread'⟩

/-- A tree with a link that leads nowhere. -/
def dangling : FileTree :=
  ⟨.directory [("templates", .directory [("release", .directory [("logo.txt", .file "logo".toUTF8)])]),
    ("latest", .link "gone")], "/"⟩

theorem locate_dangling (last : Bool) : dangling.locate last "/latest/out" = .error .notFound := by
  have hextends : Extends "/latest" ["out"] (Path.join "/latest" ("/".intercalate ["out"])) :=
    extends_join (by decide) (by simp) (by decide +kernel)
  have hjoin : Path.join "/latest" ("/".intercalate ["out"]) = "/latest/out" := by decide +kernel
  rw [hjoin] at hextends
  exact locate_of_lost hextends (by simp) (by decide) rfl last

theorem createDirectories_dangling : dangling.createDirectories "/latest/out" = .error .exists_ := by
  have hparent : Path.parent? "/latest/out" = some "/latest" := by decide +kernel
  have hlost : dangling.createDirectory "/latest/out" = .error .notFound := by
    have htrim : trimSeparators "/latest/out" = "/latest/out" := by decide +kernel
    rw [createDirectory, htrim, locate_dangling]
  have hlink : dangling.createDirectory "/latest" = .error .exists_ := by
    have hlocate : dangling.locate false "/latest" = .ok (["latest"], some (.link "gone")) := rfl
    have htrim : trimSeparators "/latest" = "/latest" := by decide +kernel
    rw [createDirectory, htrim, hlocate]
  have hdirectory : dangling.isDirectory "/latest" = false := rfl
  have hlength : "/latest/out".length + 1 = 10 + 1 + 1 := by decide +kernel
  rw [createDirectories, if_neg (by decide +kernel), hlength,
    createMissing_of_lost hlost hparent (by decide), createMissing_of_found (by simp [hlink])]
  simp [ensureDirectory, hlink, hdirectory, Except.bind]

/-- Below a link that leads nowhere, and apart from all templates, an output directory is missing and yet cannot
be made. -/
theorem deliver_dangling :
    resolve dangling Environment.plain.roots "release" = .ok (.directory "/templates/release") ∧
      ((Environment.plain.renderTemplates dangling "release" []).run { repository := 0 }).1 =
        .ok [("logo.txt", none)] ∧
      SideBySide ["logo.txt"] ∧ dangling.find "/latest/out" = .error .notFound ∧
      deliver dangling (drawnTo "/latest/out") false [("logo.txt", none)] (.ok (.directory "/templates/release")) =
        (.error (.output (.directory "/latest/out" .exists_)), dangling) := by
  have hresolve : resolve dangling Environment.plain.roots "release" = .ok (.directory "/templates/release") := rfl
  have hnames : names "logo.txt" = ["logo.txt"] := by decide +kernel
  have hlink : dangling.findLink "/templates/release" = .ok (.directory [("logo.txt", .file "logo".toUTF8)]) := rfl
  have hleaves : leaves (.directory [("logo.txt", .file "logo".toUTF8)]) = [.file ["logo.txt"] "logo".toUTF8] := by
    simp [leaves, groups, inOrder, Leaf.below]
  have hload : load dangling Environment.plain.roots "release" = (.ok [("logo.txt", .passthrough)], []) := by
    simp only [load, hresolve, loadSource, walkDirectory, hlink, hleaves]
    rfl
  refine ⟨hresolve, ?_, ?_, ?_, ?_⟩
  · simp only [Environment.renderTemplates, hload]
    rfl
  · constructor <;> simp only [List.forall_mem_cons, hnames] <;> decide +kernel
  · rw [find, locate_dangling]
  · have hparent : Path.parent? (Path.join "/latest/out" "logo.txt") = some "/latest/out" := by decide +kernel
    simp only [deliver, drawnTo, Output.writeAll_of_noRoom hparent createDirectories_dangling]

end ReleasePress.CommandLine
