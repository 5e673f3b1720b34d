import ReleasePress.Proofs.Environment.Alone
import ReleasePress.Proofs.Template.Resolve

/-! # Templates of a directory by name

A template in a directory can be rendered with the directory and by a name of its own. Its document depends on
the last part of its key only, so both ways give the same one (`Environment.renderTemplates_byName`), under keys
that differ by the name of the directory. -/

namespace ReleasePress

open ReleasePress.Template ReleasePress.Text

namespace Template

/-! ## Loading one file -/

/-- A marked text below the directory of a template is loaded alone by its own name. -/
theorem load_below {files : FileTree} {roots : List String} {name directory fileName stripped contents : String}
    {around : Location} {entries : List (String × FileNode)} (hname : name ≠ "")
    (hresolve : resolve files roots name = .ok (.directory directory))
    (hfind : files.find directory = .ok (.directory entries))
    (hnames : ∀ part ∈ around ++ [fileName], IsEntryName part)
    (hat : (FileNode.directory entries).at? (around ++ [fileName]) = some (.file contents.toUTF8))
    (hmark : LosesMark fileName stripped) :
    (load files roots (name ++ "/" ++ "/".intercalate (around ++ [fileName]))).1 =
      .ok [(name ++ "/" ++ "/".intercalate (around ++ [stripped]), .text contents)] := by
  obtain ⟨path, hpath, hread⟩ := resolve_below hname hresolve hfind hnames hat hmark
  have htext : String.fromUTF8? contents.toUTF8 = some contents := fromUTF8?_eq_some_iff.2 rfl
  obtain ⟨parent, -, hparent⟩ := exists_parent name hname around
  have hkey : outputKey (parent ++ "/" ++ fileName) = parent ++ "/" ++ stripped :=
    outputKey_append (hnames fileName (by simp)).noSlash hmark
  rw [load, hpath]
  simp only [loadSource, hread, htext, single]
  rw [hparent, hparent, hkey]

/-- The entry of a marked text that gives its key alone. -/
theorem mem_of_visited {entries : List (String × FileNode)} {loaded : Entries} {around : Location}
    {fileName stripped contents : String} (hvisited : Visited (leaves (.directory entries)) loaded)
    (hdistinct : (FileNode.directory entries).DistinctNames)
    (hfile : HasFile (.directory entries) (around ++ [fileName]) contents.toUTF8)
    (hmark : LosesMark fileName stripped)
    (honly : ∀ location bytes entry, HasFile (.directory entries) location bytes →
      Gives location bytes ("/".intercalate (around ++ [stripped])) entry → location = around ++ [fileName]) :
    ("/".intercalate (around ++ [stripped]), .text contents) ∈ loaded := by
  refine (hvisited.text_iff _ _).2 ((findSome?_text?_eq_some_iff hdistinct).2 ?_)
  refine ⟨_, _, hfile, .text hmark, fun location bytes contents' hfile' hgives => ?_⟩
  rw [honly location bytes _ hfile' hgives]

end Template

namespace Environment

variable {σ : Type} {environment : Environment σ} {context : Fields} {s : FilterState σ}

/-! ## The document under another key -/

/-- Of its key a text is rendered with the last part only. -/
theorem alone_congr {key key' text written : String} (hkey : lastSegment key = lastSegment key')
    (halone : environment.alone context s key text = .ok written) :
    environment.alone context s key' text = .ok written := by
  have hmarkdown : isMarkdownKey key = isMarkdownKey key' := by rw [isMarkdownKey, isMarkdownKey, hkey]
  obtain ⟨body, context', s', hbody⟩ :=
    environment.exists_alone_eq context s (isMarkdownKey key) text
  rw [hbody key rfl] at halone
  rw [hbody key' hmarkdown.symm]
  cases hread : Document.read? body with
  | none =>
      rw [renderBody, hread] at halone
      cases halone
  | some document =>
      have hpage : environment.page key document context' = environment.page key' document context' := by
        rw [page, page, pageName, pageName, hkey]
      rw [renderBody_run hread] at halone ⊢
      rw [← hpage]
      cases hrender : ((environment.page key document context').render.outcome (.start s')).1 with
      | error failure =>
          rw [hrender] at halone
          cases halone
      | ok text =>
          rw [hrender] at halone
          exact halone

/-- Each key has its document once. -/
theorem lookup_of_mem {documents : Documents} (hsorted : documents.Pairwise fun a b => a.1 < b.1)
    {key : String} {document : Option String} (hmem : (key, document) ∈ documents) :
    documents.lookup key = some document := by
  obtain ⟨before, after, rfl⟩ := List.append_of_mem hmem
  refine List.lookup_eq_some_iff.2 ⟨before, after, rfl, fun other hother => ?_⟩
  have hlt := (List.pairwise_append.1 hsorted).2.2 other hother (key, document) (by simp)
  simpa using hlt.ne'

/-- **A template is the same by name and in its directory.** If a directory is rendered over a steady
repository, then a text in it that is marked as a template and alone gives its key is found under the name of the
directory and its own path, and rendered by that name it gives one document, the same as in the directory, under
its key below the name of the directory. -/
theorem renderTemplates_byName {files : FileTree} {name directory fileName stripped contents : String}
    {around : Location} {entries : List (String × FileNode)} {documents : Documents}
    (hnamed : files.root.WellNamed) (hdistinct : files.root.DistinctNames)
    (hsteady : environment.library.repository.IsSteady) (hname : name ≠ "")
    (hresolve : resolve files environment.roots name = .ok (.directory directory))
    (hrender : ((environment.renderTemplates files name context).run s).1 = .ok documents)
    (hfind : files.find directory = .ok (.directory entries))
    (hfile : HasFile (.directory entries) (around ++ [fileName]) contents.toUTF8)
    (hmark : LosesMark fileName stripped)
    (honly : ∀ location bytes entry, HasFile (.directory entries) location bytes →
      Gives location bytes ("/".intercalate (around ++ [stripped])) entry → location = around ++ [fileName]) :
    ∃ document, documents.lookup ("/".intercalate (around ++ [stripped])) = some (some document) ∧
      ((environment.renderTemplates files (name ++ "/" ++ "/".intercalate (around ++ [fileName]))
          context).run s).1 =
        .ok [(name ++ "/" ++ "/".intercalate (around ++ [stripped]), some document)] := by
  have hentries := FileTree.find_distinctNames hdistinct hfind
  have hnames := hfile.isEntryName (FileTree.find_wellNamed hnamed hfind)
  -- in its directory the text is rendered under its key
  obtain ⟨loaded, warnings, hwalk, hvisited⟩ := visited_walkDirectory hfind
  have hload : (load files environment.roots name).1 = .ok loaded := by
    simp only [load, hresolve, loadSource, hwalk]
  have hmem := mem_of_visited hvisited hentries hfile hmark honly
  have hrun := renderTemplates_run hsteady hload context s
  obtain ⟨rendered, hrendered, hentry⟩ := exists_of_mapM_eq_ok (hrun.symm.trans hrender) hmem
  obtain ⟨document, halone, rfl⟩ := entryAlone_text_eq_ok_iff.1 hentry
  refine ⟨document, lookup_of_mem (pairwise_renderTemplates hload hrender) hrendered, ?_⟩
  -- by its name it is the only entry, under a key with the same last part
  have hload' := load_below hname hresolve hfind hnames (hfile.at? hentries) hmark
  have hsegment : lastSegment ("/".intercalate (around ++ [stripped])) =
      lastSegment (name ++ "/" ++ "/".intercalate (around ++ [stripped])) := by
    have hslash := hmark.not_slash_mem (hnames fileName (by simp))
    have haround : ∀ part ∈ around, '/' ∉ part.toList := fun part hpart => (hnames part (by simp [hpart])).noSlash
    obtain ⟨parent, -, hparent⟩ := exists_parent name hname around
    rw [hparent, lastSegment_append hslash, lastSegment_intercalate haround hslash]
  have hentry' := entryAlone_text_eq_ok_iff.2 ⟨document, alone_congr hsegment halone, rfl⟩
  rw [renderTemplates_run hsteady hload', List.mapM_cons, hentry']
  rfl

/-- A template below two directories, with the mark of templates and the one that asks for a brought-along
template, next to a file that is passed through. -/
def nestedEntries : List (String × FileNode) :=
  [("docs", .directory [("sum.base.template.md", .file "\x7b\x7b 1 + 1 \x7d\x7d".toUTF8)]),
    ("logo.png", .file .empty)]

/-- The templates under the only search root. -/
def nested : FileTree :=
  ⟨.directory [("templates", .directory [("notes", .directory nestedEntries)])], "/"⟩

theorem render_nested :
    ((plain.renderTemplates nested "notes" []).run { repository := 0 }).1 =
      .ok [("docs/sum.base.md", some "2"), ("logo.png", none)] := by
  have hresolve : resolve nested plain.roots "notes" = .ok (.directory "/templates/notes") := rfl
  have hlink : nested.findLink "/templates/notes" = .ok (.directory nestedEntries) := rfl
  have hleaves : leaves (.directory nestedEntries) =
      [.file ["docs", "sum.base.template.md"] "\x7b\x7b 1 + 1 \x7d\x7d".toUTF8, .file ["logo.png"] .empty] := by
    rw [nestedEntries, leaves, inOrder, List.mergeSort_of_pairwise (by decide)]
    simp [groups, leaves, inOrder, Leaf.below]
  have hload : (load nested plain.roots "notes").1 =
      .ok [("docs/sum.base.md", .text "\x7b\x7b 1 + 1 \x7d\x7d"), ("logo.png", .passthrough)] := by
    simp only [load, hresolve, loadSource, walkDirectory, hlink, hleaves]
    rfl
  have halone : (plain.alone [] { repository := 0 } "docs/sum.base.md" "\x7b\x7b 1 + 1 \x7d\x7d").toOption =
      some "2" := by
    decide +kernel
  have hsteady : plain.library.repository.IsSteady := Git.Store.isSteady_repository {}
  rw [renderTemplates_run hsteady hload, List.mapM_cons, entryAlone]
  cases hwritten : plain.alone [] { repository := 0 } "docs/sum.base.md" "\x7b\x7b 1 + 1 \x7d\x7d" with
  | error e =>
      rw [hwritten] at halone
      cases halone
  | ok written =>
      rw [hwritten] at halone
      obtain rfl : written = "2" := Option.some.inj halone
      rfl

theorem renderTemplates_byName_nested :
    ((plain.renderTemplates nested "notes/docs/sum.base.template.md" []).run { repository := 0 }).1 =
      .ok [("notes/docs/sum.base.md", some "2")] := by
  obtain ⟨hnamed, hdistinct⟩ := FileNode.names_of_isSound nested.root (by decide)
  have hsteady : plain.library.repository.IsSteady := Git.Store.isSteady_repository {}
  have hresolve : resolve nested plain.roots "notes" = .ok (.directory "/templates/notes") := rfl
  have hfind : nested.find "/templates/notes" = .ok (.directory nestedEntries) := rfl
  have hinner : HasFile (.directory [("sum.base.template.md", .file "\x7b\x7b 1 + 1 \x7d\x7d".toUTF8)])
      ["sum.base.template.md"] "\x7b\x7b 1 + 1 \x7d\x7d".toUTF8 := .directory (by simp) (.file _)
  have hfile : HasFile (.directory nestedEntries) (["docs"] ++ ["sum.base.template.md"])
      "\x7b\x7b 1 + 1 \x7d\x7d".toUTF8 := .directory (by simp [nestedEntries]) hinner
  have hmark : LosesMark "sum.base.template.md" "sum.base.md" := losesMark_iff.2 rfl
  have honly : ∀ location bytes entry, HasFile (.directory nestedEntries) location bytes →
      Gives location bytes ("/".intercalate (["docs"] ++ ["sum.base.md"])) entry →
        location = ["docs"] ++ ["sum.base.template.md"] := by
    intro location bytes entry hother hgives
    have hkey := (Prod.mk.inj (Option.some.inj (hother.gives_iff.1 hgives))).1
    cases hother with
    | directory hentry hother =>
        simp only [nestedEntries, List.mem_cons, Prod.mk.injEq, List.not_mem_nil, or_false] at hentry
        rcases hentry with ⟨rfl, rfl⟩ | ⟨rfl, rfl⟩
        · cases hother with
          | directory hentry hother =>
              simp only [List.mem_cons, Prod.mk.injEq, List.not_mem_nil, or_false] at hentry
              obtain ⟨rfl, rfl⟩ := hentry
              cases hother
              rfl
        · cases hother
          exact absurd hkey (by decide +kernel)
  obtain ⟨document, hlookup, hrender⟩ := renderTemplates_byName hnamed hdistinct hsteady (by simp) hresolve
    render_nested hfind hfile hmark honly
  obtain rfl : "2" = document := Option.some.inj (Option.some.inj hlookup)
  exact hrender

end Environment

end ReleasePress
