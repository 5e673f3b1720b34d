import ReleasePress.Output
import ReleasePress.Proofs.Files.Write
import ReleasePress.Proofs.State

/-! # Writing documents

Each document is written at the place that the output directory joined with its key leads to, and nothing
else is touched but for directories that are made. What one document leaves there is its text, or what the
file of its key held when its turn came (`Output.writeOne_spec`); a run over many documents touches their
places only (`Output.writeAll_keeps`). -/

namespace ReleasePress

/-- Two paths lead to one place, whether something is there or not. -/
def FileTree.SamePlace (tree : FileTree) (path path' : String) : Prop :=
  ∃ location node?, tree.locate true path = .ok (location, node?) ∧
    tree.locate true path' = .ok (location, node?)

namespace Output

open FileTree

variable {files files' : FileTree} {output path key : String} {source : TemplateSource}

theorem change_eq_ok_iff {act : FileTree → Except FileError FileTree} {failure : FileError → Failure} :
    (change act failure).run.run files = (.ok (), files') ↔ act files = .ok files' := by
  rw [change, run_bind_eq_ok_iff]
  constructor
  · rintro ⟨read, middle, ⟨⟩, hact⟩
    split at hact
    · next hchanged =>
        cases hact
        exact hchanged
    · cases hact
  · intro hact
    refine ⟨files, files, rfl, ?_⟩
    rw [hact]
    rfl

theorem change_of_error {act : FileTree → Except FileError FileTree} {failure : FileError → Failure}
    {cause : FileError} (hact : act files = .error cause) :
    (change act failure).run.run files = (.error (failure cause), files) := by
  have hread : (get : Writing FileTree).run.run files = (.ok files, files) := rfl
  rw [change, ExceptT.run_bind, run_bind, hread]
  simp only [hact]
  rfl

theorem makeRoom_keeps (hroot : files.HasRoot)
    (hroom : (makeRoom path).run.run files = (.ok (), files')) : Keeps (fun _ => False) files files' := by
  rw [makeRoom] at hroom
  split at hroom
  · obtain ⟨made, halters⟩ := createDirectories_alters hroot (change_eq_ok_iff.1 hroom)
    exact halters.keeps
  · cases hroom
    exact .refl _ _

/-- A document is written at its place: its text, or what the file of its key held before, unless that file
is at the same place. -/
theorem writeOne_spec {document : Option String} (hroot : files.HasRoot)
    (hrun : (writeOne output source key document).run.run files = (.ok (), files')) :
    ∃ (place : Location) (bytes : ByteArray), Keeps (· = place) files files' ∧
      files'.locate true (Path.join output key) = .ok (place, some (.file bytes)) ∧
      (∀ text, document = some text → bytes = text.toUTF8) ∧
      ∀ (directory : String) (original : Location) (held : ByteArray), document = none →
        source = .directory directory →
          files.locate true (Path.join directory key) = .ok (original, some (.file held)) →
            bytes = if original = place then .empty else held := by
  obtain ⟨⟨⟩, roomy, hroom, hwrite⟩ := run_bind_eq_ok_iff.1 hrun
  clear hrun
  have hroomy := makeRoom_keeps hroot hroom
  have htouched {place : Location} {written : FileTree} (hkeeps : Keeps (· = place) roomy written) :
      Keeps (· = place) files written :=
    (hroomy.trans hkeeps).mono (by simp)
  split at hwrite
  · next text =>
      have hwritten := change_eq_ok_iff.1 hwrite
      obtain ⟨place, node?, -, hkeeps, hplace⟩ := write_spec (hroomy.hasRoot hroot) hwritten
      refine ⟨place, text.toUTF8, htouched hkeeps, hplace, ?_, ?_⟩
      · intro text' hsame
        rw [Option.some.inj hsame]
      · intro directory original held hnone
        cases hnone
  · next directory =>
      have hcopied := change_eq_ok_iff.1 hwrite
      obtain ⟨original, place, node?, bytes, hsource, -, hkeeps, hplace⟩ :=
        copy_spec (hroomy.hasRoot hroot) hcopied
      refine ⟨place, _, htouched hkeeps, hplace, ?_, ?_⟩
      · rintro text ⟨⟩
      · rintro directory' original' held - ⟨⟩ hbefore
        -- making room leaves the original as it is
        rw [hroomy.locate hbefore, (hroomy.file_iff not_false _).2 (locate_at? hbefore)] at hsource
        cases hsource
        rfl
  · cases hwrite

/-- A single file is passed through once there is room for it and it can be copied. -/
theorem writeAll_single {directory parent : String} {roomy : FileTree}
    (hparent : Path.parent? (Path.join output key) = some parent)
    (hroom : files.createDirectories parent = .ok roomy)
    (hcopy : roomy.copy (Path.join directory key) (Path.join output key) = .ok files') :
    (writeAll output (.directory directory) [(key, none)]).run.run files = (.ok (), files') := by
  have hmake : (makeRoom (Path.join output key)).run.run files = (.ok (), roomy) := by
    rw [makeRoom, hparent]
    exact change_eq_ok_iff.2 hroom
  have hwrite : (writeOne output (.directory directory) key none).run.run files = (.ok (), files') :=
    run_bind_eq_ok_iff.2 ⟨(), roomy, hmake, change_eq_ok_iff.2 hcopy⟩
  exact run_bind_eq_ok_iff.2 ⟨(), files', hwrite, rfl⟩

/-- If there is no room for the first document then nothing is written. -/
theorem writeAll_of_noRoom {document : Option String} {documents : Documents} {parent : String} {cause : FileError}
    (hparent : Path.parent? (Path.join output key) = some parent)
    (hroom : files.createDirectories parent = .error cause) :
    (writeAll output source ((key, document) :: documents)).run.run files =
      (.error (.directory parent cause), files) := by
  have hmake : (makeRoom (Path.join output key)).run.run files = (.error (.directory parent cause), files) := by
    rw [makeRoom, hparent]
    exact change_of_error hroom
  have hwrite : (writeOne output source key document).run.run files = (.error (.directory parent cause), files) :=
    run_bind_of_error hmake
  exact run_bind_of_error hwrite

/-- Writing documents touches only the places of their keys. -/
theorem writeAll_keeps {documents : Documents} (hroot : files.HasRoot)
    (hwrite : (writeAll output source documents).run.run files = (.ok (), files')) :
    Keeps (fun location => ∃ key ∈ documents.map Prod.fst, ∃ node?,
      files'.locate true (Path.join output key) = .ok (location, node?)) files files' := by
  induction documents generalizing files with
  | nil =>
      cases hwrite
      exact .refl _ _
  | cons document documents ih =>
      obtain ⟨key, document⟩ := document
      obtain ⟨⟨⟩, written, hfirst, hrest⟩ := run_bind_eq_ok_iff.1 hwrite
      obtain ⟨place, bytes, hkeeps, hplace, -⟩ := writeOne_spec hroot hfirst
      have hrest := ih (hkeeps.hasRoot hroot) hrest
      refine (hkeeps.trans hrest).mono fun location htouched => ?_
      rcases htouched with rfl | ⟨key', hkey', hlocate⟩
      · exact ⟨key, by simp, _, hrest.locate hplace⟩
      · exact ⟨key', by simp [hkey'], hlocate⟩

theorem writeAll_append_iff {documents documents' : Documents} :
    (writeAll output source (documents ++ documents')).run.run files = (.ok (), files') ↔
      ∃ middle, (writeAll output source documents).run.run files = (.ok (), middle) ∧
        (writeAll output source documents').run.run middle = (.ok (), files') := by
  induction documents generalizing files with
  | nil =>
      constructor
      · intro hwrite
        exact ⟨files, rfl, hwrite⟩
      · rintro ⟨middle, ⟨⟩, hwrite⟩
        exact hwrite
  | cons document documents ih =>
      obtain ⟨key, document⟩ := document
      simp only [List.cons_append, writeAll, run_bind_eq_ok_iff, ih]
      constructor
      · rintro ⟨⟨⟩, written, hfirst, middle, hbefore, hafter⟩
        exact ⟨middle, ⟨(), written, hfirst, hbefore⟩, hafter⟩
      · rintro ⟨middle, ⟨⟨⟩, written, hfirst, hbefore⟩, hafter⟩
        exact ⟨(), written, hfirst, middle, hbefore, hafter⟩

end Output

end ReleasePress
