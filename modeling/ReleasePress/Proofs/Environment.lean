import Mathlib.Tactic.Common
import ReleasePress.Environment
import ReleasePress.Git.Store
import ReleasePress.Proofs.State

/-! # Environments

The documents of a template have the keys of its entries, in their order, and none for the files that are
passed through. -/

namespace ReleasePress.Environment

variable {σ : Type}

/-- Each entry has its document, under the same key; a text that cannot be rendered leaves no documents. -/
theorem forall₂_renderEntries (environment : Environment σ) (context : Fields) (entries : Entries)
    (s : FilterState σ) {documents : Documents}
    (hrender : ((environment.renderEntries context entries).run s).1 = .ok documents) :
    List.Forall₂ (fun document entry => document.1 = entry.1 ∧
      (document.2 = none → entry.2 = .passthrough)) documents entries := by
  induction entries generalizing s documents with
  | nil =>
      obtain rfl := Except.ok.inj hrender
      exact .nil
  | cons entry entries ih =>
      obtain ⟨key, entry⟩ := entry
      simp only [renderEntries, run_bind] at hrender
      split at hrender
      · cases hrender
      · next document hdocument =>
          simp only [run_bind] at hrender
          split at hrender
          · next others hothers =>
              obtain rfl := Except.ok.inj hrender
              refine .cons ⟨rfl, ?_⟩ (ih _ hothers)
              rintro rfl
              cases entry with
              | passthrough => rfl
              | text contents =>
                  simp only [renderEntry, run_bind] at hdocument
                  split at hdocument
                  · cases hdocument
                  · cases hdocument
          · cases hrender

theorem keys_renderEntries (environment : Environment σ) (context : Fields) (entries : Entries)
    (s : FilterState σ) {documents : Documents}
    (hrender : ((environment.renderEntries context entries).run s).1 = .ok documents) :
    documents.map Prod.fst = entries.map Prod.fst := by
  have hall := environment.forall₂_renderEntries context entries s hrender
  clear hrender
  induction hall with
  | nil => rfl
  | cons hdocument _ ih => rw [List.map_cons, List.map_cons, hdocument.1, ih]

theorem passthrough_of_renderEntries (environment : Environment σ) (context : Fields)
    (entries : Entries) (s : FilterState σ) {documents : Documents} {key : String}
    (hrender : ((environment.renderEntries context entries).run s).1 = .ok documents)
    (hmem : (key, none) ∈ documents) : (key, .passthrough) ∈ entries := by
  have hall := environment.forall₂_renderEntries context entries s hrender
  clear hrender
  induction hall with
  | nil => cases hmem
  | @cons document entry documents entries hdocument _ ih =>
      rcases List.mem_cons.1 hmem with hfirst | hmem
      · have hentry : entry = (key, .passthrough) := by
          rw [← hfirst] at hdocument
          exact Prod.ext hdocument.1.symm (hdocument.2 rfl)
        simp [hentry]
      · exact List.mem_cons_of_mem _ (ih hmem)

/-- The documents of a template are those of its entries. -/
theorem exists_entries_of_renderTemplates {environment : Environment σ} {files : FileTree}
    {name : String} {context : Fields} {s : FilterState σ} {source : TemplateSource}
    {documents : Documents} (hresolve : Template.resolve files environment.roots name = .ok source)
    (hrender : ((environment.renderTemplates files name context).run s).1 = .ok documents) :
    ∃ entries s', (Template.loadSource files environment.roots name source).1 = .ok entries ∧
      ((environment.renderEntries context entries).run s').1 = .ok documents := by
  simp only [renderTemplates, Template.load, hresolve, run_bind] at hrender
  split at hrender
  · cases hrender
  · next entries hload => exact ⟨entries, _, hload, hrender⟩

theorem standard_valid : (DateItem.listOf? DateFormat.standard).isSome = true := by
  rfl

/-- Circumstances under which nothing surprises: it is the first moment of 1970, no variable is set, and arguments are
gone through as they are written. -/
def calm : Circumstances where
  now := ⟨0, 0, 0⟩
  zone := 0
  chance := id
  variableOf := fun _ => none
  traversal := .asWritten
  complaints := fun page _ => ["Failed to parse '" ++ page ++ "'"]

/-- An environment that looks for templates in `/templates` and knows an empty repository. -/
def plain : Environment Nat where
  library :=
    { calm with
      repository := Git.Store.repository {}, notesRef := none, dates := ⟨DateFormat.standard, standard_valid⟩ }
  roots := ["/templates"]

/-- Settings with the standard pattern for dates make an environment, with their search roots. -/
theorem exists_ofSettings_of_standard {repository : Git.Repository σ} {settings : Settings} {base : String}
    {circumstances : Circumstances} (hpattern : settings.datePattern = DateFormat.standard) :
    ∃ environment, ofSettings repository settings base circumstances = .ok environment ∧
      environment.roots = settings.templateDirsFrom base := by
  have hdates : DateFormat.ofPattern? settings.datePattern = .ok plain.library.dates := by
    rw [hpattern]
    exact dif_pos standard_valid
  rw [ofSettings, hdates]
  exact ⟨_, rfl, rfl⟩

end ReleasePress.Environment
