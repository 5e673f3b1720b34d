import ReleasePress.Proofs.Filter.Aliases
import ReleasePress.Proofs.Git.Identity

/-!
# Signatures as contacts

Templates write the name and the email of a signature as a contact, `Name <email>`, and look the contact up.
The two readers cut at different places: a signature at the shortest name, with any blanks before the bracket or
none, a contact at the first space and bracket.  They agree if the signature has a single `<`
(`split?_contact`), because then neither name nor email has one, and the name, as the shortest one, has no blanks
at its ends.
-/

namespace ReleasePress

open ReleasePress.Git ReleasePress.Text

/-- A contact is cut where its parts were joined, if neither could be taken for a contact. -/
theorem Contact.split?_join {name email : String} (hname : ¬ [' ', '<'] <:+: name.toList)
    (hemail : ¬ [' ', '<'] <:+: email.toList) :
    Contact.split? (name ++ " <" ++ email ++ ">") = some (trimmed name, email) := by
  have htext : (name ++ " <" ++ email ++ ">").toList = name.toList ++ ' ' :: '<' :: (email.toList ++ ['>']) := by
    simp
  have hcut : cutAt? [' ', '<'] (name ++ " <" ++ email ++ ">").toList = some (name.toList, email.toList ++ ['>']) := by
    rw [htext, cutAt?_pair (by decide) hname]
  have hnone : contains [' ', '<'] email.toList = false := by
    rwa [← Bool.not_eq_true, contains_iff]
  rw [Contact.split?, hcut]
  simp [dropTail?_append, hnone, trimmed]

theorem Git.SignatureTail.IsToldBy.blank_cons {tail : SignatureTail} {text : List Char} {c : Char}
    (h : tail.IsToldBy text) (hc : isBlank c = true) : tail.IsToldBy (c :: text) := by
  obtain ⟨blanks, rest, hblanks, rfl, htime⟩ := h
  exact ⟨c :: blanks, rest, List.forall_mem_cons.2 ⟨hc, hblanks⟩, rfl, htime⟩

namespace Git.Signature

/-- A signature as a contact. -/
def contact (s : Signature) : String :=
  s.name ++ " <" ++ s.email ++ ">"

/-- The name of a signature has no blanks at its ends. -/
theorem trim_name {raw : String} {s : Signature} (hread : ofRaw raw = .ok s) :
    trim s.name.toList = s.name.toList := by
  obtain ⟨tail, rest, htext, -, htold, hshortest, -⟩ := exists_tail_of_ofRaw hread
  refine trim_eq_self (fun c hc => ?_) fun c hc => ?_
  · obtain ⟨name, hname⟩ := List.head?_eq_some_iff.1 (Option.mem_def.1 hc)
    rw [hname] at htext
    exact isBlank_of_trim_eq_cons htext
  · -- a blank at the end could be left to what follows the name
    obtain ⟨name, hname⟩ := List.getLast?_eq_some_iff.1 (Option.mem_def.1 hc)
    by_contra hblank
    rw [Bool.not_eq_false] at hblank
    exact hshortest name [c] hname (List.cons_ne_nil c []) tail (htold.blank_cons hblank)

/-- Name and email have no bracket that opens if the raw text has a single one. -/
theorem open_notMem {raw : String} (hone : raw.toList.count '<' = 1) {s : Signature} (hread : ofRaw raw = .ok s) :
    '<' ∉ s.name.toList ∧ '<' ∉ s.email.toList := by
  obtain ⟨tail, rest, htext, -, ⟨blanks, time, -, rfl, -⟩, -, -, hemail, -⟩ := exists_tail_of_ofRaw hread
  have hcount := (trim_sublist raw.toList).count_le '<'
  rw [hone, htext, ← hemail] at hcount
  simp only [List.count_append, List.count_cons_self] at hcount
  exact ⟨List.not_mem_of_count_eq_zero (by omega), List.not_mem_of_count_eq_zero (by omega)⟩

/-- A signature with a single bracket that opens is cut as a contact into its name and its email. -/
theorem split?_contact {raw : String} (hone : raw.toList.count '<' = 1) {s : Signature}
    (hread : ofRaw raw = .ok s) : Contact.split? s.contact = some (s.name, s.email) := by
  obtain ⟨hname, hemail⟩ := open_notMem hone hread
  have hsplit : Contact.split? s.contact = some (trimmed s.name, s.email) :=
    Contact.split?_join (fun hoccurs => hname (hoccurs.subset (by simp)))
      (fun hoccurs => hemail (hoccurs.subset (by simp)))
  rw [hsplit, trimmed, trim_name hread, String.ofList_toList]

end Git.Signature

namespace FilterLibrary

variable {σ : Type}

/-- **Signatures are contacts.**  If a signature with a single `<` is read, `alias` takes it as a contact and
looks up exactly its name and its email, whatever the library, the state and the platform are. -/
theorem call_aliasOf_contact (library : FilterLibrary σ) {raw : String} (hone : raw.toList.count '<' = 1)
    {s : Signature} (hread : Signature.ofRaw raw = .ok s) {args : List Value} {platform : Option String}
    (hargs : platformOf args = .ok platform) (state : FilterState σ) :
    Contact.split? s.contact = some (s.name, s.email) ∧
      (library.call .aliasOf (.string s.contact) args).run state =
        (.ok (Lookup.answer (library.resolver.run state).1 ⟨s.name, s.email, platform⟩),
          (library.resolver.run state).2) := by
  have hsplit := Signature.split?_contact hone hread
  have hlookup : lookup? .aliasOf (.string s.contact) args = some ⟨s.name, s.email, platform⟩ :=
    lookup?_eq_some_iff.2 ⟨rfl, hsplit, hargs⟩
  exact ⟨hsplit, call_run_of_lookup library hlookup state⟩

/-- A signature without a name. -/
def nameless : String := "<ada@example.org> 1700000000 +0100"

theorem call_aliasOf_contact_nameless :
    ((fickleLibrary.call .aliasOf (.string " <ada@example.org>") []).run { repository := 1 }).1 =
      .ok (.string "Ada <ada@example.org>") := by
  have hsplit : SignatureTail.split? (trim nameless.toList) =
      some ([], ⟨"ada@example.org".toList, false, "1700000000".toList, false, ['0', '1'], ['0', '0']⟩) := rfl
  have hread : Signature.ofRaw nameless = .ok ⟨"", "ada@example.org", ⟨1700000000, 0, 3600⟩⟩ :=
    (Signature.ofRaw_of_split? hsplit).2 ⟨⟨List.all_eq_true.1 rfl, rfl, by decide⟩, rfl⟩
  have hargs : platformOf [] = .ok none := rfl
  obtain ⟨-, hcall⟩ := call_aliasOf_contact fickleLibrary rfl hread hargs { repository := 1 }
  exact congrArg Prod.fst hcall

end FilterLibrary

end ReleasePress
