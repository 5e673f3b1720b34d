import Mathlib.Data.List.Perm.Subperm
import ReleasePress.Proofs.Git.Freshness
import ReleasePress.Proofs.Text.Digits
import ReleasePress.Proofs.State

/-!
# The walk over first parents

A walk through a store goes from a commit to its first parent for as long as there is one.  Nothing in the walk
says that it ends; that lies in how the store was built.  If parents are committed before their children, each is
stored under a smaller number (`Store.HasParents`, kept by every step), so the numbers along a walk go down, and
so do the ids, since numerals of one length are ordered like their numbers (`Store.idText_lt`).

`Store.walk_build` says what the walk is: the lineage of the commit, down to a commit without parents.
-/

namespace ReleasePress.Git

open ReleasePress.Text

/-! ## The order of numerals -/

/-- The number that hexadecimal digits make of the one before them. -/
def hexNumberFrom? (n : Nat) (digits : List Char) : Option Nat :=
  digits.foldlM (fun n c => (hexValue? c).map (n * 16 + ·)) n

theorem hexNumberFrom?_cons_eq_some_iff {n x : Nat} {c : Char} {digits : List Char} :
    hexNumberFrom? n (c :: digits) = some x ↔
      ∃ v, hexValue? c = some v ∧ hexNumberFrom? (n * 16 + v) digits = some x := by
  rw [hexNumberFrom?, List.foldlM_cons]
  cases hexValue? c <;> simp [hexNumberFrom?]

theorem hexValue?_of_isHexDigit {c : Char} (hc : isHexDigit c = true) :
    (48 ≤ c.toNat ∧ c.toNat ≤ 57 ∧ hexValue? c = some (c.toNat - 48)) ∨
      (97 ≤ c.toNat ∧ c.toNat ≤ 102 ∧ hexValue? c = some (c.toNat - 97 + 10)) := by
  rw [isHexDigit, Bool.or_eq_true] at hc
  rcases hc with hdigit | hletter
  · obtain ⟨hlow, hhigh⟩ := toNat_of_isDigit hdigit
    exact .inl ⟨hlow, hhigh, by rw [hexValue?, if_pos hdigit]; rfl⟩
  · have hrange := hletter
    simp only [Bool.and_eq_true, decide_eq_true_eq, Char.le_def, UInt32.le_iff_toNat_le] at hrange
    obtain ⟨hlow, hhigh⟩ : 97 ≤ c.toNat ∧ c.toNat ≤ 102 := hrange
    have hnot : isDigit c = false := by
      rw [Bool.eq_false_iff]
      intro hdigit
      have hlimit := toNat_of_isDigit hdigit
      omega
    exact .inr ⟨hlow, hhigh, by rw [hexValue?, hnot, if_pos hletter]; rfl⟩

theorem hexValue?_lt_sixteen {c : Char} {v : Nat} (hc : isHexDigit c = true) (hv : hexValue? c = some v) : v < 16 := by
  rcases hexValue?_of_isHexDigit hc with ⟨hlow, hhigh, hvalue⟩ | ⟨hlow, hhigh, hvalue⟩
  all_goals
    rw [hv, Option.some.injEq] at hvalue
    omega

theorem hexValue?_lt {c d : Char} {v w : Nat} (hc : isHexDigit c = true) (hd : isHexDigit d = true) (hlt : c < d)
    (hv : hexValue? c = some v) (hw : hexValue? d = some w) : v < w := by
  have hcodes : c.toNat < d.toNat := UInt32.lt_iff_toNat_lt.1 (Char.lt_def.1 hlt)
  rcases hexValue?_of_isHexDigit hc with ⟨hlow, hhigh, hvalue⟩ | ⟨hlow, hhigh, hvalue⟩
  all_goals
    rcases hexValue?_of_isHexDigit hd with ⟨hlow', hhigh', hvalue'⟩ | ⟨hlow', hhigh', hvalue'⟩
    all_goals
      rw [hv, Option.some.injEq] at hvalue
      rw [hw, Option.some.injEq] at hvalue'
      omega

/-- Of numerals of one length the one that continues the greater number is the greater one. -/
theorem hexNumberFrom?_lt {m n x y : Nat} {a b : List Char} (hlength : a.length = b.length)
    (hdigits : ∀ c ∈ a, isHexDigit c = true) (hmn : m < n) (ha : hexNumberFrom? m a = some x)
    (hb : hexNumberFrom? n b = some y) : x < y := by
  induction a generalizing b m n with
  | nil =>
      obtain rfl := List.length_eq_zero_iff.1 hlength.symm
      cases ha
      cases hb
      exact hmn
  | cons c a ih =>
      cases b with
      | nil => cases hlength
      | cons d b =>
          obtain ⟨v, hv, ha⟩ := hexNumberFrom?_cons_eq_some_iff.1 ha
          obtain ⟨w, -, hb⟩ := hexNumberFrom?_cons_eq_some_iff.1 hb
          obtain ⟨hc, hdigits⟩ := List.forall_mem_cons.1 hdigits
          have hdigit := hexValue?_lt_sixteen hc hv
          exact ih (Nat.succ.inj hlength) hdigits (by omega) ha hb

/-- Numerals of one length are ordered like their numbers. -/
theorem hexNumberFrom?_lt_of_lt {n x y : Nat} {a b : List Char} (hlength : a.length = b.length)
    (hdigits : ∀ c ∈ a, isHexDigit c = true) (hdigits' : ∀ c ∈ b, isHexDigit c = true) (hlt : a < b)
    (ha : hexNumberFrom? n a = some x) (hb : hexNumberFrom? n b = some y) : x < y := by
  induction a generalizing b n with
  | nil =>
      obtain rfl := List.length_eq_zero_iff.1 hlength.symm
      exact absurd hlt (List.not_lt_nil [])
  | cons c a ih =>
      cases b with
      | nil => cases hlength
      | cons d b =>
          obtain ⟨hc, hrestDigits⟩ := List.forall_mem_cons.1 hdigits
          obtain ⟨hd, hrestDigits'⟩ := List.forall_mem_cons.1 hdigits'
          obtain ⟨v, hv, ha⟩ := hexNumberFrom?_cons_eq_some_iff.1 ha
          obtain ⟨w, hw, hb⟩ := hexNumberFrom?_cons_eq_some_iff.1 hb
          rcases List.cons_lt_cons_iff.1 hlt with hfirst | ⟨rfl, hrest⟩
          · have hvw := hexValue?_lt hc hd hfirst hv hw
            exact hexNumberFrom?_lt (Nat.succ.inj hlength) hrestDigits (by omega) ha hb
          · rw [hv] at hw
            cases hw
            exact ih (Nat.succ.inj hlength) hrestDigits hrestDigits' hrest ha hb

namespace Store

theorem length_idText {n : Nat} (hn : n < 16 ^ 40) : (idText n).toList.length = 40 := by
  have hlength : (Nat.toDigits 16 n).length ≤ 40 :=
    (Nat.length_toDigits_le_iff (by decide) (by decide)).2 hn
  rw [toList_idText, List.length_append, List.length_replicate]
  omega

theorem isHexDigit_of_mem_idText {n : Nat} (hn : n < 16 ^ 40) : ∀ c ∈ (idText n).toList, isHexDigit c = true := by
  have hvalid := isObjectId_idText hn
  rw [isObjectId, Bool.and_eq_true] at hvalid
  exact List.all_eq_true.1 hvalid.1

/-- Greater numbers have greater ids. -/
theorem idText_lt {i j : Nat} (hij : i < j) (hj : j < 16 ^ 40) : idText i < idText j := by
  have hi : i < 16 ^ 40 := Nat.lt_trans hij hj
  have hlength : (idText j).toList.length = (idText i).toList.length := by rw [length_idText hi, length_idText hj]
  rcases lt_trichotomy (idText i) (idText j) with hlt | heq | hlt
  · exact hlt
  · have hread := hexNumber?_idText i
    rw [heq, hexNumber?_idText, Option.some.injEq] at hread
    omega
  · have hreverse := hexNumberFrom?_lt_of_lt hlength (isHexDigit_of_mem_idText hj) (isHexDigit_of_mem_idText hi)
      (String.lt_iff_toList_lt.1 hlt) (hexNumber?_idText j) (hexNumber?_idText i)
    omega

-- Ids are only compared from here on.
attribute [local irreducible] idOf

/-! ## Parents before children -/

/-- The parents that a step gives to its commit. -/
def Step.parents : Step → List ObjectId
  | commit _ _ parents => parents
  | _ => []

/-- The parents that a step gives are ids of commits that were added before it. -/
def ParentsFirst (steps : List Step) : Prop :=
  ∀ before step after, steps = before ++ step :: after →
    ∀ parent ∈ step.parents, ∃ c, Object.commit c ∈ added {} before ∧ c.oid = parent

theorem parentsFirst_nil : ParentsFirst [] := by
  intro before step after h
  simp at h

theorem parentsFirst_concat_iff (steps : List Step) (step : Step) :
    ParentsFirst (steps ++ [step]) ↔ ParentsFirst steps ∧
      ∀ parent ∈ step.parents, ∃ c, Object.commit c ∈ added {} steps ∧ c.oid = parent := by
  constructor
  · intro h
    refine ⟨fun before earlier after hsteps => ?_, h steps step [] rfl⟩
    exact h before earlier (after ++ [step]) (by rw [hsteps, List.append_assoc, List.cons_append])
  · rintro ⟨hsteps, hlast⟩ before earlier after h
    rcases List.eq_nil_or_concat after with rfl | ⟨init, last, rfl⟩
    · obtain ⟨rfl, hstep⟩ := List.append_inj' h rfl
      obtain rfl := (List.cons.inj hstep).1
      exact hlast
    · rw [List.concat_eq_append, ← List.cons_append, ← List.append_assoc] at h
      exact hsteps before earlier init (List.append_inj' h rfl).1

theorem build_concat (steps : List Step) (step : Step) : build (steps ++ [step]) = step.apply (build steps) :=
  build_append steps [] step

theorem added_concat (store : Store) (steps : List Step) (step : Step) :
    added store (steps ++ [step]) = added store steps ++ (step.added? (steps.foldl Step.apply store)).toList := by
  induction steps generalizing store with
  | nil => simp [added]
  | cons first steps ih => rw [List.cons_append, added, ih, added, List.append_assoc, List.foldl_cons]

/-! ## What is stored -/

variable {store : Store}

theorem commit?_eq_some_iff {oid : ObjectId} {c : Commit} :
    store.commit? oid = some c ↔ store.object oid = .ok (.commit c) := by
  rw [object_eq_ok_iff, commit?]
  cases store.objects.lookup oid with
  | none => simp
  | some o => cases o <;> simp

/-- The parents of a stored commit are stored as commits, under smaller numbers. -/
def HasParents (store : Store) : Prop :=
  ∀ i ≤ store.count, ∀ c, store.commit? (idOf i) = some c →
    ∀ parent ∈ c.parents, ∃ j < i, parent = idOf j ∧ ∃ d, store.commit? parent = some d

theorem commit?_apply {i : Nat} (step : Step) (hi : i ≤ store.count) (hfew : store.count + 1 < 16 ^ 40) :
    (step.apply store).commit? (idOf i) = store.commit? (idOf i) := by
  rw [commit?, commit?, lookup_objects_apply step hi hfew]

theorem IsNumbered.exists_number (h : store.IsNumbered) {oid : ObjectId} {c : Commit}
    (hfound : store.commit? oid = some c) : ∃ i ≤ store.count, oid = idOf i :=
  h oid (.commit c) (mem_of_lookup (object_eq_ok_iff.1 (commit?_eq_some_iff.1 hfound)))

/-- A step leaves alone the commits that are stored. -/
theorem IsNumbered.commit?_apply_of_some (h : store.IsNumbered) (step : Step) (hfew : store.count + 1 < 16 ^ 40)
    {oid : ObjectId} {c : Commit} (hfound : store.commit? oid = some c) :
    (step.apply store).commit? oid = some c := by
  obtain ⟨i, hi, rfl⟩ := h.exists_number hfound
  rw [commit?_apply step hi hfew, hfound]

theorem exists_added? {step : Step} (hcount : store.count < (step.apply store).count) :
    ∃ o, step.added? store = some o := by
  cases step with
  | ref name oid => exact absurd hcount (Nat.lt_irrefl _)
  | aliases resolver => exact absurd hcount (Nat.lt_irrefl _)
  | _ => exact ⟨_, rfl⟩

/-- A commit under the id that a step gives out has the parents of the step. -/
theorem IsNumbered.parents_eq (h : store.IsNumbered) {step : Step} (hcount : store.count < (step.apply store).count)
    (hfew : store.count + 1 < 16 ^ 40) {c : Commit} (hfound : (step.apply store).commit? store.nextId = some c) :
    c.parents = step.parents := by
  obtain ⟨o, hadded⟩ := exists_added? hcount
  have hlookup := h.lookup_added hadded hfew
  rw [(oid_of_added? hadded).1, object_eq_ok_iff.1 (commit?_eq_some_iff.1 hfound)] at hlookup
  have hcommit : o = .commit c := by
    cases o <;> cases hlookup
    rfl
  subst hcommit
  cases step with
  | commit summary time parents =>
      cases hadded
      rfl
  | _ => cases hadded

/-- **A step whose parents are stored leaves a store in which all parents are.** -/
theorem HasParents.apply (h : store.HasParents) (hnumbered : store.IsNumbered) {step : Step}
    (hparents : ∀ parent ∈ step.parents, ∃ d, store.commit? parent = some d) (hfew : store.count + 1 < 16 ^ 40) :
    (step.apply store).HasParents := by
  intro i hi c hfound parent hparent
  have hkept {d : Commit} (hd : store.commit? parent = some d) : (step.apply store).commit? parent = some d :=
    hnumbered.commit?_apply_of_some step hfew hd
  rcases Nat.lt_or_ge store.count i with hnew | hold
  · -- the step gave out this id, so the parents are its own
    have hcount := count_apply store step
    obtain rfl : i = store.count + 1 := by omega
    rw [hnumbered.parents_eq (by omega) hfew hfound] at hparent
    obtain ⟨d, hd⟩ := hparents parent hparent
    obtain ⟨j, hj, hoid⟩ := hnumbered.exists_number hd
    exact ⟨j, by omega, hoid, d, hkept hd⟩
  · rw [commit?_apply step hold hfew] at hfound
    obtain ⟨j, hj, hoid, d, hd⟩ := h i hold c hfound parent hparent
    exact ⟨j, hj, hoid, d, hkept hd⟩

/-- Commits that were added are stored. -/
theorem commit?_of_mem_added {steps : List Step} (hfew : (build steps).count < 2 ^ 64) {c : Commit}
    (hadded : Object.commit c ∈ added {} steps) : (build steps).commit? c.oid = some c := by
  induction steps using List.reverseRecOn with
  | nil => cases hadded
  | append_singleton steps step ih =>
      have hcount := count_apply (build steps) step
      rw [build_concat] at hfew ⊢
      rw [added_concat, List.mem_append, Option.mem_toList] at hadded
      rcases hadded with hbefore | hnow
      · exact (isNumbered_build steps).commit?_apply_of_some step (by omega) (ih (by omega) hbefore)
      · rw [commit?_eq_some_iff, object_eq_ok_iff]
        exact (isNumbered_build steps).lookup_added hnow (by omega)

/-- **Every run that commits parents first leaves a store in which all parents are stored.** -/
theorem hasParents_build {steps : List Step} (hfew : (build steps).count < 2 ^ 64) (hparents : ParentsFirst steps) :
    (build steps).HasParents := by
  induction steps using List.reverseRecOn with
  | nil =>
      intro i _ c hfound
      cases hfound
  | append_singleton steps step ih =>
      have hcount := count_apply (build steps) step
      rw [build_concat] at hfew ⊢
      obtain ⟨hsteps, hlast⟩ := (parentsFirst_concat_iff steps step).1 hparents
      refine (ih (by omega) hsteps).apply (isNumbered_build steps) (fun parent hparent => ?_) (by omega)
      obtain ⟨c, hadded, rfl⟩ := hlast parent hparent
      exact ⟨c, commit?_of_mem_added (by omega) hadded⟩

/-! ## Lineages -/

/-- The commits from a commit on, each the stored first parent of the one before it, down to one without
parents. -/
inductive Lineage (store : Store) : Commit → List Commit → Prop where
  | root {c : Commit} (hroot : c.parents = []) : Lineage store c [c]
  | child {c d : Commit} {commits : List Commit} (hfirst : c.parents.head? = some d.oid)
      (hstored : store.object d.oid = .ok (.commit d)) (hrest : Lineage store d commits) :
      Lineage store c (c :: commits)

namespace Lineage

variable {c : Commit} {commits : List Commit}

theorem exists_cons (h : store.Lineage c commits) : ∃ older, commits = c :: older := by
  cases h with
  | root => exact ⟨[], rfl⟩
  | child => exact ⟨_, rfl⟩

/-- All commits of a lineage are stored. -/
theorem mem_objects (h : store.Lineage c commits) (hfound : store.object c.oid = .ok (.commit c)) :
    ∀ d ∈ commits, d.oid ∈ store.objects.map Prod.fst := by
  have hmem {d : Commit} (hd : store.object d.oid = .ok (.commit d)) : d.oid ∈ store.objects.map Prod.fst :=
    List.mem_map.2 ⟨_, mem_of_lookup (object_eq_ok_iff.1 hd), rfl⟩
  induction h with
  | root => simpa using hmem hfound
  | child _ hstored _ ih => exact List.forall_mem_cons.2 ⟨hmem hfound, ih hstored⟩

/-- Ids go down along a lineage. -/
theorem pairwise_text (h : store.Lineage c commits) (hparents : store.HasParents) (hfew : store.count < 2 ^ 64)
    (hnumbered : store.IsNumbered) (hfound : store.object c.oid = .ok (.commit c)) :
    commits.Pairwise fun c d => d.oid.text < c.oid.text := by
  induction h with
  | root => exact List.pairwise_singleton _ _
  | @child c d commits hfirst hstored hrest ih =>
      have hlater := ih hstored
      obtain ⟨i, hi, hoid⟩ := hnumbered.exists_number (commit?_eq_some_iff.2 hfound)
      rw [hoid] at hfound
      obtain ⟨j, hj, hoid', -⟩ := hparents i hi c (commit?_eq_some_iff.2 hfound) d.oid (List.mem_of_head? hfirst)
      have hless : d.oid.text < c.oid.text := by
        rw [hoid, hoid', text_idOf (by omega), text_idOf (by omega)]
        exact idText_lt hj (by omega)
      obtain ⟨older, rfl⟩ := hrest.exists_cons
      refine List.pairwise_cons.2 ⟨List.forall_mem_cons.2 ⟨hless, fun e he => ?_⟩, hlater⟩
      exact String.lt_trans (List.rel_of_pairwise_cons hlater he) hless

theorem next_run (c : Commit) (asked : Nat) :
    (store.repository.next (some c)).run asked = (some (.ok c, store.firstParent? c), asked) := rfl

theorem firstParent?_root (hroot : c.parents = []) : store.firstParent? c = none := by
  rw [firstParent?, hroot]
  rfl

theorem firstParent?_child {d : Commit} (hfirst : c.parents.head? = some d.oid)
    (hstored : store.object d.oid = .ok (.commit d)) : store.firstParent? c = some d := by
  rw [firstParent?, hfirst]
  exact commit?_eq_some_iff.2 hstored

/-- A walk yields the commits of the lineage, and then nothing more. -/
theorem take_run (h : store.Lineage c commits) (n asked : Nat) :
    (store.repository.take n (some c)).run asked = ((commits.take n).map .ok, asked) := by
  induction h generalizing n with
  | root hroot =>
      cases n with
      | zero => rfl
      | succ n =>
          simp only [Repository.take, run_bind, next_run, firstParent?_root hroot]
          cases n <;> rfl
  | child hfirst hstored _ ih =>
      cases n with
      | zero => rfl
      | succ n =>
          simp only [Repository.take, run_bind, next_run, firstParent?_child hfirst hstored, ih n]
          rfl

/-- The commits are collected if there is room for them. -/
theorem collect_run (h : store.Lineage c commits) {n : Nat} (hroom : commits.length ≤ n) (asked : Nat) :
    (store.repository.collect n (some c)).run asked = (.ok commits, asked) := by
  induction h generalizing n with
  | root hroot =>
      obtain ⟨n, rfl⟩ := Nat.exists_eq_add_of_le' hroom
      simp only [List.length_singleton, Repository.collect, run_bind, next_run, firstParent?_root hroot]
      cases n <;> rfl
  | child hfirst hstored _ ih =>
      obtain ⟨n, rfl⟩ := Nat.exists_eq_add_of_le' (Nat.le_of_add_left_le hroom)
      simp only [Repository.collect, run_bind, next_run, firstParent?_child hfirst hstored, ih (by simpa using hroom)]
      rfl

end Lineage

/-- From every stored commit there is a lineage. -/
theorem exists_lineage (hsound : store.IsSound) (hparents : store.HasParents) {i : Nat} (hi : i ≤ store.count)
    {c : Commit} (hfound : store.commit? (idOf i) = some c) : ∃ commits, store.Lineage c commits := by
  induction i using Nat.strongRecOn generalizing c with
  | ind i ih =>
      cases hlist : c.parents with
      | nil => exact ⟨[c], .root hlist⟩
      | cons parent others =>
          have hmem : parent ∈ c.parents := by simp [hlist]
          obtain ⟨j, hj, rfl, d, hd⟩ := hparents i hi c hfound parent hmem
          obtain ⟨commits, hrest⟩ := ih j hj (by omega) hd
          have hobject := commit?_eq_some_iff.1 hd
          have hoid : d.oid = idOf j := hsound.oid_eq hobject
          rw [← hoid] at hobject hlist
          exact ⟨c :: commits, .child (by rw [hlist]; rfl) hobject hrest⟩

/-- **The walk over first parents ends.**  In a store that was built with parents before their children, with fewer
than `2 ^ 64` ids, from every commit there is a lineage.  Its ids go down, so no commit is in it twice, and it is all
that the walk from the commit yields. -/
theorem walk_build {steps : List Step} (hfew : (build steps).count < 2 ^ 64) (hparents : ParentsFirst steps)
    {oid : ObjectId} {c : Commit} (hfound : (build steps).object oid = .ok (.commit c)) (asked : Nat) :
    ∃ commits, (build steps).Lineage c commits ∧
      (commits.Pairwise fun c d => d.oid.text < c.oid.text) ∧ (commits.map Commit.oid).Nodup ∧
      ((build steps).repository.walk oid).run asked = (.ok (some c), asked) ∧
      (∀ n, ((build steps).repository.take n (some c)).run asked = ((commits.take n).map .ok, asked)) ∧
      ((build steps).repository.history oid).run asked = (.ok commits, asked) := by
  have hsound := isSound_build steps
  have hnumbered := isNumbered_build steps
  have hstored := hasParents_build hfew hparents
  obtain rfl : c.oid = oid := hsound.oid_eq hfound
  have hcommit := commit?_eq_some_iff.2 hfound
  obtain ⟨i, hi, hoid⟩ := hnumbered.exists_number hcommit
  obtain ⟨commits, hlineage⟩ := exists_lineage hsound hstored hi (hoid ▸ hcommit)
  have hdown := hlineage.pairwise_text hstored hfew hnumbered hfound
  have hnodup : (commits.map Commit.oid).Nodup := by
    refine List.pairwise_map.2 (hdown.imp fun hless heq => ?_)
    rw [heq] at hless
    exact String.lt_irrefl _ hless
  have hwalk : ((build steps).repository.walk c.oid).run asked = (.ok (some c), asked) := by
    simp only [repository, hcommit]
    rfl
  -- the commits are different entries of the store, so the bound of the walk leaves room for all of them
  have hroom : commits.length ≤ (build steps).objects.length := by
    have hsubset : commits.map Commit.oid ⊆ (build steps).objects.map Prod.fst := by
      intro oid hmem
      obtain ⟨d, hd, rfl⟩ := List.mem_map.1 hmem
      exact hlineage.mem_objects hfound d hd
    have hlength := (List.subperm_of_subset hnodup hsubset).length_le
    rwa [List.length_map, List.length_map] at hlength
  refine ⟨commits, hlineage, hdown, hnodup, hwalk, fun n => hlineage.take_run n asked, ?_⟩
  rw [Repository.history, run_bind, hwalk]
  exact hlineage.collect_run hroom asked

/-- Steps that commit a merge with a tag in between. -/
def merging : List Step :=
  [.commit "Start" ⟨0, 0, 0⟩ [], .tag "v1" (idOf 1) none, .commit "Side" ⟨0, 0, 0⟩ [idOf 1],
    .commit "Merge" ⟨0, 0, 0⟩ [idOf 3, idOf 1]]

theorem parentsFirst_merging : ParentsFirst merging := by
  have hstart : ParentsFirst (merging.take 1) :=
    (parentsFirst_concat_iff [] _).2 ⟨parentsFirst_nil, List.forall_mem_nil _⟩
  have htag : ParentsFirst (merging.take 2) := (parentsFirst_concat_iff _ _).2 ⟨hstart, List.forall_mem_nil _⟩
  have hside : ParentsFirst (merging.take 3) :=
    (parentsFirst_concat_iff _ _).2 ⟨htag, List.forall_mem_singleton.2 ⟨_, .head _, rfl⟩⟩
  exact (parentsFirst_concat_iff (merging.take 3) _).2 ⟨hside, List.forall_mem_cons.2
    ⟨⟨_, .tail _ (.tail _ (.head _)), rfl⟩, List.forall_mem_singleton.2 ⟨_, .head _, rfl⟩⟩⟩

theorem walk_build_merging :
    ParentsFirst merging ∧ ∃ c commits, (build merging).object (idOf 4) = .ok (.commit c) ∧
      c.parents = [idOf 3, idOf 1] ∧ (build merging).Lineage c commits ∧
        ((build merging).repository.history (idOf 4)).run 0 = (.ok commits, 0) := by
  have hparents := parentsFirst_merging
  have hfound : (build merging).object (idOf 4) =
      .ok (.commit (addCommit "Merge" ⟨0, 0, 0⟩ [idOf 3, idOf 1] (build (merging.take 3))).1) :=
    object_eq_ok_iff.2 List.lookup_cons_self
  obtain ⟨commits, hlineage, -, -, -, -, hhistory⟩ := walk_build (by decide) hparents hfound 0
  exact ⟨hparents, _, commits, hfound, rfl, hlineage, hhistory⟩

end Store

end ReleasePress.Git
