import Mathlib.Tactic.Common
import ReleasePress.Filter.Library
import ReleasePress.Git.WorkTree
import ReleasePress.Proofs.Environment

/-! # The ancestors of a commit in a work tree

A work tree walks the ancestors of a commit by one run of the executable that lists ids, a line each, and
one more run for each line to read the commit. The exit code of the listing is never looked at: what the
walk yields is a function of the lines alone (`Git.WorkTree.take_run`), and the filter `commits` gives nil
exactly when some line of it cannot be read (`FilterLibrary.commits_listing`). -/

namespace ReleasePress

open ReleasePress.Git ReleasePress.Text

namespace Git.WorkTree

/-! ## What the walk starts -/

/-- What the executable is started with for the kind of the object with an id. -/
def kindQuery (tree : WorkTree) (oid : ObjectId) : Invocation :=
  Command.invocation { Command.objectKind oid with directory := some tree.path }

/-- What the executable is started with to list the ancestors of a commit. -/
def listing (tree : WorkTree) (oid : ObjectId) : Invocation :=
  Command.invocation { Command.ancestors oid with directory := some tree.path }

/-- What the executable is started with to read a commit. -/
def reading (tree : WorkTree) (oid : ObjectId) : Invocation :=
  Command.invocation { Command.contents .commit oid with directory := some tree.path }

/-- The invocations that reading the commits of some lines takes, last one first. A line that holds no id
takes none. -/
def readings (tree : WorkTree) (lines : List (Option String)) : List Invocation :=
  ((lines.filterMap fun line => line.bind fun text => ObjectId.parse? (trimmed text)).map
    tree.reading).reverse

/-- What reading a commit gives once the invocations `past` were made. -/
def told (executable : Executable) (tree : WorkTree) (past : List Invocation) (oid : ObjectId) :
    Except RepositoryError Commit :=
  let outcome := executable past (tree.reading oid)
  if outcome.code = 0 then Commit.ofRaw oid (Utf8.decodeLossy outcome.stdout)
  else .error (.commandFailed (Command.contents .commit oid).line (Utf8.decodeLossy outcome.stderr))

/-- The item of a line of the listing once the invocations `past` were made. -/
def itemOn (executable : Executable) (tree : WorkTree) (past : List Invocation) :
    Option String → Except RepositoryError Commit
  | none => .error (.pipe .invalidText)
  | some text =>
    match ObjectId.ofText (trimmed text) with
    | .error e => .error e
    | .ok oid => told executable tree past oid

/-- The items of the lines of the listing, each read after those before it. -/
def items (executable : Executable) (tree : WorkTree) :
    List Invocation → List (Option String) → List (Except RepositoryError Commit)
  | _, [] => []
  | past, line :: lines =>
    itemOn executable tree past line :: items executable tree (readings tree [line] ++ past) lines

variable (executable : Executable) (tree : WorkTree) (past : List Invocation)

theorem readings_cons (line : Option String) (lines : List (Option String)) :
    readings tree (line :: lines) = readings tree lines ++ readings tree [line] := by
  cases hline : (line.bind fun text => ObjectId.parse? (trimmed text)) with
  | none => simp [readings, hline]
  | some oid => simp [readings, hline]

theorem length_items (lines : List (Option String)) :
    (items executable tree past lines).length = lines.length := by
  induction lines generalizing past with
  | nil => rfl
  | cons line lines ih => simp [items, ih]

/-- Each item is read after the commits of all lines before its own. -/
theorem getElem_items (lines : List (Option String)) (i : Nat) (hi : i < lines.length) :
    (items executable tree past lines)[i]? =
      some (itemOn executable tree (readings tree (lines.take i) ++ past) lines[i]) := by
  induction lines generalizing past i with
  | nil => simp at hi
  | cons line lines ih =>
      cases i with
      | zero => simp [items, readings]
      | succ i =>
          have hrest := ih (readings tree [line] ++ past) i (by simpa using hi)
          rw [← List.append_assoc, ← readings_cons] at hrest
          simpa [items] using hrest

/-! ## Running the executable -/

/-- Whether the executable can be started in the work tree at all. -/
def isReachable (tree : WorkTree) : Bool :=
  !tree.path.toList.contains '\x00'

theorem not_mem_text (oid : ObjectId) : '\x00' ∉ oid.text.toList := by
  have hvalid := oid.valid
  simp only [isObjectId, Bool.and_eq_true, List.all_eq_true] at hvalid
  intro hmem
  exact absurd (hvalid.1 _ hmem) (by decide)

theorem isStartable_kindQuery (oid : ObjectId) :
    Command.isStartable (tree.kindQuery oid) = tree.isReachable := by
  simp [Command.isStartable, kindQuery, Command.invocation, Command.objectKind, not_mem_text,
    isReachable]

theorem isStartable_listing (oid : ObjectId) :
    Command.isStartable (tree.listing oid) = tree.isReachable := by
  simp [Command.isStartable, listing, Command.invocation, Command.ancestors, not_mem_text, isReachable]

theorem isStartable_reading (oid : ObjectId) :
    Command.isStartable (tree.reading oid) = tree.isReachable := by
  simp [Command.isStartable, reading, Command.invocation, Command.contents, ObjectKind.name,
    not_mem_text, isReachable]

theorem start_run (command : Command) (h : Command.isStartable command.invocation = true) :
    (command.start executable).run past =
      (.ok (executable past command.invocation), command.invocation :: past) := by
  simp only [Command.start, h]
  rfl

theorem start_run_error (command : Command) (h : Command.isStartable command.invocation = false) :
    (command.start executable).run past = (.error (.pipe .zeroByte), past) := by
  simp only [Command.start, h]
  rfl

/-- A command in the top directory gives what it prints if the executable exits with zero. -/
theorem output_run (command : Command) (invocation : Invocation)
    (hinvocation : Command.invocation { command with directory := some tree.path } = invocation)
    (h : Command.isStartable invocation = true) :
    (tree.output executable command).run past =
      (if (executable past invocation).code = 0 then
          .ok (Utf8.decodeLossy (executable past invocation).stdout)
        else .error (.commandFailed command.line
          (Utf8.decodeLossy (executable past invocation).stderr)),
        invocation :: past) := by
  subst hinvocation
  simp only [output, Command.run, run_bind, start_run executable past _ h]
  by_cases hcode : (executable past
      (Command.invocation { command with directory := some tree.path })).code = 0
  · simp only [hcode, if_true, run_pure]
  · simp only [hcode, if_false, run_pure]
    rfl

/-- A kind that is told was asked for, so the executable could be started. -/
theorem objectKind_run {oid : ObjectId} {kind : ObjectKind}
    (hkind : ((tree.objectKind executable oid).run past).1 = .ok kind) :
    tree.isReachable = true ∧
      ((tree.objectKind executable oid).run past).2 = tree.kindQuery oid :: past := by
  cases hreach : tree.isReachable with
  | true =>
      have hrun := output_run executable tree past (Command.objectKind oid) (tree.kindQuery oid) rfl
        (by rw [isStartable_kindQuery, hreach])
      refine ⟨rfl, ?_⟩
      simp only [objectKind, run_bind, hrun]
      split <;> rfl
  | false =>
      have hstart := start_run_error executable past
        { Command.objectKind oid with directory := some tree.path }
        (by rw [← hreach, ← isStartable_kindQuery tree oid]; rfl)
      simp only [objectKind, output, Command.run, run_bind, hstart] at hkind
      cases hkind

/-! ## The walk -/

theorem commit_run (oid : ObjectId) (hreach : tree.isReachable = true) :
    (tree.commit executable oid).run past =
      (told executable tree past oid, tree.reading oid :: past) := by
  have hrun := output_run executable tree past (Command.contents .commit oid) (tree.reading oid) rfl
    (by rw [isStartable_reading, hreach])
  simp only [commit, run_bind, hrun, told]
  by_cases hcode : (executable past (tree.reading oid)).code = 0
  · simp only [hcode, if_true, run_pure]
  · simp only [hcode, if_false, run_pure]

theorem next_run (line : Option String) (rest : List (Option String))
    (hreach : tree.isReachable = true) :
    (tree.next executable (line :: rest)).run past =
      (some (itemOn executable tree past line, rest), readings tree [line] ++ past) := by
  cases line with
  | none => rfl
  | some text =>
      cases hid : ObjectId.parse? (trimmed text) with
      | none =>
          simp only [next, itemOn, readings, ObjectId.ofText, hid]
          simp [hid]
          rfl
      | some oid =>
          simp only [next, itemOn, readings, ObjectId.ofText, hid, run_bind, run_pure,
            commit_run executable tree past oid hreach]
          simp [hid]

/-- A walk yields the items of as many lines as are asked for. -/
theorem take_run_of_reachable (files : FileTree) (n : Nat) (lines : List (Option String))
    (hreach : tree.isReachable = true) :
    ((tree.repository executable files).take n lines).run past =
      (items executable tree past (lines.take n), readings tree (lines.take n) ++ past) := by
  induction lines generalizing past n with
  | nil => cases n <;> rfl
  | cons line lines ih =>
      cases n with
      | zero => rfl
      | succ n =>
          have hnext : ((tree.repository executable files).next (line :: lines)).run past = _ :=
            next_run executable tree past line lines hreach
          have hrest := ih (readings tree [line] ++ past) n
          simp only [Repository.take, run_bind, hnext, hrest, run_pure, List.take_succ_cons, items]
          rw [readings_cons tree line (lines.take n), List.append_assoc]

/-- A walk that is drained yields the items of its lines. -/
theorem take_run (files : FileTree) (lines : List (Option String)) (hreach : tree.isReachable = true) :
    ((tree.repository executable files).take lines.length lines).run past =
      (items executable tree past lines, readings tree lines ++ past) := by
  rw [take_run_of_reachable executable tree past files lines.length lines hreach, List.take_length]

/-- The commits of a walk are its items, or the first of its failures. -/
theorem collect_run (files : FileTree) (lines : List (Option String))
    (hreach : tree.isReachable = true) :
    (((tree.repository executable files).collect lines.length lines).run past).1 =
      (items executable tree past lines).mapM id := by
  induction lines generalizing past with
  | nil => rfl
  | cons line lines ih =>
      have hnext : ((tree.repository executable files).next (line :: lines)).run past = _ :=
        next_run executable tree past line lines hreach
      have hrest := ih (readings tree [line] ++ past)
      simp only [List.length_cons, Repository.collect, run_bind, hnext, items, List.mapM_cons, id]
      cases hitem : itemOn executable tree past line with
      | error e => rfl
      | ok commit =>
          simp only [run_bind, ← hrest]
          cases ((tree.repository executable files).collect lines.length lines).run
            (readings tree [line] ++ past) with
          | mk answer asked => cases answer <;> rfl

theorem mapM_id_of_error {ε α : Type} {items : List (Except ε α)} {e : ε} (hmem : .error e ∈ items) :
    ∃ e', items.mapM id = .error e' := by
  induction items with
  | nil => simp at hmem
  | cons item items ih =>
      rw [List.mapM_cons]
      cases item with
      | error e' => exact ⟨e', rfl⟩
      | ok value =>
          have hrest : .error e ∈ items := by simpa using hmem
          obtain ⟨e', he'⟩ := ih hrest
          exact ⟨e', by rw [he']; rfl⟩

theorem mapM_id_map_ok {ε α : Type} (values : List α) :
    (values.map (@Except.ok ε α)).mapM id = .ok values := by
  induction values with
  | nil => rfl
  | cons value values ih =>
      rw [List.map_cons, List.mapM_cons, ih]
      rfl

/-- Items hold a failure or are all values. -/
theorem error_mem_or_eq_map_ok {ε α : Type} (items : List (Except ε α)) :
    (∃ e, .error e ∈ items) ∨ ∃ values : List α, items = values.map .ok := by
  induction items with
  | nil => exact .inr ⟨[], rfl⟩
  | cons item items ih =>
      cases item with
      | error e => exact .inl ⟨e, by simp⟩
      | ok value =>
          rcases ih with ⟨e, he⟩ | ⟨values, hvalues⟩
          · exact .inl ⟨e, by simp [he]⟩
          · exact .inr ⟨value :: values, by simp [hvalues]⟩

/-- The lines of the listing of the ancestors of a commit whose kind is asked for first. -/
def lines (oid : ObjectId) : List (Option String) :=
  byteLines [] (executable (tree.kindQuery oid :: past) (tree.listing oid)).stdout.toList

/-- What was started before the first line is read. -/
def begun (oid : ObjectId) : List Invocation :=
  tree.listing oid :: tree.kindQuery oid :: past

theorem walk_run {oid : ObjectId}
    (hkind : ((tree.objectKind executable oid).run past).1 = .ok .commit) :
    (tree.walk executable oid).run past =
      (.ok (lines executable tree past oid), begun tree past oid) := by
  obtain ⟨hreach, hasked⟩ := objectKind_run executable tree past hkind
  have hstart := start_run executable (tree.kindQuery oid :: past)
    { Command.ancestors oid with directory := some tree.path }
    (by rw [← hreach, ← isStartable_listing tree oid]; rfl)
  simp only [walk, run_bind, hkind, hasked, ne_eq, not_true_eq_false, if_false, hstart]
  rfl

/-- The history of a commit is what the lines of its listing give, whatever the listing exits with. -/
theorem history_run (files : FileTree) {oid : ObjectId}
    (hkind : ((tree.objectKind executable oid).run past).1 = .ok .commit) :
    (((tree.repository executable files).history oid).run past).1 =
      (items executable tree (begun tree past oid) (lines executable tree past oid)).mapM id := by
  have hwalk : ((tree.repository executable files).walk oid).run past = _ :=
    walk_run executable tree past hkind
  have hreach := (objectKind_run executable tree past hkind).1
  simp only [Repository.history, run_bind, hwalk]
  exact collect_run executable tree (begun tree past oid) files _ hreach

/-- Some line of a listing yields no commit when it is read after those before it. -/
def Breaks (executable : Executable) (tree : WorkTree) (past : List Invocation)
    (lines : List (Option String)) : Prop :=
  ∃ (i : Nat) (hi : i < lines.length),
    ∀ commit, itemOn executable tree (readings tree (lines.take i) ++ past) lines[i] ≠ .ok commit

theorem breaks_iff (lines : List (Option String)) :
    Breaks executable tree past lines ↔ ∃ e, .error e ∈ items executable tree past lines := by
  constructor
  · rintro ⟨i, hi, hbroken⟩
    have hitem := getElem_items executable tree past lines i hi
    cases hvalue : itemOn executable tree (readings tree (lines.take i) ++ past) lines[i] with
    | error e => exact ⟨e, List.mem_of_getElem? (hvalue ▸ hitem)⟩
    | ok commit => exact absurd hvalue (hbroken commit)
  · rintro ⟨e, he⟩
    obtain ⟨i, hi, hitem⟩ := List.mem_iff_getElem.1 he
    have hlines : i < lines.length := by rwa [length_items] at hi
    refine ⟨i, hlines, fun commit hcommit => ?_⟩
    have hitem' := getElem_items executable tree past lines i hlines
    rw [List.getElem?_eq_getElem hi, hitem, hcommit] at hitem'
    cases hitem'

end Git.WorkTree

namespace FilterLibrary

open Git.WorkTree

/-- The object whose ancestors `commits` lists for a subject, and the state in which it begins to: a
pointer is looked up first, and any other object is taken as it is. -/
inductive Lists {σ : Type} (library : FilterLibrary σ) :
    Value → FilterState σ → Object → FilterState σ → Prop
  | object {object : Object} {s : FilterState σ} (hpointer : ∀ pointer, object ≠ .pointer pointer) :
      Lists library (.object object) s object s
  | pointer {pointer : Pointer} {object : Object} {s s' : FilterState σ}
      (hfound : (ask (library.repository.object pointer.oid)).run s = (.ok object, s')) :
      Lists library (.object (.pointer pointer)) s object s'

theorem Lists.call_run {σ : Type} {library : FilterLibrary σ} {subject : Value} {object : Object}
    {s s' : FilterState σ} (hlists : library.Lists subject s object s') :
    ((library.call .commits subject []).run s).1 = .ok ((library.ancestors object).run s').1 := by
  cases hlists with
  | object hpointer =>
      cases object with
      | pointer pointer => exact absurd rfl (hpointer pointer)
      | commit commit => rfl
      | tag tag => rfl
      | note note => rfl
  | pointer hfound =>
      simp only [call, answer, commits, run_bind, hfound]
      rfl

theorem ancestors_run {σ : Type} {library : FilterLibrary σ} {object : Object} {start : ObjectId}
    (hstart : startOf object = some start) (s : FilterState σ) :
    ((library.ancestors object).run s).1 =
      match ((library.repository.history start).run s.repository).1 with
      | .ok commits => .sequence (commits.map fun commit => .object (.commit commit))
      | .error _ => .nil := by
  have hask : ((ask (library.repository.history start)).run s).1 =
      ((library.repository.history start).run s.repository).1 := rfl
  simp only [ancestors, hstart, run_bind, hask]
  cases ((library.repository.history start).run s.repository).1 with
  | ok commits => rfl
  | error e => rfl

/-- What `commits` makes of a listing, whatever the listing exits with: the drained walk holds a failure,
and the filter gives nil, exactly when the listing breaks at some line. A listing that does not break is
taken for the whole history. -/
theorem commits_listing {executable : Executable} {files : FileTree} {tree : WorkTree}
    {library : FilterLibrary (List Invocation)} {subject : Value} {object : Object} {start : ObjectId}
    {s s' : FilterState (List Invocation)}
    (hrepository : library.repository = tree.repository executable files)
    (hlists : library.Lists subject s object s') (hstart : startOf object = some start)
    (hkind : ((tree.objectKind executable start).run s'.repository).1 = .ok .commit) :
    let lines := WorkTree.lines executable tree s'.repository start
    let begun := WorkTree.begun tree s'.repository start
    let drained := (((tree.repository executable files).take lines.length lines).run begun).1
    let answer := ((library.call .commits subject []).run s).1
    ((tree.repository executable files).walk start).run s'.repository = (.ok lines, begun) ∧
      ((∃ e, .error e ∈ drained) ↔ Breaks executable tree begun lines) ∧
      (answer = .ok .nil ↔ Breaks executable tree begun lines) ∧
      (¬Breaks executable tree begun lines → ∃ commits : List Commit, drained = commits.map .ok ∧
        answer = .ok (.sequence (commits.map fun commit => .object (.commit commit)))) := by
  intro lines begun drained answer
  have hreach := (objectKind_run executable tree s'.repository hkind).1
  have hdrained : drained = items executable tree begun lines := by
    simp only [drained, take_run executable tree begun files lines hreach]
  have hanswer : answer = .ok (match (items executable tree begun lines).mapM id with
      | .ok commits => .sequence (commits.map fun commit => .object (.commit commit))
      | .error _ => .nil) := by
    simp only [answer, hlists.call_run, ancestors_run hstart, hrepository,
      history_run executable tree s'.repository files hkind]
    rfl
  rw [breaks_iff, hdrained, hanswer]
  refine ⟨walk_run executable tree s'.repository hkind, Iff.rfl, ?_, fun hwhole => ?_⟩
  · rcases error_mem_or_eq_map_ok (items executable tree begun lines) with ⟨e, he⟩ | ⟨commits, hcommits⟩
    · obtain ⟨e', he'⟩ := mapM_id_of_error he
      rw [he']
      exact ⟨fun _ => ⟨e, he⟩, fun _ => rfl⟩
    · rw [hcommits, mapM_id_map_ok]
      simp
  · rcases error_mem_or_eq_map_ok (items executable tree begun lines) with hbroken | ⟨commits, hcommits⟩
    · exact absurd hbroken hwhole
    · exact ⟨commits, hcommits, by rw [hcommits, mapM_id_map_ok]⟩

/-- An executable that tells a commit of every object and fails to list ancestors. -/
def failing : Executable := fun _ invocation =>
  if invocation.arguments.contains "rev-list" then ⟨.empty, .empty, 128⟩
  else ⟨"commit\n".toUTF8, .empty, 0⟩

/-- A work tree with the filters that ask it through `failing`. -/
def failingTree : WorkTree := ⟨"/work", defaultAliasFile⟩

def failingLibrary : FilterLibrary (List Invocation) where
  toCircumstances := Environment.calm
  repository := failingTree.repository failing ⟨.directory [], "/"⟩
  notesRef := none
  dates := ⟨DateFormat.standard, by rfl⟩

/-- A tag on a commit, of which only the id matters. -/
def taggedCommit : Object :=
  .tag ⟨ObjectId.emptyTree, "v1", ⟨ObjectId.emptyTree, .commit⟩, none, ""⟩

theorem commits_failing_listing :
    (failing [failingTree.kindQuery ObjectId.emptyTree] (failingTree.listing ObjectId.emptyTree)).code =
        128 ∧
      ((failingTree.walk failing ObjectId.emptyTree).run []).1 = .ok [] ∧
      ((failingLibrary.call .commits (.object taggedCommit) []).run { repository := [] }).1 =
        .ok (.sequence []) := by
  have hlists : failingLibrary.Lists (.object taggedCommit) { repository := [] } taggedCommit
      { repository := [] } := .object (by intro pointer hpointer; cases hpointer)
  have hnone : WorkTree.lines failing failingTree [] ObjectId.emptyTree = [] := by
    have hempty : ByteArray.empty.toList = [] := by
      rw [ByteArray.toList, ByteArray.toList.loop]
      rfl
    show byteLines [] ByteArray.empty.toList = []
    rw [hempty]
    rfl
  have hhistory : ((failingLibrary.repository.history ObjectId.emptyTree).run []).1 = .ok [] := by
    rw [failingLibrary, history_run failing failingTree [] ⟨.directory [], "/"⟩ rfl, hnone]
    rfl
  refine ⟨rfl, ?_, ?_⟩
  · rw [walk_run failing failingTree [] rfl, hnone]
  · rw [hlists.call_run, ancestors_run rfl, hhistory]
    rfl

theorem commits_listing_failing :
    (((failingLibrary.call .commits (.object taggedCommit) []).run { repository := [] }).1 = .ok .nil ↔
      Breaks failing failingTree (WorkTree.begun failingTree [] ObjectId.emptyTree)
        (WorkTree.lines failing failingTree [] ObjectId.emptyTree)) :=
  by
  have hrepository : failingLibrary.repository =
      failingTree.repository failing ⟨.directory [], "/"⟩ := rfl
  have hlists : failingLibrary.Lists (.object taggedCommit) { repository := [] } taggedCommit
      { repository := [] } := .object (by intro pointer hpointer; cases hpointer)
  exact (commits_listing hrepository hlists rfl rfl).2.2.1

end FilterLibrary

end ReleasePress
