import ReleasePress.Proofs.Git.Encoding
import ReleasePress.Proofs.Git.Signature
import ReleasePress.Proofs.Text.Lines

/-!
# Raw objects are read back

Git writes an object as header lines, an empty line and the message.  A header holds the object's own
fields in a fixed order; fields of other keys and lines that go on with a field may stand anywhere
between them.  `Commit.IsWrittenBy` and `Tag.IsWrittenBy` say that a header is of this form, and
`ofRaw_rawText` that the object is read back from it, whatever the message is.

No header line is empty, so the first empty line is the one before the message, and every header line is
told from the others by its first word alone.  That is all that keeps a message or a line of a signature
that looks like a field from being taken for one.
-/

namespace ReleasePress.Git

open ReleasePress.Text

/-! ## Header lines -/

/-- A line of a header: a field, or a line that goes on with the field before it. -/
inductive HeaderLine where
  | field (key value : List Char)
  | continuation (text : List Char)

namespace HeaderLine

def text : HeaderLine → List Char
  | field key value => key ++ ' ' :: value
  | continuation text => ' ' :: text

/-- The key and the value of a field. -/
def field? : HeaderLine → Option (List Char × List Char)
  | field key value => some (key, value)
  | continuation _ => none

/-- A line as Git writes it: the key is a word, and the line holds no mark of its own end. -/
structure IsPlain (line : HeaderLine) : Prop where
  key : ∀ f ∈ line.field?, f.1 ≠ [] ∧ ' ' ∉ f.1
  notMem_feed : '\n' ∉ line.text
  notMem_return : '\r' ∉ line.text

theorem IsPlain.isLine {line : HeaderLine} (h : line.IsPlain) : IsLine line.text where
  ne_nil := by cases line <;> simp [text]
  notMem := h.notMem_feed
  getLast?_ne heq := h.notMem_return (List.mem_of_getLast? heq)

/-- The first word of a line decides: a field is cut after its key, and any other line starts with the
space that a key does not hold. -/
theorem IsPlain.read {line : HeaderLine} (h : line.IsPlain) :
    (if line.text.head? ≠ some ' ' then cutAt? [' '] line.text else none) = line.field? := by
  cases line with
  | continuation text => rfl
  | field key value =>
      obtain ⟨hne, hspace⟩ := h.key (key, value) rfl
      have hcut : cutAt? [' '] (key ++ ' ' :: value) = some (key, value) :=
        cutAt?_eq_some_iff.2 ⟨rfl, hspace⟩
      obtain ⟨c, key, rfl⟩ := List.exists_cons_of_ne_nil hne
      have hc : c ≠ ' ' := fun heq => hspace (heq ▸ List.mem_cons_self)
      rw [if_pos (by simpa [text] using hc)]
      exact hcut

end HeaderLine

/-- A raw object: the header lines, an empty line and the message. -/
def rawText (header : List HeaderLine) (message : String) : String :=
  String.ofList ((header.map HeaderLine.text).flatMap (· ++ ['\n']) ++ '\n' :: message.toList)

/-- **Fields and message are told apart.** -/
theorem splitRaw_rawText {header : List HeaderLine} (hne : header ≠ [])
    (h : ∀ line ∈ header, line.IsPlain) (message : String) :
    splitRaw (rawText header message).toList = (header.filterMap HeaderLine.field?, message.toList) := by
  have hlines : ∀ line ∈ header.map HeaderLine.text, IsLine line := by
    intro line hline
    obtain ⟨l, hl, rfl⟩ := List.mem_map.1 hline
    exact (h l hl).isLine
  have hfields : ((header.map HeaderLine.text).filter fun line => line.head? ≠ some ' ').filterMap
      (cutAt? [' ']) = header.filterMap HeaderLine.field? := by
    rw [← List.filterMap_eq_filter, List.filterMap_filterMap, List.filterMap_map]
    refine List.filterMap_congr fun line hline => ?_
    rw [← (h line hline).read]
    by_cases hhead : line.text.head? = some ' ' <;> simp [Option.guard, hhead]
  have hcut := cutAt?_blankLine (by simpa using hne) hlines message.toList
  rw [rawText, String.toList_ofList, splitRaw, hcut]
  simp only [Option.getD_some, lines_intercalate hlines, hfields]

/-! ## The first line of a message -/

/-- `line` is the first line of a text: what stands before the first line end, or all of a text without
one. -/
def IsFirstLine (line text : List Char) : Prop :=
  '\n' ∉ line ∧
    (text = line ∨ (line.getLast? ≠ some '\r' ∧ ∃ rest, text = line ++ '\n' :: rest) ∨
      ∃ rest, text = line ++ '\r' :: '\n' :: rest)

theorem firstLine_append {line : List Char} (h : '\n' ∉ line) (rest : List Char) :
    firstLine (line ++ '\n' :: rest) = dropReturn line := by
  rw [firstLine, lines, linesFrom_append h]
  rfl

theorem firstLine_of_notMem {line : List Char} (h : '\n' ∉ line) : firstLine line = line := by
  rw [firstLine, lines, linesFrom_of_notMem h]
  split
  · next hnil => simpa using hnil.symm
  · rfl

/-- A text has one first line, the one that is read. -/
theorem isFirstLine_iff {line text : List Char} : IsFirstLine line text ↔ firstLine text = line := by
  constructor
  · rintro ⟨hline, rfl | ⟨hreturn, rest, rfl⟩ | ⟨rest, rfl⟩⟩
    · exact firstLine_of_notMem hline
    · rw [firstLine_append hline, dropReturn_eq_self hreturn]
    · have hline' : '\n' ∉ line ++ ['\r'] := by simpa using hline
      have hfirst := firstLine_append hline' rest
      rwa [List.append_assoc, List.singleton_append, dropReturn_append_return] at hfirst
  · rintro rfl
    cases hcut : cutAt? ['\n'] text with
    | none =>
        have hline := cutAt?_eq_none_iff.1 hcut
        rw [firstLine_of_notMem hline]
        exact ⟨hline, .inl rfl⟩
    | some parts =>
        obtain ⟨rfl, hline⟩ := cutAt?_eq_some_iff.1 hcut
        rw [firstLine_append hline]
        by_cases hreturn : parts.1.getLast? = some '\r'
        · obtain ⟨line, hparts⟩ := List.getLast?_eq_some_iff.1 hreturn
          rw [hparts, dropReturn_append_return]
          rw [hparts] at hline
          exact ⟨fun hmem => hline (List.mem_append_left _ hmem), .inr (.inr ⟨parts.2, by simp⟩)⟩
        · rw [dropReturn_eq_self hreturn]
          exact ⟨hline, .inr (.inl ⟨hreturn, parts.2, rfl⟩)⟩

/-! ## Fields of their own and others -/

/-- Whether a field has one of the keys. -/
def isAmong (keys : List String) (field : List Char × List Char) : Bool :=
  keys.contains (String.ofList field.1)

section Fold

variable {σ : Type} {add : σ → List Char × List Char → Except RepositoryError σ} {s s' : σ}

theorem foldlM_cons_of_ok {field : List Char × List Char} (h : add s field = .ok s')
    (fields : List (List Char × List Char)) : (field :: fields).foldlM add s = fields.foldlM add s' := by
  rw [List.foldlM_cons, h]
  rfl

theorem foldlM_append_of_ok {front : List (List Char × List Char)} (h : front.foldlM add s = .ok s')
    (fields : List (List Char × List Char)) : (front ++ fields).foldlM add s = fields.foldlM add s' := by
  rw [List.foldlM_append, h]
  rfl

/-- Fields that a header takes no notice of can be left out. -/
theorem foldlM_filter {keys : List String} (hother : ∀ s field, isAmong keys field = false → add s field = .ok s)
    (fields : List (List Char × List Char)) (s : σ) :
    fields.foldlM add s = (fields.filter (isAmong keys)).foldlM add s := by
  induction fields generalizing s with
  | nil => rfl
  | cons field fields ih =>
      rw [List.foldlM_cons]
      by_cases hkey : isAmong keys field = true
      · rw [List.filter_cons_of_pos hkey, List.foldlM_cons]
        exact bind_congr ih
      · rw [List.filter_cons_of_neg hkey, hother s field (by simpa using hkey)]
        exact ih s

end Fold

theorem ObjectId.ofText_text (oid : ObjectId) : ObjectId.ofText oid.text = .ok oid := by
  rw [ObjectId.ofText, oid.parse?_text]

theorem ObjectKind.ofText_name (kind : ObjectKind) : ObjectKind.ofText kind.name = .ok kind := by
  rw [ObjectKind.ofText, ObjectKind.ofName?_name]

/-! ## Commits -/

namespace Commit

/-- The keys that a commit reads. -/
def keys : List String := ["tree", "parent", "author", "committer"]

/-- The fields of a commit in Git's order. -/
def headerFields (c : Commit) : List (List Char × List Char) :=
  (c.tree.toList.map fun tree => ("tree".toList, tree.text.toList)) ++
    (c.parents.map fun parent => ("parent".toList, parent.text.toList)) ++
    [("author".toList, c.author.headerText), ("committer".toList, c.committer.headerText)]

/-- `header` tells the commit: its own fields in order, with any others between them. -/
structure IsWrittenBy (c : Commit) (header : List HeaderLine) : Prop where
  lines : ∀ line ∈ header, line.IsPlain
  fields : (header.filterMap HeaderLine.field?).filter (isAmong keys) = c.headerFields
  author : c.author.IsPlain
  committer : c.committer.IsPlain
  summary : IsFirstLine c.summary.toList c.message.toList

end Commit

namespace CommitHeader

variable (header : CommitHeader)

theorem add_other {field : List Char × List Char} (h : isAmong Commit.keys field = false) :
    header.add field = .ok header := by
  unfold add
  split <;> simp_all [isAmong, Commit.keys, pure, Except.pure]

theorem add_tree (oid : ObjectId) :
    header.add ("tree".toList, oid.text.toList) = .ok { header with tree := some oid } := by
  simp [add, ObjectId.ofText_text, bind, Except.bind, pure, Except.pure]

theorem add_parent (oid : ObjectId) :
    header.add ("parent".toList, oid.text.toList) =
      .ok { header with parents := oid :: header.parents } := by
  simp [add, ObjectId.ofText_text, bind, Except.bind, pure, Except.pure]

theorem add_author {s : Signature} (h : s.IsPlain) :
    header.add ("author".toList, s.headerText) = .ok { header with author := some s } := by
  simp [add, Signature.ofRaw_headerText h, bind, Except.bind, pure, Except.pure]

theorem add_committer {s : Signature} (h : s.IsPlain) :
    header.add ("committer".toList, s.headerText) = .ok { header with committer := some s } := by
  simp [add, Signature.ofRaw_headerText h, bind, Except.bind, pure, Except.pure]

theorem foldlM_parents (parents : List ObjectId) :
    (parents.map fun parent => ("parent".toList, parent.text.toList)).foldlM add header =
      .ok { header with parents := parents.reverse ++ header.parents } := by
  induction parents generalizing header with
  | nil => rfl
  | cons parent parents ih =>
      rw [List.map_cons, foldlM_cons_of_ok (header.add_parent parent), ih]
      simp

/-- The own fields of a commit give its parts, the parents last one first. -/
theorem foldlM_headerFields {c : Commit} (hauthor : c.author.IsPlain) (hcommitter : c.committer.IsPlain) :
    c.headerFields.foldlM add {} =
      .ok ⟨c.tree, c.parents.reverse, some c.author, some c.committer⟩ := by
  have htree : (c.tree.toList.map fun tree => ("tree".toList, tree.text.toList)).foldlM add {} =
      .ok { tree := c.tree } := by
    cases c.tree with
    | none => rfl
    | some tree => exact foldlM_cons_of_ok (add_tree {} tree) []
  have hparents := foldlM_parents { tree := c.tree } c.parents
  rw [List.append_nil] at hparents
  rw [Commit.headerFields, List.append_assoc, foldlM_append_of_ok htree, foldlM_append_of_ok hparents,
    foldlM_cons_of_ok (add_author _ hauthor), foldlM_cons_of_ok (add_committer _ hcommitter)]
  rfl

end CommitHeader

theorem Commit.ofRaw_of_isWrittenBy {c : Commit} {header : List HeaderLine} (h : c.IsWrittenBy header) :
    Commit.ofRaw c.oid (rawText header c.message) = .ok c := by
  have hne : header ≠ [] := by
    rintro rfl
    have hlength := congrArg List.length h.fields
    simp [Commit.headerFields] at hlength
  have hfields : (header.filterMap HeaderLine.field?).foldlM CommitHeader.add {} =
      .ok ⟨c.tree, c.parents.reverse, some c.author, some c.committer⟩ := by
    rw [foldlM_filter (fun header field => header.add_other), h.fields,
      CommitHeader.foldlM_headerFields h.author h.committer]
  have hsummary := isFirstLine_iff.1 h.summary
  rw [Commit.ofRaw, splitRaw_rawText hne h.lines]
  simp only [hfields]
  show Except.ok (Commit.mk c.oid c.tree c.parents.reverse.reverse c.author c.committer
    (String.ofList (firstLine c.message.toList)) (String.ofList c.message.toList)) = .ok c
  rw [hsummary, List.reverse_reverse, String.ofList_toList, String.ofList_toList]

/-! ## Tags -/

namespace Tag

/-- The keys that a tag reads. -/
def keys : List String := ["object", "type", "tag", "tagger"]

/-- The fields of a tag in Git's order. -/
def headerFields (t : Tag) : List (List Char × List Char) :=
  [("object".toList, t.target.oid.text.toList), ("type".toList, t.target.kind.name.toList),
    ("tag".toList, t.name.toList)] ++
    t.tagger.toList.map fun tagger => ("tagger".toList, tagger.headerText)

/-- `header` tells the tag: its own fields in order, with any others between them. -/
structure IsWrittenBy (t : Tag) (header : List HeaderLine) : Prop where
  lines : ∀ line ∈ header, line.IsPlain
  fields : (header.filterMap HeaderLine.field?).filter (isAmong keys) = t.headerFields
  tagger : ∀ s ∈ t.tagger, s.IsPlain

end Tag

namespace TagHeader

variable (header : TagHeader)

theorem add_other {field : List Char × List Char} (h : isAmong Tag.keys field = false) :
    header.add field = .ok header := by
  unfold add
  split <;> simp_all [isAmong, Tag.keys, pure, Except.pure]

theorem add_object (oid : ObjectId) :
    header.add ("object".toList, oid.text.toList) = .ok { header with target := some oid } := by
  simp [add, ObjectId.ofText_text, bind, Except.bind, pure, Except.pure]

theorem add_type (kind : ObjectKind) :
    header.add ("type".toList, kind.name.toList) = .ok { header with kind := some kind } := by
  simp [add, ObjectKind.ofText_name, bind, Except.bind, pure, Except.pure]

theorem add_tag (name : String) :
    header.add ("tag".toList, name.toList) = .ok { header with name := some name } := by
  simp [add, pure, Except.pure]

theorem add_tagger {s : Signature} (h : s.IsPlain) :
    header.add ("tagger".toList, s.headerText) = .ok { header with tagger := some s } := by
  simp [add, Signature.ofRaw_headerText h, bind, Except.bind, pure, Except.pure]

/-- The own fields of a tag give its parts. -/
theorem foldlM_headerFields {t : Tag} (htagger : ∀ s ∈ t.tagger, s.IsPlain) :
    t.headerFields.foldlM add {} =
      .ok ⟨some t.target.oid, some t.target.kind, some t.name, t.tagger⟩ := by
  rw [Tag.headerFields, List.cons_append, foldlM_cons_of_ok (add_object _ _), List.cons_append,
    foldlM_cons_of_ok (add_type _ _), List.cons_append, foldlM_cons_of_ok (add_tag _ _), List.nil_append]
  cases htag : t.tagger with
  | none => rfl
  | some s => exact foldlM_cons_of_ok (add_tagger _ (htagger s htag)) []

end TagHeader

theorem Tag.ofRaw_of_isWrittenBy {t : Tag} {header : List HeaderLine} (h : t.IsWrittenBy header) :
    Tag.ofRaw t.oid (rawText header t.message) = .ok t := by
  have hne : header ≠ [] := by
    rintro rfl
    have hlength := congrArg List.length h.fields
    simp [Tag.headerFields] at hlength
  have hfields : (header.filterMap HeaderLine.field?).foldlM TagHeader.add {} =
      .ok ⟨some t.target.oid, some t.target.kind, some t.name, t.tagger⟩ := by
    rw [foldlM_filter (fun header field => header.add_other), h.fields,
      TagHeader.foldlM_headerFields h.tagger]
  rw [Tag.ofRaw, splitRaw_rawText hne h.lines]
  simp only [hfields]
  show Except.ok (Tag.mk t.oid t.name ⟨t.target.oid, t.target.kind⟩ t.tagger
    (String.ofList t.message.toList)) = .ok t
  rw [String.ofList_toList]

/-! ## Raw objects -/

/-- **Raw objects are read back.**  Every commit and every tag is read from each of its raw texts, in
which fields of other keys, lines that go on with a field, and the message can look like anything. -/
theorem ofRaw_rawText :
    (∀ (c : Commit) (header : List HeaderLine), c.IsWrittenBy header →
      Commit.ofRaw c.oid (rawText header c.message) = .ok c) ∧
    ∀ (t : Tag) (header : List HeaderLine), t.IsWrittenBy header →
      Tag.ofRaw t.oid (rawText header t.message) = .ok t :=
  ⟨fun _ _ => Commit.ofRaw_of_isWrittenBy, fun _ _ => Tag.ofRaw_of_isWrittenBy⟩

/-- A signed merge commit.  Its signature and its message hold lines that look like fields. -/
def signedMerge : Commit where
  oid := ⟨"0000000000000000000000000000000000000001", by decide⟩
  tree := some ObjectId.emptyTree
  parents := [⟨"0000000000000000000000000000000000000003", by decide⟩,
    ⟨"0000000000000000000000000000000000000002", by decide⟩]
  author := ⟨"Ada", "ada@example.org", ⟨-86400, 0, -16200⟩⟩
  committer := ⟨"", "bob@example.org", ⟨1700000100, 0, 3600⟩⟩
  summary := "author Eve"
  message := "author Eve\n\nparent none\n"

def signedMergeHeader : List HeaderLine :=
  [.field "tree".toList "4b825dc642cb6eb9a060e54bf8d69288fbee4904".toList,
    .field "parent".toList "0000000000000000000000000000000000000003".toList,
    .field "parent".toList "0000000000000000000000000000000000000002".toList,
    .field "author".toList "Ada <ada@example.org> -86400 -0430".toList,
    .field "committer".toList " <bob@example.org> 1700000100 +0100".toList,
    .field "mergetag".toList "object 0000000000000000000000000000000000000003".toList,
    .continuation "tag v1".toList, .continuation [],
    .continuation "committer Eve <eve@example.org> 0 +0000".toList, .field "encoding".toList "UTF-8".toList]

/-- A tag of a tag, with a signature in its header. -/
def nestedTag : Tag where
  oid := ⟨"0000000000000000000000000000000000000004", by decide⟩
  name := "v1 object"
  target := ⟨⟨"0000000000000000000000000000000000000005", by decide⟩, .tag⟩
  tagger := some ⟨"Ada", "ada@example.org", ⟨1700000000, 0, 0⟩⟩
  message := "\ntype tree\n"

def nestedTagHeader : List HeaderLine :=
  [.field "object".toList "0000000000000000000000000000000000000005".toList,
    .field "type".toList "tag".toList, .field "gpgsig".toList [], .continuation "tag v2".toList,
    .field "tag".toList "v1 object".toList,
    .field "tagger".toList "Ada <ada@example.org> 1700000000 +0000".toList]

theorem ofRaw_rawText_signed :
    signedMerge.IsWrittenBy signedMergeHeader ∧
      Commit.ofRaw signedMerge.oid (rawText signedMergeHeader signedMerge.message) = .ok signedMerge ∧
      nestedTag.IsWrittenBy nestedTagHeader ∧
      Tag.ofRaw nestedTag.oid (rawText nestedTagHeader nestedTag.message) = .ok nestedTag := by
  have hada {m : Moment} (hm : IsHeaderTime m) : (Signature.mk "Ada" "ada@example.org" m).IsPlain := by
    have hname : "Ada".toList = ['A', 'd', 'a'] := by decide
    have hemail : '>' ∉ "ada@example.org".toList := by decide
    have hblank : isBlank 'A' = false ∧ isBlank 'a' = false := by decide
    exact ⟨by simp [hname, hblank], by simp [hname, hblank], by simp [hname], by simp [hname], hemail, hm⟩
  have hmerge : signedMerge.IsWrittenBy signedMergeHeader := by
    refine ⟨?_, by decide, hada (by constructor <;> decide), ?_, isFirstLine_iff.2 (by decide)⟩
    · intro line hline
      simp only [signedMergeHeader, List.mem_cons, List.not_mem_nil, or_false] at hline
      rcases hline with rfl | rfl | rfl | rfl | rfl | rfl | rfl | rfl | rfl | rfl <;>
        constructor <;> decide
    · have htime : IsHeaderTime signedMerge.committer.time := by constructor <;> decide
      refine ⟨fun c hc => ?_, fun c hc => ?_, by decide, by decide, by decide, htime⟩ <;> cases hc
  have htag : nestedTag.IsWrittenBy nestedTagHeader := by
    refine ⟨?_, by decide, ?_⟩
    · intro line hline
      simp only [nestedTagHeader, List.mem_cons, List.not_mem_nil, or_false] at hline
      rcases hline with rfl | rfl | rfl | rfl | rfl | rfl <;> constructor <;> decide
    · intro s hs
      cases hs
      exact hada (by constructor <;> decide)
  exact ⟨hmerge, ofRaw_rawText.1 _ _ hmerge, htag, ofRaw_rawText.2 _ _ htag⟩

end ReleasePress.Git
