import Mathlib.Data.List.DropRight
import Mathlib.Data.List.Infix
import QuestionSearch.Proofs.Index.Consistency

/-!
# Subtrees

A path lies within a root if it has the segments of the root, taken without the slashes at its end,
as its first ones (`isWithin_iff_isBelow`). Texts are compared with a slash put after them, so that
a segment cannot stop short: then beginnings of lists of segments are beginnings of texts
(`prefix_segments_iff`). To remove a subtree is to keep the documents that are not below its root,
so such removals commute, and the second of two alike finds nothing to do
(`removed_subtree_follows_segments`).
-/

namespace QuestionSearch

theorem Table.filterKeys_filterKeys {α : Type} (table : Table α) (keeps others : String → Bool) :
    (table.filterKeys keeps).filterKeys others =
      table.filterKeys fun key => others key && keeps key := by
  refine Table.ext_get? fun key => ?_
  simp only [Table.get?_filterKeys, Bool.and_eq_true]
  by_cases first : others key = true <;> by_cases second : keeps key = true <;>
    simp [first, second]

namespace Index

/-! ## Segments -/

/-- The texts between the slashes of a path. -/
def segments (path : List Char) : List (List Char) := path.splitOn '/'

/-- Whether a path begins with the segments of a root without the slashes at its end. -/
def IsBelow (path root : String) : Prop :=
  segments (trimSlashes root.toList) <+: segments path.toList

instance (path root : String) : Decidable (IsBelow path root) :=
  inferInstanceAs (Decidable (_ <+: _))

theorem flatMap_of_intercalate {names : List (List Char)} (nonempty : names ≠ []) :
    (names.flatMap fun name => name ++ ['/']) = ['/'].intercalate names ++ ['/'] := by
  induction names with
  | nil => exact absurd rfl nonempty
  | cons name rest ih =>
      cases rest with
      | nil => simp
      | cons next more =>
          rw [List.flatMap_cons, ih (List.cons_ne_nil _ _), List.intercalate_cons_cons]
          simp

/-- The segments give back the text, each with a slash after it. -/
theorem flatMap_segments (path : List Char) :
    ((segments path).flatMap fun name => name ++ ['/']) = path ++ ['/'] := by
  rw [segments, flatMap_of_intercalate (List.splitOn_ne_nil _ _), List.intercalate_splitOn]

/-- A path begins with the segments of another one if it begins with its text, up to a slash or the
end. -/
theorem prefix_segments_iff {path root : List Char} :
    segments root <+: segments path ↔ root ++ ['/'] <+: path ++ ['/'] := by
  constructor
  · rintro ⟨more, same⟩
    rw [← flatMap_segments root, ← flatMap_segments path, ← same, List.flatMap_append]
    exact List.prefix_append _ _
  · rintro ⟨rest, same⟩
    rcases List.eq_nil_or_concat rest with rfl | ⟨front, last, rfl⟩
    · rw [List.append_nil] at same
      rw [List.append_cancel_right same]
    · -- The last slash is that of the longer text, so the one after the root lies within it.
      rw [List.concat_eq_append, ← List.append_assoc] at same
      obtain ⟨pathEq, _⟩ := List.append_inj' same rfl
      rw [← pathEq, segments, segments, List.append_assoc, List.singleton_append,
        List.splitOn_append_cons_self]
      exact List.prefix_append _ _

/-! ## Slashes at the end -/

theorem trimSlashes_eq_rdropWhile (path : List Char) :
    trimSlashes path = path.rdropWhile (· = '/') := rfl

/-- What is cut off at the end of a path are slashes. -/
theorem exists_slashes (path : List Char) :
    ∃ slashes, path = trimSlashes path ++ slashes ∧ ∀ char ∈ slashes, char = '/' := by
  refine ⟨path.rtakeWhile (· = '/'), ?_, fun char member => ?_⟩
  · rw [trimSlashes_eq_rdropWhile, List.rdropWhile_append_rtakeWhile]
  · simpa using List.mem_rtakeWhile_imp member

theorem trimSlashes_ne_concat_slash {path front : List Char} :
    trimSlashes path ≠ front ++ ['/'] := by
  intro ends
  have nonempty : path.rdropWhile (· = '/') ≠ [] := by
    rw [← trimSlashes_eq_rdropWhile, ends]
    simp
  refine List.rdropWhile_last_not _ _ nonempty (decide_eq_true ?_)
  simp [← trimSlashes_eq_rdropWhile, ends]

theorem trimSlashes_eq_nil_of_forall {path : List Char} (slashes : ∀ char ∈ path, char = '/') :
    trimSlashes path = [] := by
  rw [trimSlashes_eq_rdropWhile, List.rdropWhile_eq_nil_iff]
  exact fun char member => decide_eq_true (slashes char member)

theorem trimSlashes_prefix_self (path : List Char) :
    trimSlashes path ++ ['/'] <+: path ++ ['/'] := by
  obtain ⟨slashes, pathEq, allSlashes⟩ := exists_slashes path
  have longer : trimSlashes path ++ ['/'] <+: trimSlashes path ++ slashes ++ ['/'] := by
    cases slashes with
    | nil => rw [List.append_nil]
    | cons first rest =>
        obtain rfl : first = '/' := allSlashes first List.mem_cons_self
        exact ⟨rest ++ ['/'], by simp⟩
  rwa [← pathEq] at longer

/-- What begins with a root that has no slash at its end still does so without its last slashes. -/
theorem prefix_of_prefix_slashes {root base slashes : List Char}
    (allSlashes : ∀ char ∈ slashes, char = '/')
    (begins : trimSlashes root ++ ['/'] <+: base ++ slashes ++ ['/']) :
    trimSlashes root ++ ['/'] <+: base ++ ['/'] := by
  induction slashes using List.reverseRecOn with
  | nil => rwa [List.append_nil] at begins
  | append_singleton front last ih =>
      obtain ⟨frontSlashes, lastSlash⟩ := List.forall_mem_append.mp allSlashes
      obtain rfl := List.forall_mem_singleton.mp lastSlash
      rw [← List.append_assoc, List.prefix_concat_iff] at begins
      rcases begins with whole | shorter
      · exact absurd (List.append_cancel_right whole) trimSlashes_ne_concat_slash
      · exact ih frontSlashes shorter

theorem prefix_trimSlashes {path root : List Char}
    (begins : trimSlashes root ++ ['/'] <+: path ++ ['/']) :
    trimSlashes root ++ ['/'] <+: trimSlashes path ++ ['/'] := by
  obtain ⟨slashes, pathEq, allSlashes⟩ := exists_slashes path
  rw [pathEq] at begins
  exact prefix_of_prefix_slashes allSlashes begins

/-! ## Paths within paths -/

variable {path root : String}

theorem slash_prefix_of_isAbsolute (absolute : isAbsolute path = true) : ['/'] <+: path.toList := by
  obtain ⟨rest, starts⟩ := List.head?_eq_some_iff.mp (of_decide_eq_true absolute)
  exact ⟨rest, starts.symm⟩

/-- One path lies within another one if it begins with that one, up to a slash or the end. The root
of all paths is no exception, since every path begins with a slash. -/
theorem isWithin_iff_prefix_slash (absolute : isAbsolute path = true) :
    isWithin path root = true ↔ trimSlashes root.toList ++ ['/'] <+: path.toList ++ ['/'] := by
  rw [isWithin, Bool.or_eq_true, Bool.or_eq_true, decide_eq_true_eq, decide_eq_true_eq,
    List.isPrefixOf_iff_prefix, List.prefix_concat_iff]
  constructor
  · rintro (rfl | same | longer)
    · exact Or.inr (slash_prefix_of_isAbsolute absolute)
    · exact Or.inl (by rw [same])
    · exact Or.inr longer
  · rintro (same | longer)
    · exact Or.inr (Or.inl (List.append_cancel_right same).symm)
    · exact Or.inr (Or.inr longer)

theorem isWithin_iff_isBelow (absolute : isAbsolute path = true) :
    isWithin path root = true ↔ IsBelow path root := by
  rw [isWithin_iff_prefix_slash absolute, IsBelow, prefix_segments_iff]

theorem isWithin_self (absolute : isAbsolute path = true) : isWithin path path = true := by
  rw [isWithin_iff_prefix_slash absolute]
  exact trimSlashes_prefix_self path.toList

theorem isWithin_trans {between : String} (pathAbsolute : isAbsolute path = true)
    (betweenAbsolute : isAbsolute between = true) (lower : isWithin path between = true)
    (upper : isWithin between root = true) : isWithin path root = true := by
  rw [isWithin_iff_prefix_slash pathAbsolute] at lower ⊢
  rw [isWithin_iff_prefix_slash betweenAbsolute] at upper
  exact (prefix_trimSlashes upper).trans lower

theorem isBelow_of_slashes (slashes : ∀ char ∈ root.toList, char = '/')
    (absolute : isAbsolute path = true) : IsBelow path root := by
  rw [IsBelow, prefix_segments_iff, trimSlashes_eq_nil_of_forall slashes]
  exact (slash_prefix_of_isAbsolute absolute).trans (List.prefix_append _ _)

/-! ## Removals -/

/-- The paths that are not within a root. -/
def isOutside (root path : String) : Bool := !isWithin path root

theorem isOutside_eq (absolute : isAbsolute path = true) :
    isOutside root path = !decide (IsBelow path root) := by
  rw [isOutside, Bool.eq_iff_iff, Bool.not_eq_true', Bool.not_eq_true', ← Bool.not_eq_true,
    isWithin_iff_isBelow absolute, decide_eq_false_iff_not]

namespace IndexState

variable {schema : IndexSchema} {state : IndexState}

/-- The removal of a subtree that was staged last keeps all that the other changes leave outside. -/
theorem documents_commit_concat_deleteSubtree (changes : List Change) :
    (state.commit schema (changes ++ [.deleteSubtree root])).2.documents =
      (state.commit schema changes).2.documents.filterKeys (isOutside root) := by
  rw [documents_commit, documents_commit, List.foldl_append]
  rfl

/-- In a consistent state it is the same to keep documents by their keys and by their paths. -/
theorem Consistent.corpus_eq_filter {after : IndexState} (consistent : state.Consistent schema)
    (afterConsistent : after.Consistent schema) {keeps : String → Bool}
    (kept : after.documents = state.documents.filterKeys keeps) :
    after.corpus = state.corpus.filter fun document => keeps document.path := by
  rw [afterConsistent.corpus, consistent.corpus, kept, List.filter_map, Table.values, Table.values,
    List.filter_map]
  refine congrArg _ (congrArg _ (List.filter_congr fun entry member => ?_))
  have own := (consistent.indexed entry.1 entry.2 (Table.get?_eq_some_iff.mpr member)).1
  simp [own]

end IndexState

namespace Session

variable {session : Session}

/-- Whether an index is open and its writer is alive. -/
structure Ready (session : Session) : Prop where
  isOpen : session.index.isClosed = false
  alive : session.writer.isSome = true

theorem Ready.deleteSubtree (ready : session.Ready) (absolute : isAbsolute root = true) :
    ∃ writer, session.writer = some writer ∧ session.act (.deleteSubtree root) =
      { session with writer := some (writer.stage (.deleteSubtree root)) } := by
  obtain ⟨writer, alive⟩ := Option.isSome_iff_exists.mp ready.alive
  refine ⟨writer, alive, ?_⟩
  simp only [act, stage, alive, Writer.deleteSubtree, absolute, if_true]

theorem Ready.act_deleteSubtree (ready : session.Ready) (absolute : isAbsolute root = true) :
    (session.act (.deleteSubtree root)).Ready := by
  obtain ⟨writer, _, acted⟩ := ready.deleteSubtree absolute
  rw [acted]
  exact ⟨ready.isOpen, rfl⟩

theorem Ready.commit (ready : session.Ready) :
    ∃ writer, session.writer = some writer ∧ session.act .commit =
      ⟨{ session.index with
          published := (session.index.published.commit session.index.schema writer.pending).2 },
        some .fresh⟩ := by
  obtain ⟨writer, alive⟩ := Option.isSome_iff_exists.mp ready.alive
  refine ⟨writer, alive, ?_⟩
  simp only [act, alive, SearchIndex.commit_of_open ready.isOpen]

theorem Ready.act_commit (ready : session.Ready) : (session.act .commit).Ready := by
  obtain ⟨writer, _, acted⟩ := ready.commit
  rw [acted]
  exact ⟨ready.isOpen, rfl⟩

/-- A writer that has nothing staged publishes nothing. -/
theorem Ready.published_commit_of_fresh (ready : session.Ready)
    (fresh : session.writer = some .fresh) :
    (session.act .commit).index.published = session.index.published := by
  obtain ⟨writer, alive, acted⟩ := ready.commit
  rw [acted]
  obtain rfl := Option.some.inj (fresh.symm.trans alive)
  rfl

theorem Ready.published_commit_commit (ready : session.Ready) :
    ((session.act .commit).act .commit).index.published =
      (session.act .commit).index.published := by
  refine ready.act_commit.published_commit_of_fresh ?_
  obtain ⟨writer, _, acted⟩ := ready.commit
  rw [acted]

/-- Removes a subtree, with all that was staged before. -/
def removeSubtree (session : Session) (root : String) : Session :=
  session.run [.deleteSubtree root, .commit]

theorem Ready.removeSubtree (ready : session.Ready) (absolute : isAbsolute root = true) :
    (session.removeSubtree root).Ready :=
  (ready.act_deleteSubtree absolute).act_commit

/-- The removal of a subtree keeps what is outside of all that would be published without it. -/
theorem Ready.documents_removeSubtree (ready : session.Ready) (absolute : isAbsolute root = true) :
    (session.removeSubtree root).index.published.documents =
      (session.act .commit).index.published.documents.filterKeys (isOutside root) := by
  obtain ⟨writer, alive, staged⟩ := ready.deleteSubtree absolute
  obtain ⟨_, committing, committed⟩ := ready.commit
  obtain rfl := Option.some.inj (alive.symm.trans committing)
  obtain ⟨_, removing, removed⟩ := (ready.act_deleteSubtree absolute).commit
  rw [staged] at removing
  obtain rfl := Option.some.inj removing
  rw [Session.removeSubtree, run, List.foldl_cons, List.foldl_cons, List.foldl_nil, removed,
    committed, staged]
  exact IndexState.documents_commit_concat_deleteSubtree writer.pending

variable {other : String}

theorem Ready.documents_removeSubtree_removeSubtree (ready : session.Ready)
    (absolute : isAbsolute root = true) (otherAbsolute : isAbsolute other = true) :
    ((session.removeSubtree root).removeSubtree other).index.published.documents =
      (session.act .commit).index.published.documents.filterKeys fun path =>
        isOutside other path && isOutside root path := by
  rw [(ready.removeSubtree absolute).documents_removeSubtree otherAbsolute, Session.removeSubtree,
    run, List.foldl_cons, List.foldl_cons, List.foldl_nil,
    (ready.act_deleteSubtree absolute).published_commit_commit]
  change ((session.removeSubtree root).index.published.documents.filterKeys _) = _
  rw [ready.documents_removeSubtree absolute, Table.filterKeys_filterKeys]

/-- It is the same to remove two subtrees at once. -/
theorem Ready.documents_deleteSubtree_removeSubtree (ready : session.Ready)
    (absolute : isAbsolute root = true) (otherAbsolute : isAbsolute other = true) :
    ((session.act (.deleteSubtree root)).removeSubtree other).index.published.documents =
      (session.act .commit).index.published.documents.filterKeys fun path =>
        isOutside other path && isOutside root path := by
  rw [(ready.act_deleteSubtree absolute).documents_removeSubtree otherAbsolute]
  change ((session.removeSubtree root).index.published.documents.filterKeys _) = _
  rw [ready.documents_removeSubtree absolute, Table.filterKeys_filterKeys]

end Session

/-- Whatever is done to an index, while it is open and its writer is alive the removal of a subtree
takes away exactly the documents that would be published without it and whose paths begin with the
segments of its root, where slashes at the end of the root do not count. All others stay as they
are, and so do their terms. A root of slashes alone leaves nothing. It does not matter in which
order two subtrees are removed, nor whether this is done at once, and to remove one again takes
nothing away. Of paths that start at the root of all, each lies within itself, and what lies within
a path lies within all that this one lies in. -/
theorem removed_subtree_follows_segments (schema : IndexSchema) :
    (∀ (actions : List Action) (root : String),
      let reached := (Session.start schema).run actions
      reached.index.isClosed = false → reached.writer.isSome = true → isAbsolute root = true →
      let before := (reached.run [.commit]).index.published
      let after (more : List Action) := (reached.run more).index.published
      (reached.writer = some .fresh → before = reached.index.published) ∧
        (after [.deleteSubtree root, .commit]).corpus =
          (before.corpus.filter fun document => ¬ IsBelow document.path root) ∧
        (∀ path, (after [.deleteSubtree root, .commit]).documents.get? path =
          if IsBelow path root then none else before.documents.get? path) ∧
        ((∀ char ∈ root.toList, char = '/') →
          (after [.deleteSubtree root, .commit]).corpus = []) ∧
        (after [.deleteSubtree root, .commit, .deleteSubtree root, .commit]).documents =
          (after [.deleteSubtree root, .commit]).documents ∧
        ∀ other, isAbsolute other = true →
          (after [.deleteSubtree root, .commit, .deleteSubtree other, .commit]).documents =
              (after [.deleteSubtree other, .commit, .deleteSubtree root, .commit]).documents ∧
            (after [.deleteSubtree root, .deleteSubtree other, .commit]).documents =
              (after [.deleteSubtree root, .commit, .deleteSubtree other, .commit]).documents) ∧
    (∀ path, isAbsolute path = true → isWithin path path = true) ∧
    ∀ path between root, isAbsolute path = true → isAbsolute between = true →
      isAbsolute root = true → isWithin path between = true → isWithin between root = true →
        isWithin path root = true := by
  refine ⟨fun actions root => ?_, fun path => isWithin_self,
    fun path between root pathAbsolute betweenAbsolute _ => isWithin_trans pathAbsolute
      betweenAbsolute⟩
  intro reached isOpen alive absolute before after
  have ready : reached.Ready := ⟨isOpen, alive⟩
  have consistent (more : List Action) : (after more).Consistent schema :=
    Session.consistent_run (Session.schema_run (.start schema) actions)
      (Session.consistent_run (rfl : (Session.start schema).index.schema = schema) (.empty schema)
        actions) more
  have rooted {path : String} {document : Document} (found : before.get? path = some document) :
      isAbsolute path = true := by
    refine Session.isAbsolute_of_get? (?_ : ((Session.start schema).run
      (actions ++ [.commit])).index.published.get? path = some document)
    rwa [Session.run, List.foldl_append]
  have documents : (after [.deleteSubtree root, .commit]).documents =
      before.documents.filterKeys (isOutside root) := ready.documents_removeSubtree absolute
  have corpus : (after [.deleteSubtree root, .commit]).corpus =
      before.corpus.filter fun document => ¬ IsBelow document.path root := by
    rw [(consistent [.commit]).corpus_eq_filter (consistent _) documents]
    refine List.filter_congr fun document listed => ?_
    rw [isOutside_eq (rooted ((consistent [.commit]).mem_corpus_iff.mp listed)), decide_not]
  refine ⟨ready.published_commit_of_fresh, corpus, fun path => ?_, fun slashes => ?_, ?_,
    fun other otherAbsolute => ⟨?_, ?_⟩⟩
  · rw [documents, Table.get?_filterKeys]
    cases found : before.documents.get? path with
    | none => simp
    | some indexed =>
        rw [isOutside_eq (rooted (congrArg (Option.map _) found))]
        by_cases below : IsBelow path root <;> simp [below]
  · rw [corpus, List.filter_eq_nil_iff]
    intro document listed
    have found := (consistent [.commit]).mem_corpus_iff.mp listed
    simp [isBelow_of_slashes slashes (rooted found)]
  · refine (ready.documents_removeSubtree_removeSubtree absolute absolute).trans ?_
    simp only [Bool.and_self]
    exact documents.symm
  · refine (ready.documents_removeSubtree_removeSubtree absolute otherAbsolute).trans ?_
    simp only [Bool.and_comm]
    exact (ready.documents_removeSubtree_removeSubtree otherAbsolute absolute).symm
  · exact (ready.documents_deleteSubtree_removeSubtree absolute otherAbsolute).trans
      (ready.documents_removeSubtree_removeSubtree absolute otherAbsolute).symm

/-- Pages of which one begins like the others without lying below them. Another one is staged. -/
def newsAndNewsletter : List Action :=
  [.takeWriter, .upsert (blankPage "/news"), .upsert (blankPage "/news/old"),
    .upsert (blankPage "/newsletter"), .commit, .upsert (blankPage "/news/new")]

theorem removed_subtree_follows_segments_news :
    let reached := (Session.start .default).run newsAndNewsletter
    reached.index.isClosed = false ∧ reached.writer.isSome = true ∧ isAbsolute "/news//" = true ∧
      (reached.run [.deleteSubtree "/news//", .commit]).index.published.corpus =
        [blankPage "/newsletter"] ∧
      isAbsolute "/news/old" = true ∧ isAbsolute "/news" = true ∧ isAbsolute "/" = true ∧
      isWithin "/news/old" "/" = true := by
  intro reached
  obtain ⟨removals, _, trans⟩ := removed_subtree_follows_segments .default
  have isOpen : reached.index.isClosed = false := by decide
  have alive : reached.writer.isSome = true := by decide
  obtain ⟨_, corpus, _⟩ := removals newsAndNewsletter "/news//" isOpen alive (by decide)
  have before : (reached.run [.commit]).index.published.corpus = [blankPage "/news",
      blankPage "/news/new", blankPage "/news/old", blankPage "/newsletter"] := by decide
  rw [before] at corpus
  exact ⟨isOpen, alive, by decide, corpus.trans (by decide), by decide, by decide, by decide,
    trans "/news/old" "/news" "/" (by decide) (by decide) (by decide) (by decide) (by decide)⟩

end Index

end QuestionSearch
