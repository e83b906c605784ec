import QuestionSearch.Proofs.Index.Consistency
import QuestionSearch.Proofs.Index.Matches
import QuestionSearch.Proofs.Text.Tallies

/-!
# Terms of fields

What an index knows of a field is determined by one text (`frequency_eq`, `fieldLength_eq`). It is
the text that the document gives for the field, but for one case: a document may have a field of its
own that is called like the path. This field is indexed in place of the path, while the document
gives its path under that name (`indexed?_eq_get?_iff`). So a search by path finds the documents by
what is indexed there, which is their path as long as none of them has such a field (`search_path`).
-/

namespace QuestionSearch

open QuestionSearch.Index QuestionSearch.Query QuestionSearch.Text

/-! ## Indexed texts -/

/-- The text that is indexed for a field: that of the document's own field, or else, under its own
name, the path. -/
def Document.indexed? (document : Document) (field : String) : Option String :=
  (document.fields.get? field).or (if field = pathField then some document.path else none)

/-- Whether no field of its own stands in for the path of a document. -/
def Document.KeepsPath (document : Document) : Prop :=
  ∀ own, document.fields.get? pathField = some own → own = document.path

/-- What is indexed is what the document gives, but where an own field stands in for the path. -/
theorem Document.indexed?_eq_get?_iff (document : Document) (field : String) :
    document.indexed? field = document.get? field ↔ (field = pathField → document.KeepsPath) := by
  by_cases isPath : field = pathField
  · subst isPath
    cases own : document.fields.get? pathField <;> simp [indexed?, get?, KeepsPath, own]
  · simp [indexed?, get?, isPath]

namespace Index

/-- How often a term occurs in a text that is indexed for a field. A text of a keyword field is one
term. -/
def IndexSchema.occurrences (schema : IndexSchema) (field text term : String) : Nat :=
  if schema.isKeyword field then if term = text then 1 else 0 else (analyze text).count term

/-- How many terms a text that is indexed for a field has. -/
def IndexSchema.termCount (schema : IndexSchema) (field text : String) : Nat :=
  if schema.isKeyword field then 1 else (analyze text).length

namespace IndexSchema

variable (schema : IndexSchema) (document : Document) (field text term : String)

theorem frequency_fieldTerms :
    (schema.fieldTerms field text).frequency term = schema.occurrences field text term := by
  rw [fieldTerms, occurrences]
  split
  · simp only [FieldTerms.frequency, Table.get?_insert, Table.get?_empty]
    split <;> rfl
  · exact getD_get?_tally (analyze text) term

theorem length_fieldTerms :
    (schema.fieldTerms field text).length = schema.termCount field text := by
  rw [fieldTerms, termCount]
  split
  · rfl
  · exact List.sum_eq_foldl.symm.trans (sum_values_tally (analyze text))

/-- A field has the terms of the text that is indexed for it. -/
theorem get?_terms :
    (schema.terms document).get? field =
      (document.indexed? field).map (schema.fieldTerms field) := by
  rw [terms, Table.get?_foldl_insert schema.fieldTerms document.fields.ascending,
    Table.get?_insert, Table.get?_empty, Document.indexed?, Table.get?]
  cases lookupEntry field document.fields.entries with
  | some text => rfl
  | none =>
      by_cases isPath : field = pathField
      · subst isPath
        rfl
      · simp [isPath]

end IndexSchema

section Recorded

variable {R : Type} (schema : IndexSchema) (document : Document) (clause : Clause R)

/-- How often a term occurs in a field is determined by the text that is indexed for the field. -/
theorem frequency_eq :
    (⟨document, schema.terms document⟩ : IndexedDocument).frequency clause =
      match document.indexed? clause.field with
      | none => 0
      | some text => schema.occurrences clause.field text clause.term := by
  rw [IndexedDocument.frequency, IndexSchema.get?_terms]
  cases document.indexed? clause.field with
  | none => rfl
  | some text => exact schema.frequency_fieldTerms clause.field text clause.term

/-- How many terms a field has is determined by the text that is indexed for the field. -/
theorem fieldLength_eq :
    (⟨document, schema.terms document⟩ : IndexedDocument).fieldLength clause =
      match document.indexed? clause.field with
      | none => 0
      | some text => schema.termCount clause.field text := by
  rw [IndexedDocument.fieldLength, IndexSchema.get?_terms]
  cases document.indexed? clause.field with
  | none => rfl
  | some text => exact schema.length_fieldTerms clause.field text

/-- A keyword field matches its text and nothing else. -/
theorem isMatch_iff_of_isKeyword (keyword : schema.isKeyword clause.field = true) :
    (⟨document, schema.terms document⟩ : IndexedDocument).isMatch clause = true ↔
      document.indexed? clause.field = some clause.term := by
  rw [IndexedDocument.isMatch, frequency_eq, decide_eq_true_eq]
  cases document.indexed? clause.field with
  | none => simp
  | some text =>
      simp only [IndexSchema.occurrences, keyword, if_true, Option.some.injEq]
      by_cases same : clause.term = text
      · simp [same]
      · simp [same, Ne.symm same]

end Recorded

end Index

/-! ## Searches by path -/

namespace Index.IndexState

variable {R : Type} {schema : IndexSchema} {state : IndexState} {clause : Clause R}

/-- In a consistent state a clause for a keyword field matches what is indexed as its term. -/
theorem Consistent.isMatch_iff (consistent : state.Consistent schema)
    (keyword : schema.isKeyword clause.field = true) {indexed : IndexedDocument}
    (member : indexed ∈ state.documents.values) :
    indexed.isMatch clause = true ↔ indexed.document.indexed? clause.field = some clause.term := by
  obtain ⟨path, found⟩ := Table.mem_values_iff.mp member
  have terms := (consistent.indexed path indexed found).2
  obtain ⟨document, documentTerms⟩ := indexed
  obtain rfl : documentTerms = schema.terms document := terms
  exact isMatch_iff_of_isKeyword schema document clause keyword

/-- If every document is indexed under its path, then a search by path finds the document there and
nothing else. -/
theorem Consistent.search_path [Add R] [Mul R] [Div R] [Analytic R] [Ranked R]
    (consistent : state.Consistent schema) (keyword : schema.isKeyword pathField = true)
    (underPath : ∀ document ∈ state.corpus, document.indexed? pathField = some document.path)
    (path : String) (boost : R) {limit : Nat} (positive : 1 ≤ limit) :
    (state.search [⟨pathField, path, boost⟩] limit).map (fun hit => (hit.path, hit.fields)) =
      (state.get? path).toList.map fun document => (document.path, document.fields) := by
  let clause : Clause R := ⟨pathField, path, boost⟩
  have isMatch_iff {key : String} {indexed : IndexedDocument}
      (found : state.documents.get? key = some indexed) :
      indexed.isMatch clause = true ↔ key = path := by
    have member := Table.mem_values_iff.mpr ⟨key, found⟩
    have listed : indexed.document ∈ state.corpus :=
      consistent.corpus ▸ List.mem_map_of_mem member
    rw [consistent.isMatch_iff keyword member, underPath _ listed,
      (consistent.indexed key indexed found).1, Option.some.injEq]
  -- So there is a hit at this path at most, and what is left is to rank a single hit.
  have hits : state.documents.values.filterMap (hit? (state.weighted [clause])) =
      (state.documents.get? path).toList.filterMap (hit? (state.weighted [clause])) := by
    refine state.documents.filterMap_values_of_key path _ fun entry member elsewhere => ?_
    have unmatched := mt (isMatch_iff (Table.get?_eq_some_iff.mpr member)).mp elsewhere
    simp [hit?, weighted, unmatched]
  rw [search_eq_take_ranked, ranked, hits, get?]
  cases found : state.documents.get? path with
  | none => simp [rankDescending]
  | some indexed =>
      have matched := (isMatch_iff found).mpr rfl
      simp only [Option.toList_some, List.filterMap_cons, List.filterMap_nil, hit?, weighted,
        List.map_cons, List.map_nil, List.any_cons, List.any_nil, Bool.or_false, clause, matched,
        if_true, rankDescending, List.mergeSort_singleton, Option.map_some]
      rw [List.take_of_length_le positive]
      rfl

end Index.IndexState

/-- How often a term occurs in a field of a document and how many terms the field has is determined
by the text that is indexed for the field. This is the text that the document gives for the field,
unless the field is called like the path and is the document's own. Whatever is done to an index
where the path is a keyword field, while it is open a search by path gives documents that are
indexed under this path, and all of them if it may. As long as no document has an own field in place
of its path, this is just the committed document at the path, if there is one. -/
theorem fields_determined (schema : IndexSchema) :
    (∀ (document : Document) (clause : Clause Single),
      let indexed : IndexedDocument := ⟨document, schema.terms document⟩
      match document.indexed? clause.field with
      | none => indexed.frequency clause = 0 ∧ indexed.fieldLength clause = 0
      | some text =>
        indexed.frequency clause = schema.occurrences clause.field text clause.term ∧
          indexed.fieldLength clause = schema.termCount clause.field text) ∧
    (∀ (document : Document) (field : String),
      document.indexed? field = document.get? field ↔ (field = pathField → document.KeepsPath)) ∧
    (schema.isKeyword pathField = true → ∀ actions : List Action,
      let index := ((Session.start schema).run actions).index
      index.isClosed = false → ∀ (path : String) (boost : Single) (limit : Nat), ∃ hits,
        index.search [⟨pathField, path, boost⟩] limit = .ok hits ∧
        (∀ hit ∈ hits, ∃ document ∈ index.published.corpus,
          document.indexed? pathField = some path ∧
            hit.path = document.path ∧ hit.fields = document.fields) ∧
        (index.published.size ≤ limit → ∀ document ∈ index.published.corpus,
          document.indexed? pathField = some path →
            ∃ hit ∈ hits, hit.path = document.path ∧ hit.fields = document.fields) ∧
        ((∀ document ∈ index.published.corpus, document.KeepsPath) → 1 ≤ limit →
          hits.map (fun hit => (hit.path, hit.fields)) =
            (index.published.get? path).toList.map fun document =>
              (document.path, document.fields))) := by
  refine ⟨fun document clause => ?_, Document.indexed?_eq_get?_iff, ?_⟩
  · have frequency := frequency_eq schema document clause
    have fieldLength := fieldLength_eq schema document clause
    cases found : document.indexed? clause.field with
    | none =>
        rw [found] at frequency fieldLength
        exact ⟨frequency, fieldLength⟩
    | some text =>
        rw [found] at frequency fieldLength
        exact ⟨frequency, fieldLength⟩
  · intro keyword actions index isOpen path boost limit
    have start : (Session.start schema).index.published.Consistent schema := .empty schema
    have consistent : index.published.Consistent schema :=
      Session.consistent_run (show (Session.start schema).index.schema = schema from rfl) start
        actions
    refine ⟨index.published.search [⟨pathField, path, boost⟩] limit, ?_, fun hit member => ?_,
      fun enough document listed under => ?_, fun kept positive => ?_⟩
    · rw [SearchIndex.search, SearchIndex.state_of_open isOpen]
      rfl
    · rw [IndexState.search_eq_take_ranked] at member
      obtain ⟨indexed, indexedMem, ⟨clause, asked, matched⟩, same⟩ :=
        IndexState.exists_document_of_mem_ranked (List.mem_of_mem_take member)
      obtain rfl := List.mem_singleton.mp asked
      exact ⟨indexed.document, consistent.corpus ▸ List.mem_map_of_mem indexedMem,
        (consistent.isMatch_iff keyword indexedMem).mp matched, same⟩
    · obtain ⟨indexed, indexedMem, rfl, _⟩ := consistent.exists_indexed listed
      exact IndexState.exists_hit_of_isMatch indexedMem (List.mem_singleton_self _)
        ((consistent.isMatch_iff keyword indexedMem).mpr under) enough
    · refine consistent.search_path keyword (fun document listed => ?_) path boost positive
      exact (document.indexed?_eq_get?_iff pathField).mpr fun _ => kept document listed

/-- A document with a field of its own that is called like the path. -/
def selfNamed : Document := ⟨"/a", .ofList [(pathField, "/b")]⟩

/-- This document gives its path under that name, and it is committed there, but its path is no term
of it, and a search by path misses it and finds it elsewhere. -/
theorem search_misses_selfNamed :
    let index := ((Session.start .default).run [.takeWriter, .upsert selfNamed, .commit]).index
    let pathsOf (path : String) :=
      (index.search [.plain pathField path] 100).toOption.map (List.map Hit.path)
    index.schema.isKeyword pathField = true ∧ selfNamed.get? pathField = some "/a" ∧
      (⟨selfNamed, index.schema.terms selfNamed⟩ : IndexedDocument).frequency
        (.plain pathField "/a") = 0 ∧
      (index.get? "/a").toOption = some (some selfNamed) ∧
      pathsOf "/a" = some [] ∧ pathsOf "/b" = some ["/a"] := by
  refine ⟨by decide, by decide, ?_, ?_, ?_, ?_⟩
  all_goals decide +kernel

/-- Two documents, one below the other. -/
def twoPublished : List Action :=
  [.takeWriter, .upsert ⟨"/a", .ofList [(titleField, "b")]⟩, .upsert ⟨"/a/b", .empty⟩, .commit]

/-- The upper one is found by its path. -/
theorem fields_determined_two :
    IndexSchema.default.isKeyword pathField = true ∧
      let index := ((Session.start .default).run twoPublished).index
      index.isClosed = false ∧ (∀ document ∈ index.published.corpus, document.KeepsPath) ∧
        ∃ hits, index.search [.plain pathField "/a"] 100 = .ok hits ∧
          hits.map (fun hit => (hit.path, hit.fields)) =
            [("/a", Table.ofList [(titleField, "b")])] := by
  have keyword : IndexSchema.default.isKeyword pathField = true := by decide
  have isOpen : ((Session.start .default).run twoPublished).index.isClosed = false := by
    decide +kernel
  have corpus : ((Session.start .default).run twoPublished).index.published.corpus =
      [⟨"/a", .ofList [(titleField, "b")]⟩, ⟨"/a/b", .empty⟩] := by decide +kernel
  have kept : ∀ document ∈ ((Session.start .default).run twoPublished).index.published.corpus,
      document.KeepsPath := by
    rw [corpus]
    rw [List.forall_mem_cons, List.forall_mem_singleton]
    refine ⟨fun own found => ?_, fun own found => ?_⟩
    · cases found
    · cases found
  obtain ⟨_, _, searches⟩ := fields_determined .default
  obtain ⟨hits, found, _, _, exact⟩ := searches keyword twoPublished isOpen "/a" 1.0 100
  refine ⟨keyword, isOpen, kept, hits, found, (exact kept (by decide)).trans ?_⟩
  decide +kernel

end QuestionSearch
