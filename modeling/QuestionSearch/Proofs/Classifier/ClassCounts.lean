import QuestionSearch.Proofs.Classifier.Outcomes

/-!
# Counts of classes

Naive Bayes goes through the labelled texts one after the other and counts by class. What it counts
for a class is determined by the texts of this class (`get?_classes_learntFrom`), so that the order
of the texts is forgotten and the counts of all classes add up (`training_forgets_order`).
-/

namespace QuestionSearch.Classifier

open QuestionSearch.Text

/-- The terms of some texts, one text after the other. -/
def termsOf (texts : List LabelledText) : List String :=
  texts.flatMap fun known => analyze known.text

/-- The texts of a class. -/
def textsOf (labelled : List LabelledText) (label : String) : List LabelledText :=
  labelled.filter fun known => known.label = label

/-! ## One class -/

namespace ClassCounts

/-- What is counted in the texts of a class. -/
def ofTexts (texts : List LabelledText) : ClassCounts :=
  ⟨texts.length, tally (termsOf texts), (termsOf texts).length⟩

theorem foldl_addTerm (terms : List String) (counts : ClassCounts) :
    terms.foldl addTerm counts =
      ⟨counts.documents, terms.foldl countTerm counts.terms, counts.totalTerms + terms.length⟩ := by
  induction terms generalizing counts with
  | nil => rfl
  | cons term rest ih =>
      rw [List.foldl_cons, ih, List.length_cons, Nat.add_comm rest.length, ← Nat.add_assoc]
      rfl

/-- One more text of the class is counted. -/
theorem ofTexts_append_singleton (texts : List LabelledText) (known : LabelledText) :
    ofTexts (texts ++ [known]) =
      (analyze known.text).foldl addTerm
        { ofTexts texts with documents := (ofTexts texts).documents + 1 } := by
  have terms : termsOf (texts ++ [known]) = termsOf texts ++ analyze known.text := by
    simp [termsOf]
  rw [foldl_addTerm, ofTexts, terms, tally_eq, List.foldl_append, List.length_append,
    List.length_append]
  rfl

theorem ofTexts_perm {texts others : List LabelledText} (perm : texts.Perm others) :
    ofTexts texts = ofTexts others := by
  have terms : (termsOf texts).Perm (termsOf others) := perm.flatMap_right _
  rw [ofTexts, ofTexts, perm.length_eq, terms.length_eq, tally_perm terms]

end ClassCounts

/-! ## All classes -/

namespace NaiveBayes

/-- What is counted for a class is what its texts have. A class without texts is unknown. -/
theorem get?_classes_learntFrom (labelled : List LabelledText) (label : String) :
    (learntFrom labelled).classes.get? label =
      if textsOf labelled label = [] then none
      else some (.ofTexts (textsOf labelled label)) := by
  change (labelled.foldl learn untrained).classes.get? label = _
  induction labelled using List.reverseRecOn generalizing label with
  | nil => rfl
  | append_singleton before known ih =>
      rw [List.foldl_append, List.foldl_cons, List.foldl_nil, learn, Table.get?_insert]
      by_cases same : label = known.label
      · subst same
        have texts : textsOf (before ++ [known]) known.label =
            textsOf before known.label ++ [known] := by
          simp [textsOf]
        have counted : ((before.foldl learn untrained).classes.get? known.label).getD .none =
            .ofTexts (textsOf before known.label) := by
          rw [ih]
          split
          · rename_i unknown
            rw [unknown]
            rfl
          · rfl
        rw [if_pos rfl, texts, if_neg (by simp), ClassCounts.ofTexts_append_singleton, counted]
      · have texts : textsOf (before ++ [known]) label = textsOf before label := by
          simp [textsOf, Ne.symm same]
        rw [if_neg same, texts, ih]

theorem get?_classes_learntFrom_eq_some_iff {labelled : List LabelledText} {label : String}
    {counts : ClassCounts} :
    (learntFrom labelled).classes.get? label = some counts ↔
      textsOf labelled label ≠ [] ∧ counts = .ofTexts (textsOf labelled label) := by
  rw [get?_classes_learntFrom]
  split
  · rename_i unknown
    simp [unknown]
  · rename_i known
    simp [known, eq_comm]

theorem documents_learntFrom (labelled : List LabelledText) :
    (learntFrom labelled).documents = labelled.length :=
  (documents_foldl_learn labelled untrained).trans (Nat.zero_add _)

/-- A text is counted as a document of its class and of no other. -/
theorem sum_documents_learn (classifier : NaiveBayes) (known : LabelledText) :
    ((classifier.learn known).classes.map ClassCounts.documents).values.sum =
      (classifier.classes.map ClassCounts.documents).values.sum + 1 := by
  have added := (classifier.classes.map ClassCounts.documents).sum_values_insert known.label
    (((classifier.classes.get? known.label).getD .none).documents + 1)
  have before : ((classifier.classes.map ClassCounts.documents).get? known.label).getD 0 =
      ((classifier.classes.get? known.label).getD .none).documents := by
    rw [Table.get?_map]
    cases classifier.classes.get? known.label <;> rfl
  rw [learn, Table.map_insert, ClassCounts.foldl_addTerm]
  dsimp only
  omega

theorem sum_documents_learntFrom (labelled : List LabelledText) :
    ((learntFrom labelled).classes.map ClassCounts.documents).values.sum = labelled.length := by
  change ((labelled.foldl learn untrained).classes.map _).values.sum = _
  induction labelled using List.reverseRecOn with
  | nil => rfl
  | append_singleton before known ih =>
      rw [List.foldl_append, List.foldl_cons, List.foldl_nil, sum_documents_learn, ih,
        List.length_append]
      rfl

/-- What is learnt does not depend on the order of the texts. -/
theorem learntFrom_perm {labelled others : List LabelledText} (perm : labelled.Perm others) :
    learntFrom labelled = learntFrom others := by
  have classes : (learntFrom labelled).classes = (learntFrom others).classes := by
    refine Table.ext_get? fun label => ?_
    have texts : (textsOf labelled label).Perm (textsOf others label) := perm.filter _
    rw [get?_classes_learntFrom, get?_classes_learntFrom, ClassCounts.ofTexts_perm texts]
    exact if_congr ⟨fun none => (none ▸ texts).nil_eq.symm, fun none => (none ▸ texts).eq_nil⟩
      rfl rfl
  have vocabulary : (learntFrom labelled).vocabulary = (learntFrom others).vocabulary := by
    refine Table.ext_contains fun term => ?_
    rw [Bool.eq_iff_iff, contains_vocabulary_learntFrom, contains_vocabulary_learntFrom]
    simp only [perm.mem_iff]
  have documents : (learntFrom labelled).documents = (learntFrom others).documents := by
    rw [documents_learntFrom, documents_learntFrom, perm.length_eq]
  exact NaiveBayes.mk.injEq .. |>.mpr ⟨classes, vocabulary, documents, rfl⟩

/-- Whether the counts of a classifier that was trained on so many texts add up. -/
structure AddsUp (learnt : NaiveBayes) (texts : Nat) : Prop where
  /-- There are as many documents as texts. -/
  documents : learnt.documents = texts
  /-- Each class has a document. -/
  documents_pos : ∀ label counts, learnt.classes.get? label = some counts → 0 < counts.documents
  /-- Each document is of one class. -/
  sum_documents : (learnt.classes.map ClassCounts.documents).values.sum = texts
  /-- The number of terms of a class is the sum of how often each of them occurs. -/
  totalTerms : ∀ label counts, learnt.classes.get? label = some counts →
    counts.totalTerms = counts.terms.values.sum
  /-- The known terms are those of the classes. -/
  vocabulary : ∀ term, learnt.vocabulary.contains term = true ↔
    ∃ label counts, learnt.classes.get? label = some counts ∧ counts.terms.contains term = true
  /-- Some term is known. -/
  vocabularySize_pos : 0 < learnt.vocabularySize

theorem mem_termsOf_iff {texts : List LabelledText} {term : String} :
    term ∈ termsOf texts ↔ ∃ known ∈ texts, term ∈ analyze known.text :=
  List.mem_flatMap

theorem mem_textsOf_iff {labelled : List LabelledText} {label : String} {known : LabelledText} :
    known ∈ textsOf labelled label ↔ known ∈ labelled ∧ known.label = label := by
  simp [textsOf]

/-- Whatever has terms is counted rightly. -/
theorem addsUp_learntFrom {labelled : List LabelledText} (hasTerms : HasTerms labelled) :
    (learntFrom labelled).AddsUp labelled.length where
  documents := documents_learntFrom labelled
  documents_pos label counts found := by
    obtain ⟨some, rfl⟩ := get?_classes_learntFrom_eq_some_iff.mp found
    exact List.length_pos_of_ne_nil some
  sum_documents := sum_documents_learntFrom labelled
  totalTerms label counts found := by
    obtain ⟨-, rfl⟩ := get?_classes_learntFrom_eq_some_iff.mp found
    exact (sum_values_tally _).symm
  vocabulary term := by
    simp only [contains_vocabulary_learntFrom, get?_classes_learntFrom_eq_some_iff]
    constructor
    · rintro ⟨known, member, occurs⟩
      have own : known ∈ textsOf labelled known.label := mem_textsOf_iff.mpr ⟨member, rfl⟩
      exact ⟨known.label, _, ⟨List.ne_nil_of_mem own, rfl⟩,
        contains_tally_iff.mpr (mem_termsOf_iff.mpr ⟨known, own, occurs⟩)⟩
    · rintro ⟨label, _, ⟨-, rfl⟩, counted⟩
      obtain ⟨known, own, occurs⟩ := mem_termsOf_iff.mp (contains_tally_iff.mp counted)
      exact ⟨known, (mem_textsOf_iff.mp own).1, occurs⟩
  vocabularySize_pos := List.length_pos_of_ne_nil fun empty =>
    isEmpty_vocabulary_iff.mp (List.isEmpty_iff.mpr empty) hasTerms

end NaiveBayes

/-! ## Trainings -/

theorem hasTerms_perm {labelled others : List LabelledText} (perm : labelled.Perm others) :
    HasTerms labelled ↔ HasTerms others := by
  simp only [HasTerms, perm.mem_iff]

theorem trainingOutcome_perm {textField classField : String}
    {labelled others : List LabelledText} (perm : labelled.Perm others) :
    trainingOutcome textField classField labelled =
      trainingOutcome textField classField others := by
  rw [trainingOutcome, trainingOutcome, perm.length_eq]
  exact if_congr ⟨fun none => (none ▸ perm).nil_eq.symm, fun none => (none ▸ perm).eq_nil⟩ rfl
    (if_congr (hasTerms_perm perm) rfl rfl)

namespace NaiveBayes

/-- A training has one outcome for all orders of the documents: it fails alike, or the same is
learnt, whatever was known before, so that all texts get the same answer. Whatever is learnt adds
up. -/
theorem training_forgets_order {R : Type} [Add R] [Sub R] [Div R] [Analytic R] [LT R]
    [DecidableLT R] {corpus others : List Document} (perm : corpus.Perm others)
    (textField classField : String) (before again : NaiveBayes) :
    let trained := (train corpus textField classField).on before
    let retrained := (train others textField classField).on again
    trained.1 = retrained.1 ∧
      (trained.1 = .ok () →
        trained.2 = retrained.2 ∧
        (∀ text, (trained.2.assign text : Except ClassifyError (Option (Classification R))) =
          retrained.2.assign text) ∧
        trained.2.AddsUp (labelledTexts corpus textField classField).length) := by
  have labelledPerm : (labelledTexts corpus textField classField).Perm
      (labelledTexts others textField classField) := perm.filterMap _
  simp only [on_train, trainingOutcome_perm labelledPerm, true_and]
  intro success
  have hasTerms := trainingOutcome_eq_ok_iff.mp success
  rw [if_pos hasTerms, if_pos ((hasTerms_perm labelledPerm).mpr hasTerms),
    learntFrom_perm labelledPerm, labelledPerm.length_eq]
  exact ⟨rfl, fun _ => rfl, addsUp_learntFrom hasTerms⟩

end NaiveBayes

/-- Two pages and a folder. -/
def forest : List Document :=
  [⟨"/oak", .ofList [(titleField, "Old oak tree"), (typeField, "page")]⟩,
    ⟨"/trees", .ofList [(titleField, "Trees"), (typeField, "folder")]⟩,
    ⟨"/elm", .ofList [(titleField, "Old elm"), (typeField, "page")]⟩]

theorem hasTerms_forest : HasTerms (labelledTexts forest titleField typeField) := by
  decide +kernel

theorem NaiveBayes.on_train_forest (before : NaiveBayes) :
    (train forest titleField typeField).on before =
      (.ok (), learntFrom (labelledTexts forest titleField typeField)) :=
  on_train_eq_ok_iff.mpr ⟨hasTerms_forest, rfl⟩

/-- The same is learnt from the last document to the first one. -/
theorem NaiveBayes.training_forgets_order_forest :
    forest.Perm forest.reverse ∧ ∃ learnt,
      (train forest titleField typeField).on untrained = (.ok (), learnt) ∧
        (train forest.reverse titleField typeField).on untrained = (.ok (), learnt) ∧
        learnt.AddsUp 3 := by
  have perm : forest.Perm forest.reverse := (List.reverse_perm forest).symm
  obtain ⟨alike, same⟩ := training_forgets_order (R := Float) perm titleField typeField untrained
    untrained
  rw [on_train_forest] at alike same
  obtain ⟨learntEq, -, addsUp⟩ := same rfl
  have texts : (labelledTexts forest titleField typeField).length = 3 := by decide +kernel
  exact ⟨perm, _, on_train_forest untrained, Prod.ext alike.symm learntEq.symm, texts ▸ addsUp⟩

end QuestionSearch.Classifier
