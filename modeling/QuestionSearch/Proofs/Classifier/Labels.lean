import QuestionSearch.Classifier.Settings

/-!
# Guessed labels

No classifier makes a class up. The votes of neighbours are those of trained texts, the classes of
naive Bayes are those that were learnt, and both come from labelled documents. So a guess is always
the class of a document that was trained on, whatever the arithmetic (`exists_document_of_assign`).
-/

namespace QuestionSearch.Classifier

variable {R : Type} {corpus : List Document} {textField classField : String}

theorem mem_labelledTexts_iff {labelled : LabelledText} :
    labelled ∈ labelledTexts corpus textField classField ↔
      ∃ document ∈ corpus, document.get? textField = some labelled.text ∧
        document.get? classField = some labelled.label := by
  rw [labelledTexts, List.mem_filterMap]
  refine exists_congr fun document => and_congr_right fun _ => ?_
  obtain ⟨text, label⟩ := labelled
  rw [LabelledText.ofDocument?]
  cases document.get? textField <;> cases document.get? classField <;> simp

/-- Whether a class is that of a labelled text. -/
def IsLabel (corpus : List Document) (textField classField label : String) : Prop :=
  ∃ labelled ∈ labelledTexts corpus textField classField, labelled.label = label

/-! ## Nearest neighbours -/

namespace NearestNeighbours

theorem isLabel_of_mem_examplesOf [Add R] [Mul R] [Div R] [Analytic R]
    {orders : Nat → VectorOrder} {sample : Example R}
    (member : sample ∈ examplesOf orders (labelledTexts corpus textField classField)) :
    IsLabel corpus textField classField sample.label := by
  obtain ⟨⟨labelled, place⟩, listed, found⟩ := List.mem_filterMap.mp member
  obtain ⟨vector, _, rfl⟩ := Option.map_eq_some_iff.mp found
  exact ⟨labelled, List.fst_mem_of_mem_zipIdx listed, rfl⟩

theorem label_of_mem_addVote [Add R] {votes : List (String × R)} {neighbour : Neighbour R}
    {vote : String × R} (member : vote ∈ addVote votes neighbour) :
    vote.1 = neighbour.label ∨ vote.1 ∈ votes.map Prod.fst := by
  induction votes with
  | nil =>
      obtain rfl := List.mem_singleton.mp member
      exact Or.inl rfl
  | cons head rest ih =>
      rw [addVote] at member
      split at member
      · rename_i same
        rcases List.mem_cons.mp member with rfl | later
        · exact Or.inl same
        · exact Or.inr (List.mem_cons_of_mem _ (List.mem_map_of_mem later))
      · rcases List.mem_cons.mp member with rfl | later
        · exact Or.inr List.mem_cons_self
        · exact (ih later).imp_right (List.mem_cons_of_mem _)

theorem label_of_mem_foldl_addVote [Add R] {neighbours : List (Neighbour R)}
    {votes : List (String × R)} {vote : String × R}
    (member : vote ∈ neighbours.foldl addVote votes) :
    vote.1 ∈ neighbours.map Neighbour.label ∨ vote.1 ∈ votes.map Prod.fst := by
  induction neighbours generalizing votes with
  | nil => exact Or.inr (List.mem_map_of_mem member)
  | cons neighbour rest ih =>
      rcases ih member with later | earlier
      · exact Or.inl (List.mem_cons_of_mem _ later)
      · -- The vote was there once the first neighbour had voted: it is that one's or older.
        obtain ⟨cast, castMem, castEq⟩ := List.mem_map.mp earlier
        rw [← castEq, List.map_cons, List.mem_cons]
        rcases label_of_mem_addVote castMem with now | before
        · exact Or.inl (Or.inl now)
        · exact Or.inr before

theorem mem_of_foldl_better [LT R] [DecidableLT R] {votes : List (String × R)}
    {start : Option (String × R)} {best : String × R}
    (found : votes.foldl better start = some best) : start = some best ∨ best ∈ votes := by
  induction votes generalizing start with
  | nil => exact Or.inl found
  | cons vote rest ih =>
      rcases ih found with now | later
      · cases start with
        | none => exact Or.inr (List.mem_cons.mpr (Or.inl (Option.some.inj now).symm))
        | some held =>
            rw [better] at now
            split at now
            · exact Or.inr (List.mem_cons.mpr (Or.inl (Option.some.inj now).symm))
            · exact Or.inl now
      · exact Or.inr (List.mem_cons_of_mem _ later)

variable [Add R] [Mul R] [LT R] [DecidableLT R] [Analytic R] [Ranked R]

theorem exists_example_of_mem_neighbours {classifier : NearestNeighbours R}
    {question : TermVector R} {neighbour : Neighbour R}
    (member : neighbour ∈ classifier.neighbours question) :
    ∃ sample ∈ classifier.examples, sample.label = neighbour.label := by
  have ranked := List.mem_mergeSort.mp (List.mem_of_mem_take member)
  obtain ⟨sample, sampleMem, found⟩ := List.mem_filterMap.mp ranked
  refine ⟨sample, sampleMem, ?_⟩
  dsimp only at found
  split at found
  · rw [← Option.some.inj found]
  · cases found

/-- A guess is the class of a trained text. -/
theorem exists_example_of_assign [Div R] {classifier : NearestNeighbours R} {order : VectorOrder}
    {text : String} {guess : Classification R}
    (assigned : classifier.assign order text = .ok (some guess)) :
    ∃ sample ∈ classifier.examples, sample.label = guess.label := by
  rw [assign] at assigned
  split at assigned
  · split at assigned
    · cases assigned
    · rename_i question _
      obtain ⟨best, found, rfl⟩ := Option.map_eq_some_iff.mp (Except.ok.inj assigned)
      rcases mem_of_foldl_better found with absent | voted
      · cases absent
      · rcases label_of_mem_foldl_addVote voted with cast | absent
        · obtain ⟨neighbour, neighbourMem, labelEq⟩ := List.mem_map.mp cast
          obtain ⟨sample, sampleMem, sampleEq⟩ := exists_example_of_mem_neighbours neighbourMem
          exact ⟨sample, sampleMem, sampleEq.trans labelEq⟩
        · cases absent
  · cases assigned

end NearestNeighbours

/-! ## Naive Bayes -/

namespace NaiveBayes

/-- The classes are those of the texts. -/
theorem contains_classes_foldl_learn {labelled : List LabelledText} {classifier : NaiveBayes}
    {label : String} :
    (labelled.foldl learn classifier).classes.contains label = true ↔
      (∃ known ∈ labelled, known.label = label) ∨ classifier.classes.contains label = true := by
  induction labelled generalizing classifier with
  | nil => simp
  | cons known rest ih =>
      rw [List.foldl_cons, ih, learn, Table.contains, Table.get?_insert]
      by_cases same : label = known.label
      · simp [same]
      · simp [same, Ne.symm same, Table.contains]

theorem mem_of_foldl_better [LT R] [DecidableLT R] (first : String × R)
    (rest : List (String × R)) : rest.foldl better first ∈ first :: rest := by
  induction rest generalizing first with
  | nil => exact List.mem_singleton_self first
  | cons second rest ih =>
      rw [List.foldl_cons]
      rcases List.mem_cons.mp (ih (better first second)) with now | later
      · rw [now, better]
        split
        · exact List.mem_cons_of_mem _ List.mem_cons_self
        · exact List.mem_cons_self
      · exact List.mem_cons_of_mem _ (List.mem_cons_of_mem _ later)

/-- A guess is one of the learnt classes. -/
theorem contains_of_assign [Add R] [Sub R] [Div R] [Analytic R] [LT R] [DecidableLT R]
    {classifier : NaiveBayes} {text : String} {guess : Classification R}
    (assigned : classifier.assign text = .ok (some guess)) :
    classifier.classes.contains guess.label = true := by
  rw [assign] at assigned
  split at assigned
  · dsimp only at assigned
    split at assigned
    · cases assigned
    · split at assigned
      · cases assigned
      · rename_i first rest scored
        obtain rfl := Option.some.inj (Except.ok.inj assigned)
        have member := mem_of_foldl_better first rest
        rw [← scored] at member
        obtain ⟨entry, entryMem, entryEq⟩ := List.mem_map.mp member
        rw [← entryEq]
        exact Table.mem_keys_iff.mp (List.mem_map_of_mem entryMem)
  · cases assigned

end NaiveBayes

end QuestionSearch.Classifier
