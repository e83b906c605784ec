import QuestionSearch.Proofs.Classifier.Outcomes

/-!
# Agreement of the classifiers

After a training both classifiers have a guess for exactly the texts that have a term in common with
a labelled text: naive Bayes because it knows such a term (`NaiveBayes.knownTerms_eq_nil_iff`), and
nearest neighbours because such a text is similar
(`NearestNeighbours.neighbours_learntFrom_eq_nil_iff`). So they agree on when they have something to
say (`classifiers_agree`).
-/

namespace QuestionSearch.Classifier

open QuestionSearch.Text

variable {R : Type} {corpus : List Document} {textField classField : String}

/-- Whether a text has a term in common with a labelled one. -/
def SharesTerm (labelled : List LabelledText) (text : String) : Prop :=
  ∃ known ∈ labelled, ∃ term ∈ analyze text, term ∈ analyze known.text

/-! ## Naive Bayes -/

namespace NaiveBayes

theorem knownTerms_eq_nil_iff {labelled : List LabelledText} {text : String} :
    (learntFrom labelled).knownTerms text = [] ↔ ¬ SharesTerm labelled text := by
  rw [knownTerms, List.filter_eq_nil_iff]
  simp only [contains_vocabulary_learntFrom]
  constructor
  · rintro unknown ⟨known, member, term, occurs, common⟩
    exact unknown term occurs ⟨known, member, common⟩
  · rintro shares term occurs ⟨known, member, common⟩
    exact shares ⟨known, member, term, occurs, common⟩

variable [Add R] [Sub R] [Div R] [Analytic R] [LT R] [DecidableLT R]

theorem exists_guess {classifier : NaiveBayes} (trained : classifier.isTrained = true)
    (someClass : classifier.classes.entries ≠ []) (text : String) :
    ∃ guess : Option (Classification R), classifier.assign text = .ok guess ∧
      (guess = none ↔ classifier.knownTerms text = []) := by
  rw [assign, if_pos trained]
  dsimp only
  split
  · rename_i unknown
    exact ⟨none, rfl, by simpa using unknown⟩
  · rename_i known
    split
    · rename_i unscored
      exact absurd (List.map_eq_nil_iff.mp unscored) someClass
    · exact ⟨some _, rfl, by simpa using known⟩

end NaiveBayes

/-! ## Nearest neighbours -/

namespace NearestNeighbours

/-- However few are asked for, someone votes. -/
theorem pos_k_untrained (k : Nat) : 0 < (untrained k : NearestNeighbours R).k :=
  Nat.lt_of_lt_of_le Nat.zero_lt_one (Nat.le_max_right k 1)

theorem addVote_ne_nil [Add R] (votes : List (String × R)) (neighbour : Neighbour R) :
    addVote votes neighbour ≠ [] := by
  cases votes with
  | nil => exact List.cons_ne_nil _ _
  | cons vote rest =>
      rw [addVote]
      split <;> exact List.cons_ne_nil _ _

theorem foldl_addVote_eq_nil_iff [Add R] {neighbours : List (Neighbour R)}
    {votes : List (String × R)} :
    neighbours.foldl addVote votes = [] ↔ votes = [] ∧ neighbours = [] := by
  induction neighbours generalizing votes with
  | nil => simp
  | cons neighbour rest ih => simp [ih, addVote_ne_nil]

theorem better_ne_none [LT R] [DecidableLT R] (best : Option (String × R))
    (candidate : String × R) : better best candidate ≠ none := by
  cases best with
  | none => exact Option.some_ne_none _
  | some held =>
      rw [better]
      split <;> exact Option.some_ne_none _

theorem foldl_better_eq_none_iff [LT R] [DecidableLT R] {votes : List (String × R)}
    {start : Option (String × R)} :
    votes.foldl better start = none ↔ start = none ∧ votes = [] := by
  induction votes generalizing start with
  | nil => simp
  | cons vote rest ih => simp [ih, better_ne_none]

variable [Add R] [Mul R] [Div R] [LT R] [DecidableLT R] [Analytic R] [Ranked R]
  {classifier : NearestNeighbours R}

theorem exists_guess (trained : classifier.isTrained = true) (order : VectorOrder)
    (text : String) :
    ∃ guess : Option (Classification R), classifier.assign order text = .ok guess ∧
      (guess = none ↔ ∀ question, TermVector.ofText? order text = some question →
        classifier.neighbours question = []) := by
  rw [assign, if_pos trained]
  cases (TermVector.ofText? order text : Option (TermVector R)) with
  | none => exact ⟨none, rfl, by simp⟩
  | some question =>
      refine ⟨_, rfl, ?_⟩
      simp [foldl_better_eq_none_iff, foldl_addVote_eq_nil_iff]

omit [Div R] in
/-- However few may vote, a text has a neighbour if it is like any of the trained ones. -/
theorem neighbours_eq_nil_iff (votes : 0 < classifier.k) {question : TermVector R} :
    classifier.neighbours question = [] ↔
      ∀ sample ∈ classifier.examples, ¬ Analytic.natural 0 < sample.vector.cosine question := by
  rw [neighbours, List.take_eq_nil_iff, or_iff_right (Nat.ne_of_gt votes), rankDescending,
    ← List.length_eq_zero_iff, List.length_mergeSort, List.length_eq_zero_iff,
    List.filterMap_eq_nil_iff]
  simp

/-- A text is unlike all trained ones if and only if it has no term in common with any of them. -/
theorem neighbours_learntFrom_eq_nil_iff {IsWeight : R → Prop} {Fits : Nat → Prop}
    (laws : WeightLaws R IsWeight Fits) (votes : 0 < classifier.k) {orders : Nat → VectorOrder}
    {labelled : List LabelledText}
    (labelledFit : ∀ known ∈ labelled, Fits (analyze known.text).length) {order : VectorOrder}
    {text : String} (fits : Fits (analyze text).length) :
    (∀ question, TermVector.ofText? order text = some question →
        (classifier.learntFrom orders labelled).neighbours question = []) ↔
      ¬ SharesTerm labelled text := by
  have votes : 0 < (classifier.learntFrom orders labelled).k := votes
  constructor
  · rintro unlike ⟨known, member, term, occurs, common⟩
    have hasVector {text : String} (order : VectorOrder) (someTerm : term ∈ analyze text) :
        ∃ vector : TermVector R, TermVector.ofText? order text = some vector :=
      Option.ne_none_iff_exists'.mp
        (mt TermVector.ofText?_eq_none_iff.mp (List.ne_nil_of_mem someTerm))
    obtain ⟨place, knownAt⟩ := List.mem_iff_getElem?.mp member
    obtain ⟨question, questionEq⟩ := hasVector order occurs
    obtain ⟨vector, vectorEq⟩ := hasVector (orders place) common
    have sampleMem : (⟨vector, known.label⟩ : Example R) ∈ examplesOf orders labelled :=
      mem_examplesOf_iff.mpr ⟨known, place, knownAt, vectorEq, rfl⟩
    refine (neighbours_eq_nil_iff votes).mp (unlike question questionEq) _ sampleMem ?_
    exact (TermVector.pos_cosine_ofText?_iff laws (labelledFit known member) fits vectorEq
      questionEq).mpr ⟨term, common, occurs⟩
  · intro unshared question questionEq
    refine (neighbours_eq_nil_iff votes).mpr fun sample sampleMem alike => unshared ?_
    obtain ⟨known, place, knownAt, vectorEq, -⟩ := mem_examplesOf_iff.mp sampleMem
    have member := List.mem_of_getElem? knownAt
    obtain ⟨term, common, occurs⟩ := (TermVector.pos_cosine_ofText?_iff laws
      (labelledFit known member) fits vectorEq questionEq).mp alike
    exact ⟨known, member, term, occurs, common⟩

end NearestNeighbours

/-! ## Both kinds -/

section Agreement

variable [Add R] [Sub R] [Mul R] [Div R] [LT R] [DecidableLT R] [Analytic R] [Ranked R]
  {IsWeight : R → Prop} {Fits : Nat → Prop}

/-- Trained on the same documents, both classifiers succeed or fail alike, whatever they knew before
and however hash tables are ordered: there are no labelled texts, or these have no terms. If they
succeed, they have a guess for the same texts, which are those with a term in common with a labelled
text, and a guess is the class of one of the documents. -/
theorem classifiers_agree (laws : WeightLaws R IsWeight Fits) {learner : NearestNeighbours R}
    (votes : 0 < learner.k) (counter : NaiveBayes) (orders : Nat → VectorOrder)
    (corpus : List Document) (textField classField : String) :
    let labelled := labelledTexts corpus textField classField
    let nearest := (NearestNeighbours.train orders corpus textField classField).on learner
    let bayes := (NaiveBayes.train corpus textField classField).on counter
    nearest.1 = bayes.1 ∧
      (bayes.1 = .error (.emptyCorpus textField classField) ↔
        ∀ document ∈ corpus,
          document.get? textField = none ∨ document.get? classField = none) ∧
      (bayes.1 = .error (.withoutTerms textField labelled.length) ↔
        labelled ≠ [] ∧ ∀ known ∈ labelled, analyze known.text = []) ∧
      (bayes.1 = .ok () ↔ ∃ known ∈ labelled, analyze known.text ≠ []) ∧
      (bayes.1 = .ok () →
        ∀ order text, ∃ nearestGuess bayesGuess : Option (Classification R),
          nearest.2.assign order text = .ok nearestGuess ∧
          bayes.2.assign text = .ok bayesGuess ∧
          (bayesGuess = none ↔ ¬ SharesTerm labelled text) ∧
          (Fits (analyze text).length → (∀ known ∈ labelled, Fits (analyze known.text).length) →
            (nearestGuess = none ↔ bayesGuess = none)) ∧
          ∀ guess, nearestGuess = some guess ∨ bayesGuess = some guess →
            ∃ document ∈ corpus, document.get? classField = some guess.label ∧
              (document.get? textField).isSome = true) := by
  intro labelled nearest bayes
  have nearestEq : nearest = (trainingOutcome textField classField labelled,
      if HasTerms labelled then learner.learntFrom orders labelled else learner) :=
    learner.on_train
  have bayesEq : bayes = (trainingOutcome textField classField labelled,
      if HasTerms labelled then NaiveBayes.learntFrom labelled else counter) :=
    counter.on_train
  simp only [nearestEq, bayesEq]
  refine ⟨trivial, ?emptyCorpus, trainingOutcome_eq_withoutTerms_iff, trainingOutcome_eq_ok_iff,
    ?guesses⟩
  case emptyCorpus => rw [trainingOutcome_eq_emptyCorpus_iff, labelledTexts_eq_nil_iff]
  case guesses =>
    intro success order text
    have hasTerms := trainingOutcome_eq_ok_iff.mp success
    rw [if_pos hasTerms, if_pos hasTerms]
    have someText : labelled ≠ [] := fun empty => not_hasTerms_nil (empty ▸ hasTerms)
    obtain ⟨nearestGuess, nearestAssigned, nearestNone⟩ :=
      (learner.learntFrom orders labelled).exists_guess rfl order text
    obtain ⟨bayesGuess, bayesAssigned, bayesNone⟩ := NaiveBayes.exists_guess (R := R) rfl
      (NaiveBayes.classes_learntFrom_ne_nil someText) text
    rw [NaiveBayes.knownTerms_eq_nil_iff] at bayesNone
    refine ⟨nearestGuess, bayesGuess, nearestAssigned, bayesAssigned, bayesNone, ?_, ?_⟩
    · intro fits labelledFit
      rw [nearestNone, bayesNone]
      exact NearestNeighbours.neighbours_learntFrom_eq_nil_iff laws votes labelledFit fits
    · rintro guess (rfl | rfl)
      · exact exists_document_of_assign (.nearest learner) orders order nearestAssigned
      · exact exists_document_of_assign (.bayes counter : TextClassifier R) orders order
          bayesAssigned

end Agreement

/-- Two pages, one of them without terms, and a document without a type. -/
def oakPages : List Document :=
  [⟨"/oak", .ofList [(titleField, "Old oak tree"), (typeField, "page")]⟩,
    ⟨"/dots", .ofList [(titleField, "..."), (typeField, "page")]⟩,
    ⟨"/elm", .ofList [(titleField, "Elm")]⟩]

/-- In exact arithmetic both classifiers take an oak for a page, and neither has heard of elms. -/
theorem classifiers_agree_oak :
    let learnt := (NearestNeighbours.train (fun _ => .ofKeys) oakPages titleField typeField).on
      (NearestNeighbours.untrained 0 : NearestNeighbours ℝ)
    let counted := (NaiveBayes.train oakPages titleField typeField).on .untrained
    learnt.1 = .ok () ∧ counted.1 = .ok () ∧
      learnt.2.assign .ofKeys "elm" = .ok none ∧
      counted.2.assign "elm" = .ok (none : Option (Classification ℝ)) ∧
      ∃ nearestGuess bayesGuess : Classification ℝ,
        learnt.2.assign .ofKeys "an oak" = .ok (some nearestGuess) ∧
        counted.2.assign "an oak" = .ok (some bayesGuess) ∧
        nearestGuess.label = "page" ∧ bayesGuess.label = "page" := by
  intro learnt counted
  obtain ⟨alike, -, -, success, guesses⟩ := classifiers_agree weightLaws_real
    (NearestNeighbours.pos_k_untrained 0) .untrained (fun _ => .ofKeys) oakPages titleField
    typeField
  have labelled : labelledTexts oakPages titleField typeField =
      [⟨"Old oak tree", "page"⟩, ⟨"...", "page"⟩] := by decide +kernel
  have shares (text : String) : SharesTerm (labelledTexts oakPages titleField typeField) text ↔
      ∃ term ∈ analyze text, term ∈ ["old", "oak", "tree"] := by
    have oakTerms : analyze "Old oak tree" = ["old", "oak", "tree"] := by decide +kernel
    have dotsTerms : analyze "..." = [] := by decide +kernel
    rw [SharesTerm, labelled]
    simp [oakTerms, dotsTerms]
  have isPage : ∀ document ∈ oakPages,
      document.get? typeField = none ∨ document.get? typeField = some "page" := by decide +kernel
  have page {guess : Classification ℝ} {document : Document} (member : document ∈ oakPages)
      (classEq : document.get? typeField = some guess.label) : guess.label = "page" := by
    rcases isPage document member with untyped | paged
    · exact absurd (untyped.symm.trans classEq) (Option.some_ne_none _).symm
    · exact Option.some.inj (classEq.symm.trans paged)
  have countedOk := success.mpr (by decide +kernel)
  refine ⟨alike.trans countedOk, countedOk, ?_⟩
  obtain ⟨nearestElm, bayesElm, nearestElmEq, bayesElmEq, bayesElmIff, elmAlike, -⟩ :=
    guesses countedOk .ofKeys "elm"
  obtain rfl : bayesElm = none := bayesElmIff.mpr (by rw [shares]; decide +kernel)
  obtain rfl : nearestElm = none := (elmAlike trivial fun _ _ => trivial).mpr rfl
  obtain ⟨nearestOak, bayesOak, nearestOakEq, bayesOakEq, bayesOakIff, oakAlike, labels⟩ :=
    guesses countedOk .ofKeys "an oak"
  have bayesSome : bayesOak ≠ none := fun absent =>
    bayesOakIff.mp absent ((shares _).mpr (by decide +kernel))
  have nearestSome : nearestOak ≠ none := fun absent =>
    bayesSome ((oakAlike trivial fun _ _ => trivial).mp absent)
  obtain ⟨nearestGuess, rfl⟩ := Option.ne_none_iff_exists'.mp nearestSome
  obtain ⟨bayesGuess, rfl⟩ := Option.ne_none_iff_exists'.mp bayesSome
  obtain ⟨nearestDocument, nearestMem, nearestClass, -⟩ := labels nearestGuess (Or.inl rfl)
  obtain ⟨bayesDocument, bayesMem, bayesClass, -⟩ := labels bayesGuess (Or.inr rfl)
  exact ⟨nearestElmEq, bayesElmEq, nearestGuess, bayesGuess, nearestOakEq, bayesOakEq,
    page nearestMem nearestClass, page bayesMem bayesClass⟩

end QuestionSearch.Classifier
