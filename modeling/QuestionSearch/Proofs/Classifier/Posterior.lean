import Mathlib
import QuestionSearch.Proofs.Classifier.ClassCounts
import QuestionSearch.Proofs.Classifier.Winners

/-!
# Posteriors

Naive Bayes adds logarithms and divides by a sum of exponentials that is taken relative to the best
class. In exact arithmetic the logarithms are those of products (`logPosterior_eq_log`), so that the
guess is the first class with the greatest product, and its score is the share of this product in
the sum of those of all classes (`assigns_greatest_weight`).
-/

namespace QuestionSearch.Classifier

open QuestionSearch.Text

/-- The terms of a text that occur in a labelled text. -/
def sharedTerms (labelled : List LabelledText) (text : String) : List String :=
  (analyze text).filter (· ∈ termsOf labelled)

/-- The share of a term in the terms of a class, each known term counted once more. -/
noncomputable def smoothedShare (labelled : List LabelledText) (label term : String) : ℝ :=
  let terms := termsOf (textsOf labelled label)
  (terms.count term + 1) / (terms.length + (termsOf labelled).toFinset.card)

/-- The weight of a class for a text: its share of the labelled texts, times its smoothed shares of
the shared terms of the text. -/
noncomputable def classWeight (labelled : List LabelledText) (text label : String) : ℝ :=
  (textsOf labelled label).length / labelled.length *
    ((sharedTerms labelled text).map (smoothedShare labelled label)).prod

/-- The classes of labelled texts. -/
def labelsOf (labelled : List LabelledText) : Finset String :=
  (labelled.map LabelledText.label).toFinset

theorem mem_labelsOf_iff {labelled : List LabelledText} {label : String} :
    label ∈ labelsOf labelled ↔ textsOf labelled label ≠ [] := by
  simp [labelsOf, textsOf]

theorem vocabularySize_learntFrom (labelled : List LabelledText) :
    (NaiveBayes.learntFrom labelled).vocabularySize = (termsOf labelled).toFinset.card := by
  have keys : (NaiveBayes.learntFrom labelled).vocabulary.keys.toFinset =
      (termsOf labelled).toFinset := by
    ext term
    rw [List.mem_toFinset, List.mem_toFinset, Table.mem_keys_iff,
      NaiveBayes.contains_vocabulary_learntFrom, NaiveBayes.mem_termsOf_iff]
  rw [← keys, List.toFinset_card_of_nodup (Table.nodup_keys _), Table.keys, List.length_map]
  rfl

/-- A term that occurs makes all shares positive. -/
theorem smoothedShare_pos {labelled : List LabelledText} (someTerm : termsOf labelled ≠ [])
    (label term : String) : 0 < smoothedShare labelled label term := by
  have sizePos : 0 < (termsOf labelled).toFinset.card :=
    Finset.card_pos.mpr (List.toFinset_nonempty_iff _ |>.mpr someTerm)
  have sizePos' : (0 : ℝ) < (termsOf labelled).toFinset.card := Nat.cast_pos.mpr sizePos
  unfold smoothedShare
  positivity

theorem classWeight_pos {labelled : List LabelledText} (someTerm : termsOf labelled ≠ [])
    (text : String) {label : String} (member : label ∈ labelsOf labelled) :
    0 < classWeight labelled text label := by
  have texts := List.length_pos_of_ne_nil (mem_labelsOf_iff.mp member)
  have all : 0 < labelled.length := texts.trans_le (List.length_filter_le _ _)
  refine mul_pos (div_pos (Nat.cast_pos.mpr texts) (Nat.cast_pos.mpr all)) ?_
  refine List.prod_pos fun share shareMem => ?_
  obtain ⟨term, -, rfl⟩ := List.mem_map.mp shareMem
  exact smoothedShare_pos someTerm label term

namespace NaiveBayes

/-! ## Scores of classes -/

theorem knownTerms_learntFrom (labelled : List LabelledText) (text : String) :
    (learntFrom labelled).knownTerms text = sharedTerms labelled text := by
  refine List.filter_congr fun term _ => ?_
  rw [Bool.eq_iff_iff, contains_vocabulary_learntFrom, decide_eq_true_eq, mem_termsOf_iff]

theorem logShare_eq_log {labelled : List LabelledText} (someTerm : termsOf labelled ≠ [])
    (label term : String) :
    logShare (learntFrom labelled).vocabularySize (.ofTexts (textsOf labelled label)) term =
      Real.log (smoothedShare labelled label term) := by
  have share := smoothedShare_pos someTerm label term
  rw [smoothedShare] at share
  obtain ⟨numerator, denominator⟩ := div_ne_zero_iff.mp share.ne'
  rw [logShare, smoothedShare, Real.log_div numerator denominator, vocabularySize_learntFrom]
  simp only [ClassCounts.ofTexts, getD_get?_tally, ln_real, natural_real, Nat.cast_one]

/-- The sum of logarithms for a class is the logarithm of its weight. -/
theorem logPosterior_eq_log {labelled : List LabelledText} (someTerm : termsOf labelled ≠ [])
    (text : String) {label : String} (member : label ∈ labelsOf labelled) :
    (learntFrom labelled).logPosterior (sharedTerms labelled text)
        (.ofTexts (textsOf labelled label)) = Real.log (classWeight labelled text label) := by
  have weight := classWeight_pos someTerm text member
  rw [classWeight] at weight
  obtain ⟨prior, likelihood⟩ := mul_ne_zero_iff.mp weight.ne'
  rw [classWeight, Real.log_mul prior likelihood, Real.log_list_prod (by simpa using likelihood),
    logPosterior, List.map_map, sumOf_real,
    List.map_congr_left fun term _ => logShare_eq_log someTerm label term,
    documents_learntFrom]
  rfl

variable {R : Type} [Add R] [Sub R] [Div R] [Analytic R]

/-- The classes in order with their scores for known terms. -/
def scored (classifier : NaiveBayes) (terms : List String) : List (String × R) :=
  classifier.classes.entries.map fun entry => (entry.1, classifier.logPosterior terms entry.2)

/-- What the score of a guess is one divided by: the sum of the probabilities of all classes in
proportion to that of the best one. -/
def normalizer (classifier : NaiveBayes) (terms : List String) (best : R) : R :=
  sumOf ((classifier.scored terms).map fun candidate => Analytic.exp (candidate.2 - best))

/-- The classes of labelled texts in order, with the logarithms of their weights. -/
theorem scored_learntFrom {labelled : List LabelledText} (someTerm : termsOf labelled ≠ [])
    (text : String) :
    (learntFrom labelled).scored (sharedTerms labelled text) =
      (learntFrom labelled).labels.map fun label =>
        (label, Real.log (classWeight labelled text label)) := by
  rw [scored, labels, Table.keys, List.map_map]
  refine List.map_congr_left fun entry member => ?_
  obtain ⟨texts, countsEq⟩ :=
    get?_classes_learntFrom_eq_some_iff.mp (Table.get?_eq_some_iff.mpr member)
  rw [countsEq, logPosterior_eq_log someTerm text (mem_labelsOf_iff.mpr texts)]
  rfl

theorem mem_labels_learntFrom_iff {labelled : List LabelledText} {label : String} :
    label ∈ (learntFrom labelled).labels ↔ label ∈ labelsOf labelled := by
  rw [labels, Table.mem_keys_iff, Table.contains, get?_classes_learntFrom, mem_labelsOf_iff]
  split <;> simp_all

theorem sum_labels_learntFrom (labelled : List LabelledText) (value : String → ℝ) :
    ((learntFrom labelled).labels.map value).sum = ∑ label ∈ labelsOf labelled, value label := by
  have same : (learntFrom labelled).labels.toFinset = labelsOf labelled := by
    ext label
    rw [List.mem_toFinset, mem_labels_learntFrom_iff]
  rw [← same]
  exact (List.sum_toFinset value (Table.nodup_keys (learntFrom labelled).classes)).symm

/-- The normalizer is the sum of all weights in proportion to the best one. -/
theorem normalizer_learntFrom {labelled : List LabelledText} (someTerm : termsOf labelled ≠ [])
    (text : String) {best : String} (member : best ∈ labelsOf labelled) :
    (learntFrom labelled).normalizer (sharedTerms labelled text)
        (Real.log (classWeight labelled text best)) =
      (∑ label ∈ labelsOf labelled, classWeight labelled text label) /
        classWeight labelled text best := by
  have bestPos := classWeight_pos someTerm text member
  rw [normalizer, scored_learntFrom someTerm, List.map_map, sumOf_real, Finset.sum_div,
    ← sum_labels_learntFrom]
  refine congrArg List.sum (List.map_congr_left fun label labelMem => ?_)
  have labelPos := classWeight_pos someTerm text (mem_labels_learntFrom_iff.mp labelMem)
  rw [Function.comp_apply, exp_real, Real.exp_sub, Real.exp_log labelPos, Real.exp_log bestPos]

/-- A trained classifier that knows a class and a term of a text guesses the class that leads. -/
theorem exists_leads_of_assign {classifier : NaiveBayes} (trained : classifier.isTrained = true)
    (someClass : classifier.classes.entries ≠ []) {text : String}
    (known : classifier.knownTerms text ≠ []) :
    ∃ best : String × ℝ, Leads (classifier.scored (classifier.knownTerms text)) best ∧
      classifier.assign text =
        .ok (some ⟨best.1, 1 / classifier.normalizer (classifier.knownTerms text) best.2⟩) := by
  rw [assign, if_pos trained]
  dsimp only
  rw [if_neg (by simpa using known)]
  split
  · rename_i unscored
    exact absurd (List.map_eq_nil_iff.mp unscored) someClass
  · rename_i first rest scores
    have leads : Leads (first :: rest) (rest.foldl better first) :=
      leads_foldl_better scoreOrder_real fun _ _ => trivial
    rw [← scores] at leads
    refine ⟨_, leads, ?_⟩
    rw [natural_real, Nat.cast_one]
    rfl

/-- Only the known terms of a text count. -/
theorem assign_eq_of_knownTerms_eq [LT R] [DecidableLT R] {classifier : NaiveBayes}
    {text other : String} (same : classifier.knownTerms text = classifier.knownTerms other) :
    (classifier.assign text : Except ClassifyError (Option (Classification R))) =
      classifier.assign other := by
  rw [assign, assign, same]

/-! ## Guesses -/

/-- Whether a guess is the first class with the greatest weight, scored with its share of the
weights of all classes. -/
structure IsLikeliest (labelled : List LabelledText) (text : String) (guess : Classification ℝ) :
    Prop where
  /-- The guess is a class. -/
  mem : guess.label ∈ labelsOf labelled
  /-- No class has a greater weight. -/
  greatest : ∀ other ∈ labelsOf labelled,
    classWeight labelled text other ≤ classWeight labelled text guess.label
  /-- The classes before it have smaller weights. -/
  first : ∀ other ∈ labelsOf labelled, other < guess.label →
    classWeight labelled text other < classWeight labelled text guess.label
  /-- Its score is its share. -/
  score : guess.score = classWeight labelled text guess.label /
    ∑ label ∈ labelsOf labelled, classWeight labelled text label

/-- The class that leads by the logarithms of the weights is the first one with the greatest
weight. -/
theorem isLikeliest_of_leads {labelled : List LabelledText} (someTerm : termsOf labelled ≠ [])
    {text : String} {best : String × ℝ}
    (leads : Leads ((learntFrom labelled).scored (sharedTerms labelled text)) best) :
    best.2 = Real.log (classWeight labelled text best.1) ∧
      IsLikeliest labelled text
        ⟨best.1, 1 / (learntFrom labelled).normalizer (sharedTerms labelled text) best.2⟩ := by
  have scores := scored_learntFrom someTerm text
  obtain ⟨label, labelMem, rfl⟩ := List.mem_map.mp (scores ▸ leads.mem)
  have member := mem_labels_learntFrom_iff.mp labelMem
  have scoredMem {other : String} (otherMem : other ∈ labelsOf labelled) :
      (other, Real.log (classWeight labelled text other)) ∈
        (learntFrom labelled).scored (sharedTerms labelled text) := by
    rw [scores]
    exact List.mem_map.mpr ⟨other, mem_labels_learntFrom_iff.mpr otherMem, rfl⟩
  have ordered : ((learntFrom labelled).scored (sharedTerms labelled text) :
      List (String × ℝ)).Pairwise fun first second => first.1 < second.1 := by
    rw [scored, List.pairwise_map]
    exact (learntFrom labelled).classes.ascending
  refine ⟨rfl, member, fun other otherMem => ?_, fun other otherMem before => ?_, ?_⟩
  · have notHigher := leads.not_lt scoreOrder_real (scoredMem otherMem) trivial
    exact (Real.log_le_log_iff (classWeight_pos someTerm text otherMem)
      (classWeight_pos someTerm text member)).mp (not_lt.mp notHigher)
  · have lower := leads.lt_of_before (fun _ _ => lt_asymm) ordered (scoredMem otherMem) trivial
      before
    exact (Real.log_lt_log_iff (classWeight_pos someTerm text otherMem)
      (classWeight_pos someTerm text member)).mp lower
  · rw [normalizer_learntFrom someTerm text member, one_div_div]

theorem IsLikeliest.score_bounds {labelled : List LabelledText} (someTerm : termsOf labelled ≠ [])
    {text : String} {guess : Classification ℝ} (greatest : IsLikeliest labelled text guess) :
    1 / ((labelsOf labelled).card : ℝ) ≤ guess.score ∧ guess.score ≤ 1 := by
  rw [greatest.score]
  exact share_of_best (fun label member => classWeight_pos someTerm text member) greatest.mem
    greatest.greatest

/-- In exact arithmetic a trained classifier guesses a class for each text with a known term. It is
the first one with the greatest weight, and its score is its share of the weights of all classes,
which is an equal share at least. What is computed on the way is defined: the logarithms are taken
of positive numbers, and the score is one divided by a normalizer that is one at least. Terms that
are not known do not count. -/
theorem assigns_greatest_weight {corpus : List Document} {textField classField : String}
    {before learnt : NaiveBayes}
    (trained : (train corpus textField classField).on before = (.ok (), learnt)) :
    let labelled := labelledTexts corpus textField classField
    (∀ text, (∃ term ∈ analyze text, learnt.vocabulary.contains term = true) →
      ∃ guess : Classification ℝ, learnt.assign text = .ok (some guess) ∧
        IsLikeliest labelled text guess ∧
        1 / ((labelsOf labelled).card : ℝ) ≤ guess.score ∧ guess.score ≤ 1 ∧
        ∃ counts, learnt.classes.get? guess.label = some counts ∧
          let terms := learnt.knownTerms text
          let normalizer := learnt.normalizer terms (learnt.logPosterior terms counts)
          guess.score = 1 / normalizer ∧ 1 ≤ normalizer) ∧
      (∀ label counts, learnt.classes.get? label = some counts →
        (0 : ℝ) < counts.documents / learnt.documents ∧
          (0 : ℝ) < counts.totalTerms + learnt.vocabularySize ∧
          ∀ term, (0 : ℝ) < (counts.terms.get? term).getD 0 + 1) ∧
      ∀ text other, learnt.knownTerms text = learnt.knownTerms other →
        (learnt.assign text : Except ClassifyError (Option (Classification ℝ))) =
          learnt.assign other := by
  intro labelled
  obtain ⟨someText, rfl⟩ := on_train_eq_ok_iff.mp trained
  have addsUp := addsUp_learntFrom someText
  obtain ⟨known, member, hasTerms⟩ := someText
  have someTerm : termsOf labelled ≠ [] := by
    obtain ⟨term, occurs⟩ := List.exists_mem_of_ne_nil _ hasTerms
    exact List.ne_nil_of_mem (mem_termsOf_iff.mpr ⟨known, member, occurs⟩)
  refine ⟨fun text ⟨term, occurs, isKnown⟩ => ?_, fun label counts found => ?_,
    fun _ _ => assign_eq_of_knownTerms_eq⟩
  · have shared : (learntFrom labelled).knownTerms text ≠ [] :=
      List.ne_nil_of_mem (List.mem_filter.mpr ⟨occurs, isKnown⟩)
    obtain ⟨best, leads, assigned⟩ := exists_leads_of_assign rfl
      (classes_learntFrom_ne_nil (List.ne_nil_of_mem member)) shared
    rw [knownTerms_learntFrom] at leads assigned ⊢
    obtain ⟨bestEq, greatest⟩ := isLikeliest_of_leads someTerm leads
    obtain ⟨atLeast, atMost⟩ := greatest.score_bounds someTerm
    refine ⟨_, assigned, greatest, atLeast, atMost, _,
      get?_classes_learntFrom_eq_some_iff.mpr ⟨mem_labelsOf_iff.mp greatest.mem, rfl⟩, ?_⟩
    have bestPos := classWeight_pos someTerm text greatest.mem
    dsimp only
    rw [logPosterior_eq_log someTerm text greatest.mem, ← bestEq]
    refine ⟨rfl, ?_⟩
    rw [bestEq, normalizer_learntFrom someTerm text greatest.mem, one_le_div bestPos]
    exact Finset.single_le_sum (fun label labelMem =>
      (classWeight_pos someTerm text labelMem).le) greatest.mem
  · have documents := addsUp.documents_pos label counts found
    have texts : 0 < (learntFrom labelled).documents := by
      rw [documents_learntFrom]
      exact List.length_pos_of_mem member
    have vocabulary := addsUp.vocabularySize_pos
    refine ⟨?_, ?_, fun term => ?_⟩
    · exact div_pos (Nat.cast_pos.mpr documents) (Nat.cast_pos.mpr texts)
    · exact add_pos_of_nonneg_of_pos (Nat.cast_nonneg _) (Nat.cast_pos.mpr vocabulary)
    · positivity

/-- Something old is a page in eighteen of twenty-three cases, and oaks are unheard of. -/
theorem assigns_greatest_weight_forest :
    let learnt := learntFrom (labelledTexts forest titleField typeField)
    (train forest titleField typeField).on untrained = (.ok (), learnt) ∧
      (∃ term ∈ analyze "old oaks", learnt.vocabulary.contains term = true) ∧
      ∃ guess, learnt.assign "old oaks" = .ok (some guess) ∧ guess.label = "page" ∧
        guess.score = (18 / 23 : ℝ) ∧ learnt.assign "old" = .ok (some guess) := by
  intro learnt
  have old : ∃ term ∈ analyze "old oaks", learnt.vocabulary.contains term = true :=
    ⟨"old", by decide +kernel, by decide +kernel⟩
  obtain ⟨guesses, -, unheard⟩ := assigns_greatest_weight (on_train_forest untrained)
  obtain ⟨guess, assigned, greatest, -⟩ := guesses "old oaks" old
  have shared : sharedTerms (labelledTexts forest titleField typeField) "old oaks" = ["old"] := by
    decide +kernel
  have classes : labelsOf (labelledTexts forest titleField typeField) = {"folder", "page"} := by
    decide +kernel
  have weight (label : String) {texts terms occurrences : Nat}
      (textsEq : (textsOf (labelledTexts forest titleField typeField) label).length = texts)
      (termsEq : (termsOf (textsOf (labelledTexts forest titleField typeField) label)).length =
        terms)
      (occurrencesEq : (termsOf (textsOf (labelledTexts forest titleField typeField) label)).count
        "old" = occurrences) :
      classWeight (labelledTexts forest titleField typeField) "old oaks" label =
        texts / 3 * ((occurrences + 1) / (terms + 5)) := by
    have all : (labelledTexts forest titleField typeField).length = 3 := by decide +kernel
    have known : (termsOf (labelledTexts forest titleField typeField)).toFinset.card = 5 := by
      decide +kernel
    simp [classWeight, smoothedShare, shared, all, known, textsEq, termsEq, occurrencesEq]
  have page := weight "page" (by decide +kernel : _ = 2) (by decide +kernel : _ = 5)
    (by decide +kernel : _ = 2)
  have folder := weight "folder" (by decide +kernel : _ = 1) (by decide +kernel : _ = 1)
    (by decide +kernel : _ = 0)
  have isPage : guess.label = "page" := by
    have member := greatest.mem
    rw [classes, Finset.mem_insert, Finset.mem_singleton] at member
    refine member.resolve_left fun isFolder => ?_
    have atLeast := greatest.greatest "page" (by rw [classes]; decide)
    rw [isFolder, page, folder] at atLeast
    norm_num at atLeast
  refine ⟨on_train_forest untrained, old, guess, assigned, isPage, ?_,
    (unheard _ _ ?_).trans assigned⟩
  · rw [greatest.score, isPage, classes, Finset.sum_pair (by decide), page, folder]
    norm_num
  · decide +kernel

end NaiveBayes

end QuestionSearch.Classifier
