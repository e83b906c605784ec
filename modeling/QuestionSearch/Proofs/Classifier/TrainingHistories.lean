import QuestionSearch.Proofs.Classifier.Similarities

/-!
# Histories of trainings

A classifier may be trained again and again, with or without success. Whether a training succeeds is
decided by the documents alone (`isOk_learn`). If it fails, it leaves the classifier as it was
(`next_of_not_hasTerms`), and what is learnt does not depend on what was learnt before, of which
only the kind of the classifier and its number of votes are left (`learntFrom_next`). So after any
history a classifier is what a new one is after the last training that succeeded
(`last_success_decides`).
-/

namespace QuestionSearch.Classifier

open QuestionSearch.Text

/-- What a classifier is to learn from, and how hash tables are ordered meanwhile. -/
structure Lesson where
  /-- The documents. -/
  corpus : List Document
  /-- The field of the texts. -/
  textField : String
  /-- The field of the classes. -/
  classField : String
  /-- The orders. -/
  orders : Nat → VectorOrder

namespace Lesson

/-- The labelled texts of the documents. -/
def texts (lesson : Lesson) : List LabelledText :=
  labelledTexts lesson.corpus lesson.textField lesson.classField

end Lesson

theorem isOk_trainingOutcome (textField classField : String) (labelled : List LabelledText) :
    (trainingOutcome textField classField labelled).isOk = decide (HasTerms labelled) := by
  rw [trainingOutcome]
  split
  · rename_i noText
    exact (decide_eq_false (noText ▸ not_hasTerms_nil)).symm
  · split
    · rename_i hasTerms
      exact (decide_eq_true hasTerms).symm
    · rename_i withoutTerms
      exact (decide_eq_false withoutTerms).symm

namespace TextClassifier

variable {R : Type} [Add R] [Mul R] [Div R] [Analytic R] {classifier fresh : TextClassifier R}
  {lesson : Lesson}

/-- Gives a lesson to a classifier. -/
def learn (classifier : TextClassifier R) (lesson : Lesson) :
    Except ClassifyError Unit × TextClassifier R :=
  (train lesson.orders lesson.corpus lesson.textField lesson.classField).on classifier

/-- What a classifier is after a lesson, with or without success. -/
def next (classifier : TextClassifier R) (lesson : Lesson) : TextClassifier R :=
  (classifier.learn lesson).2

/-- What a classifier is after some lessons in turn. -/
def afterAll (classifier : TextClassifier R) (lessons : List Lesson) : TextClassifier R :=
  lessons.foldl next classifier

/-- The lessons that are given with success, out of some that are given in turn. -/
def succeeded (classifier : TextClassifier R) : List Lesson → List Lesson
  | [] => []
  | lesson :: rest =>
    if (classifier.learn lesson).1.isOk then lesson :: (classifier.next lesson).succeeded rest
    else (classifier.next lesson).succeeded rest

/-- Whether two classifiers say the same of themselves: they have as many voters and examples, or
the same classes and as many known terms. -/
def IsLike : TextClassifier R → TextClassifier R → Prop
  | nearest one, nearest other =>
    one.k = other.k ∧ one.examples.length = other.examples.length
  | bayes one, bayes other =>
    one.labels = other.labels ∧ one.vocabularySize = other.vocabularySize
  | _, _ => False

/-! ## One lesson -/

/-- Whether a lesson succeeds is decided by its documents. -/
theorem isOk_learn (classifier : TextClassifier R) (lesson : Lesson) :
    (classifier.learn lesson).1.isOk = decide (HasTerms lesson.texts) := by
  rw [learn, on_train]
  exact isOk_trainingOutcome _ _ _

/-- A lesson that fails changes nothing. -/
theorem next_of_not_hasTerms (useless : ¬ HasTerms lesson.texts) :
    classifier.next lesson = classifier := by
  rw [next, learn, on_train]
  exact if_neg useless

theorem learn_of_hasTerms (useful : HasTerms lesson.texts) :
    classifier.learn lesson = (.ok (), classifier.learntFrom lesson.orders lesson.texts) := by
  rw [learn, on_train]
  exact Prod.ext (trainingOutcome_eq_ok_iff.mpr useful) (if_pos useful)

theorem next_of_hasTerms (useful : HasTerms lesson.texts) :
    classifier.next lesson = classifier.learntFrom lesson.orders lesson.texts :=
  congrArg Prod.snd (learn_of_hasTerms useful)

/-- What was learnt before leaves nothing behind. -/
theorem learntFrom_next (classifier : TextClassifier R) (lesson : Lesson)
    (orders : Nat → VectorOrder) (labelled : List LabelledText) :
    (classifier.next lesson).learntFrom orders labelled =
      classifier.learntFrom orders labelled := by
  by_cases useful : HasTerms lesson.texts
  · rw [next_of_hasTerms useful]
    cases classifier <;> rfl
  · rw [next_of_not_hasTerms useful]

/-! ## Many lessons -/

theorem afterAll_concat (classifier : TextClassifier R) (lessons : List Lesson) (lesson : Lesson) :
    classifier.afterAll (lessons ++ [lesson]) = (classifier.afterAll lessons).next lesson :=
  List.foldl_concat _ _ _ _

theorem learntFrom_afterAll (classifier : TextClassifier R) (lessons : List Lesson)
    (orders : Nat → VectorOrder) (labelled : List LabelledText) :
    (classifier.afterAll lessons).learntFrom orders labelled =
      classifier.learntFrom orders labelled := by
  induction lessons generalizing classifier with
  | nil => rfl
  | cons lesson rest ih => exact (ih (classifier.next lesson)).trans (learntFrom_next _ _ _ _)

theorem succeeded_eq (classifier : TextClassifier R) (lessons : List Lesson) :
    classifier.succeeded lessons = lessons.filter fun lesson => HasTerms lesson.texts := by
  induction lessons generalizing classifier with
  | nil => rfl
  | cons lesson rest ih => rw [succeeded, isOk_learn, ih, List.filter_cons]

/-- After some lessons a classifier is what it was, or what it was taught by the last lesson that
succeeded. -/
theorem afterAll_cases (classifier : TextClassifier R) (lessons : List Lesson) :
    match (classifier.succeeded lessons).getLast? with
    | none => classifier.afterAll lessons = classifier
    | some lesson => classifier.learn lesson = (.ok (), classifier.afterAll lessons) := by
  rw [succeeded_eq]
  induction lessons using List.reverseRecOn with
  | nil => rfl
  | append_singleton lessons lesson ih =>
      rw [afterAll_concat, List.filter_append]
      by_cases useful : HasTerms lesson.texts
      · rw [List.filter_singleton, decide_eq_true useful, cond_true, List.getLast?_concat,
          next_of_hasTerms useful, learntFrom_afterAll]
        exact learn_of_hasTerms useful
      · rw [List.filter_singleton, decide_eq_false useful, cond_false, List.append_nil,
          next_of_not_hasTerms useful]
        exact ih

omit [Add R] [Mul R] [Div R] [Analytic R] in
theorem isTrained_of_ofSettings? {settings : ClassifierSettings}
    (chosen : ofSettings? settings = some fresh) : fresh.isTrained = false := by
  rw [ofSettings?] at chosen
  cases kind : settings.kind with
  | none => simp [kind] at chosen
  | nearest =>
      simp only [kind, Option.some.injEq] at chosen
      subst chosen
      rfl
  | bayes =>
      simp only [kind, Option.some.injEq] at chosen
      subst chosen
      rfl

/-- However hash tables are ordered, classifiers that learn from the same texts are alike. -/
theorem isLike_learntFrom (classifier : TextClassifier R) (orders others : Nat → VectorOrder)
    (labelled : List LabelledText) :
    (classifier.learntFrom orders labelled).IsLike (classifier.learntFrom others labelled) := by
  cases classifier with
  | nearest classifier =>
      refine ⟨rfl, ?_⟩
      simp only [NearestNeighbours.learntFrom, NearestNeighbours.examplesOf,
        List.length_filterMap_eq_countP, Option.isSome_map]
      refine List.countP_congr fun known _ => ?_
      rw [← Option.ne_none_iff_isSome, ← Option.ne_none_iff_isSome, Ne,
        TermVector.ofText?_eq_none_iff, Ne, TermVector.ofText?_eq_none_iff]
  | bayes classifier => exact ⟨rfl, rfl⟩

variable [Sub R] [LT R] [DecidableLT R] [Ranked R]

theorem assign_of_not_isTrained (untrained : classifier.isTrained = false) (order : VectorOrder)
    (text : String) : classifier.assign order text = .error .untrained := by
  have notTrained : ¬ classifier.isTrained = true := by simp [untrained]
  cases classifier with
  | nearest classifier => exact if_neg notTrained
  | bayes classifier => exact if_neg notTrained

/-- Give lessons to a new classifier of either kind. The ones that succeed are those in which some
document has a class and a text with terms, whatever was learnt before. The classifier is trained
just if there is one, and until then every question is refused. From then on the classifier is just
what a new one learns from the last of them alone. If the hash tables of the new one are in other
orders, then it says the same of itself, and it answers the same to all questions whose similarities
do not depend on these orders. -/
theorem last_success_decides {settings : ClassifierSettings}
    (chosen : ofSettings? settings = some fresh) (lessons : List Lesson) :
    (∀ lesson, lesson ∈ fresh.succeeded lessons ↔
      lesson ∈ lessons ∧ ∃ known ∈ lesson.texts, analyze known.text ≠ []) ∧
    ((fresh.afterAll lessons).isTrained = true ↔ fresh.succeeded lessons ≠ []) ∧
    match (fresh.succeeded lessons).getLast? with
    | none => ∀ order text, (fresh.afterAll lessons).assign order text = .error .untrained
    | some lesson =>
      fresh.learn lesson = (.ok (), fresh.afterAll lessons) ∧
      ∀ orders,
        let again := fresh.learn { lesson with orders }
        again.1 = .ok () ∧ again.2.IsLike (fresh.afterAll lessons) ∧
        ∀ text, (settings.kind = .nearest → OrderFree R lesson.texts text) →
          ∀ order other,
            again.2.assign order text = (fresh.afterAll lessons).assign other text := by
  have untrained := isTrained_of_ofSettings? chosen
  have taught := afterAll_cases fresh lessons
  refine ⟨fun lesson => ?_, ?_⟩
  · rw [succeeded_eq, List.mem_filter, decide_eq_true_iff]
    rfl
  · cases last : (fresh.succeeded lessons).getLast? with
    | none =>
        rw [last] at taught
        rw [List.getLast?_eq_none_iff.mp last, taught, untrained]
        exact ⟨by simp, assign_of_not_isTrained untrained⟩
    | some lesson =>
        rw [last] at taught
        have member := List.mem_of_getLast? last
        have useful : HasTerms lesson.texts := by
          rw [succeeded_eq, List.mem_filter, decide_eq_true_iff] at member
          exact member.2
        have learnt : fresh.afterAll lessons = fresh.learntFrom lesson.orders lesson.texts :=
          congrArg Prod.snd (taught.symm.trans (learn_of_hasTerms useful))
        refine ⟨⟨fun _ => List.ne_nil_of_mem member, fun _ => ?_⟩, taught, fun orders => ?_⟩
        · rw [learnt]
          cases fresh <;> rfl
        · have again : fresh.learn { lesson with orders } =
              (.ok (), fresh.learntFrom orders lesson.texts) := learn_of_hasTerms useful
          simp only [again, learnt, true_and]
          exact ⟨isLike_learntFrom fresh orders lesson.orders lesson.texts,
            fun text free order other => assign_learntFrom_eq chosen free _ _ _ _⟩

/-- A page of some title and type is all there is to learn from. -/
def lessonOf (title type : String) : Lesson :=
  ⟨[⟨"/page", .ofList [(titleField, title), (typeField, type)]⟩], titleField, typeField,
    fun _ => .ofKeys⟩

/-- Five lessons, of which the second and the fourth are of use. They have no class in common. -/
def fiveLessons : List Lesson :=
  [⟨[], titleField, typeField, fun _ => .ofKeys⟩, lessonOf "Old oak" "plant",
    lessonOf "..." "plant", lessonOf "Admin" "user",
    { lessonOf "Old oak" "plant" with classField := "missing" }]

/-- A naive Bayes classifier that learns of a plant and then of a user knows the user alone. -/
theorem last_success_decides_user :
    ofSettings? { ClassifierSettings.default with kind := .bayes } =
        some (.bayes .untrained : TextClassifier Float) ∧
      (bayes .untrained : TextClassifier Float).succeeded fiveLessons =
        [lessonOf "Old oak" "plant", lessonOf "Admin" "user"] ∧
      ∃ learnt, (bayes .untrained : TextClassifier Float).afterAll fiveLessons = .bayes learnt ∧
        learnt.isTrained = true ∧ learnt.labels = ["user"] ∧ learnt.vocabularySize = 1 := by
  have chosen : ofSettings? { ClassifierSettings.default with kind := .bayes } =
      some (.bayes .untrained : TextClassifier Float) := rfl
  have successes : (bayes .untrained : TextClassifier Float).succeeded fiveLessons =
      [lessonOf "Old oak" "plant", lessonOf "Admin" "user"] := by
    rw [succeeded_eq, fiveLessons, List.filter_cons_of_neg (by decide +kernel),
      List.filter_cons_of_pos (by decide +kernel), List.filter_cons_of_neg (by decide +kernel),
      List.filter_cons_of_pos (by decide +kernel), List.filter_cons_of_neg (by decide +kernel),
      List.filter_nil]
  obtain ⟨-, -, decides⟩ := last_success_decides chosen fiveLessons
  rw [successes] at decides
  have useful : HasTerms (lessonOf "Admin" "user").texts := by decide +kernel
  have taught : (bayes .untrained : TextClassifier Float).afterAll fiveLessons =
      .bayes (NaiveBayes.learntFrom (lessonOf "Admin" "user").texts) :=
    congrArg Prod.snd (decides.1.symm.trans (learn_of_hasTerms useful))
  exact ⟨chosen, successes, _, taught, rfl, by decide +kernel, by decide +kernel⟩

end TextClassifier

end QuestionSearch.Classifier
