import QuestionSearch.Proofs.Classifier.Similarities
import QuestionSearch.Proofs.Index.Sessions
import QuestionSearch.Query.Executor

/-!
# Sessions with a cache

A session of an index together with a cache of trained classifiers over it. The cache holds what
training on the documents of some generation gave, and one generation never names two sets of
documents. So a guess is always that of a classifier trained at this moment, as if there were no
cache (`classify_eq_uncached`). Only the orders in which similarities were added up are those of the
training that is remembered, so that of several guesses that another training might give the cache
keeps to one.
-/

namespace QuestionSearch.Classifier

open QuestionSearch.Index QuestionSearch.Query QuestionSearch.Text

variable {R : Type}

/-- What the index answers to a call that asks for its generation first and for its documents
later. -/
def momentBetween (before after : SearchIndex) (orders : DrawnOrders) : Moment :=
  { momentOf after orders with generation := (momentOf before orders).generation }

/-- A session of an index with a cache over it. -/
structure CachedSession (R : Type) where
  /-- The session. -/
  session : Session
  /-- The cache. -/
  cache : ClassifierCache R

/-- What can be done to an index and a cache over it. The index may be used by others between the
two questions that a call asks it. -/
inductive CachedAction
  /-- Something is done to the index. -/
  | act (action : Action)
  /-- The classifier is asked for. -/
  | model (orders : DrawnOrders) (meanwhile : List Action)
  /-- A text is classified. -/
  | classify (orders : DrawnOrders) (text : String) (meanwhile : List Action)
  /-- The cache is told to forget. -/
  | invalidate

/-- The guess of a classifier trained on the documents of an index, if all goes well. -/
def uncached [Add R] [Sub R] [Mul R] [Div R] [LT R] [DecidableLT R] [Analytic R] [Ranked R]
    (settings : ClassifierSettings) (index : SearchIndex) (orders : DrawnOrders) (text : String) :
    Option (Classification R) := do
  let snapshot ← index.snapshot.toOption
  let outcome ← ClassifierCache.trainOn? settings orders.examples snapshot.documents
  let classifier ← outcome.toOption
  (classifier.assign orders.question text).toOption.join

/-- Whether a cache holds what the documents of its generation give in some orders, if that is still
current. -/
def Trusted [Add R] [Mul R] [Div R] [Analytic R] (settings : ClassifierSettings)
    (cached : CachedSession R) : Prop :=
  cached.cache.settings = settings ∧
    ∀ training, cached.cache.held = some training →
      training.generation ≤ cached.session.index.published.generation ∧
        (training.generation = cached.session.index.published.generation →
          ∃ orders, ClassifierCache.trainOn? settings orders
            cached.session.index.published.corpus = some training.outcome)

namespace CachedSession

section Steps

variable [Add R] [Sub R] [Mul R] [Div R] [LT R] [DecidableLT R] [Analytic R] [Ranked R]

/-- Does something to an index or a cache over it. -/
def step (cached : CachedSession R) : CachedAction → CachedSession R
  | .act action => { cached with session := cached.session.act action }
  | .model orders meanwhile =>
    let later := cached.session.run meanwhile
    ⟨later, (cached.cache.model (momentBetween cached.session.index later.index orders)).cache⟩
  | .classify orders text meanwhile =>
    let later := cached.session.run meanwhile
    let moment := momentBetween cached.session.index later.index orders
    ⟨later, (cached.cache.classify moment text).cache⟩
  | .invalidate => { cached with cache := cached.cache.invalidate }

/-- Does several things in order. -/
def run (cached : CachedSession R) (actions : List CachedAction) : CachedSession R :=
  actions.foldl step cached

end Steps

/-- A new index with a new cache over it. -/
def start (schema : IndexSchema) (settings : ClassifierSettings) : CachedSession R :=
  ⟨.start schema, .ofSettings settings⟩

end CachedSession

theorem generation_momentOf (index : SearchIndex) (orders : DrawnOrders) :
    (momentOf index orders).generation =
      if index.isClosed then .error .closed else .ok index.published.generation := by
  rw [momentOf, SearchIndex.stats, SearchIndex.state_eq]
  split <;> rfl

theorem snapshot_eq {index : SearchIndex} :
    index.snapshot =
      if index.isClosed then .error .closed else .ok index.published.snapshot := by
  rw [SearchIndex.snapshot, SearchIndex.state_eq]
  split <;> rfl

section Trust

variable [Add R] [Mul R] [Div R] [Analytic R] {settings : ClassifierSettings}
  {session : Session} {cache : ClassifierCache R}

theorem trusted_start (schema : IndexSchema) :
    Trusted settings (CachedSession.start schema settings : CachedSession R) :=
  ⟨rfl, fun _ held => by cases held⟩

/-- A cache stays trusted if nothing or a higher generation is published. -/
theorem trusted_later {later : Session} (trusted : Trusted settings ⟨session, cache⟩)
    (published : later.index.published = session.index.published ∨
      session.index.published.generation < later.index.published.generation) :
    Trusted settings ⟨later, cache⟩ := by
  obtain ⟨chosen, holds⟩ := trusted
  refine ⟨chosen, fun training held => ?_⟩
  obtain ⟨le, current⟩ := holds training held
  rcases published with same | higher
  · rw [same]
    exact ⟨le, current⟩
  · -- What is held is of an earlier generation than the one that is now current.
    have older := Nat.lt_of_le_of_lt le higher
    exact ⟨Nat.le_of_lt older, fun equal => absurd equal (Nat.ne_of_lt older)⟩

/-- What is done to the index leaves a cache trusted. -/
theorem trusted_run (trusted : Trusted settings ⟨session, cache⟩) (actions : List Action) :
    Trusted settings ⟨session.run actions, cache⟩ :=
  trusted_later trusted (session.published_run_cases actions)

/-- Asking for the classifier leaves a cache trusted, though others use the index meanwhile. -/
theorem trusted_model (trusted : Trusted settings ⟨session, cache⟩) (orders : DrawnOrders)
    (meanwhile : List Action) :
    Trusted settings ⟨session.run meanwhile,
      (cache.model (momentBetween session.index (session.run meanwhile).index orders)).cache⟩ := by
  have kept := trusted_run trusted meanwhile
  rw [ClassifierCache.model]
  split
  · exact kept
  · split
    · exact kept
    · split
      · exact kept
      · rename_i snapshot snapshotEq
        split
        · exact kept
        · rename_i outcome trained
          refine ⟨kept.1, fun training held => ?_⟩
          obtain rfl := Option.some.inj held
          have found : (session.run meanwhile).index.snapshot = .ok snapshot := snapshotEq
          rw [snapshot_eq] at found
          split at found
          · cases found
          · obtain rfl := Except.ok.inj found
            rw [show cache.settings = settings from trusted.1] at trained
            exact ⟨Nat.le_refl _, fun _ => ⟨orders.examples, trained⟩⟩

/-- What is held for the generation of an index is what its documents give in some orders. -/
theorem exists_trainOn?_of_heldFor? (trusted : Trusted settings ⟨session, cache⟩)
    {outcome : Except ClassifyError (TextClassifier R)}
    (held : cache.heldFor? session.index.published.generation = some outcome) :
    ∃ orders, ClassifierCache.trainOn? settings orders session.index.published.corpus =
      some outcome := by
  rw [ClassifierCache.heldFor?] at held
  split at held
  · cases held
  · rename_i training trainingEq
    split at held
    · rename_i same
      obtain rfl := Option.some.inj held
      exact (trusted.2 training trainingEq).2 same
    · cases held

end Trust

variable [Add R] [Sub R] [Mul R] [Div R] [LT R] [DecidableLT R] [Analytic R] [Ranked R]
  {settings : ClassifierSettings}

/-- Whatever is done, the index goes through actions of its own. -/
theorem exists_session_run (cached : CachedSession R) (action : CachedAction) :
    ∃ actions : List Action, (cached.step action).session = cached.session.run actions := by
  cases action with
  | act action => exact ⟨[action], rfl⟩
  | model orders meanwhile => exact ⟨meanwhile, rfl⟩
  | classify orders text meanwhile => exact ⟨meanwhile, rfl⟩
  | invalidate => exact ⟨[], rfl⟩

theorem trusted_step {cached : CachedSession R} (trusted : Trusted settings cached)
    (action : CachedAction) : Trusted settings (cached.step action) := by
  cases action with
  | act action => exact trusted_run trusted [action]
  | model orders meanwhile => exact trusted_model trusted orders meanwhile
  | classify orders text meanwhile =>
      rw [CachedSession.step, ClassifierCache.classify]
      split
      · exact trusted_model trusted orders meanwhile
      · exact trusted_run trusted meanwhile
  | invalidate => exact ⟨trusted.1, fun _ held => by cases held⟩

theorem trusted_run_start (schema : IndexSchema) (actions : List CachedAction) :
    Trusted settings ((CachedSession.start schema settings : CachedSession R).run actions) := by
  have kept {cached : CachedSession R} (trusted : Trusted settings cached) :
      Trusted settings (cached.run actions) := by
    induction actions generalizing cached with
    | nil => exact trusted
    | cons action rest ih => exact ih (trusted_step trusted action)
  exact kept (trusted_start schema)

/-! ## Answers -/

/-- The guess of a training, if it succeeded and the text can be classified. -/
def guessOf (outcome : Except ClassifyError (TextClassifier R)) (order : VectorOrder)
    (text : String) : Option (Classification R) :=
  outcome.toOption.bind fun classifier => (classifier.assign order text).toOption.join

/-- Without a cache, a guess is made of the published documents. -/
theorem uncached_eq (settings : ClassifierSettings) (index : SearchIndex) (orders : DrawnOrders)
    (text : String) :
    (uncached settings index orders text : Option (Classification R)) =
      (index.snapshot.map Snapshot.documents).toOption.bind fun corpus =>
        (ClassifierCache.trainOn? settings orders.examples corpus).bind fun outcome =>
          guessOf outcome orders.question text := by
  cases found : index.snapshot with
  | error fault => simp [uncached, found, Except.map, Except.toOption]
  | ok snapshot =>
      simp only [uncached, found, Except.map, Except.toOption, guessOf, Option.bind_eq_bind,
        Option.bind_some]

theorem uncached_of_closed {index : SearchIndex} (closed : index.isClosed = true)
    (orders : DrawnOrders) (text : String) :
    uncached settings index orders text = (none : Option (Classification R)) := by
  rw [uncached_eq, snapshot_eq, if_pos closed]
  rfl

theorem uncached_of_open {index : SearchIndex} (isOpen : index.isClosed = false)
    (orders : DrawnOrders) (text : String) :
    (uncached settings index orders text : Option (Classification R)) =
      (ClassifierCache.trainOn? settings orders.examples index.published.corpus).bind
        fun outcome => guessOf outcome orders.question text := by
  rw [uncached_eq, snapshot_eq, if_neg (by simp [isOpen])]
  rfl

theorem classify_result (cache : ClassifierCache R) (moment : Moment) (text : String) :
    (cache.classify moment text).result =
      if cache.settings.kind = .none then none
      else guessOf (cache.model moment).result moment.orders.question text := by
  by_cases disabled : cache.settings.kind = .none
  · simp [ClassifierCache.classify, ClassifierCache.isEnabled, disabled]
  · simp only [ClassifierCache.classify, ClassifierCache.isEnabled, disabled, ne_eq,
      not_false_eq_true, decide_true, if_true, if_false, guessOf]
    cases (cache.model moment).result with
    | error fault => rfl
    | ok classifier =>
        simp only [Except.toOption, Option.bind_some]
        cases classifier.assign moment.orders.question text <;> rfl

theorem uncached_of_disabled (disabled : settings.kind = .none) (index : SearchIndex)
    (orders : DrawnOrders) (text : String) :
    uncached settings index orders text = (none : Option (Classification R)) := by
  cases closed : index.isClosed with
  | true => exact uncached_of_closed closed orders text
  | false =>
      simp [uncached_of_open closed, ClassifierCache.trainOn?, TextClassifier.ofSettings?,
        disabled]

/-! ## Orders -/

/-- Whether the guess for a text is the same in all orders: it is not made by nearest neighbours, or
the similarities of the text to the published ones do not depend on the orders. -/
def IsDetermined (R : Type) [Add R] [Mul R] [Div R] [Analytic R] (settings : ClassifierSettings)
    (corpus : List Document) (text : String) : Prop :=
  settings.kind = .nearest →
    OrderFree R (labelledTexts corpus settings.textField settings.classField) text

theorem guessOf_trainOn?_eq {corpus : List Document} {text : String}
    (determined : IsDetermined R settings corpus text) (orders others : Nat → VectorOrder)
    (asked again : VectorOrder) :
    ((ClassifierCache.trainOn? settings orders corpus :
        Option (Except ClassifyError (TextClassifier R))).bind fun outcome =>
        guessOf outcome asked text) =
      (ClassifierCache.trainOn? settings others corpus).bind fun outcome =>
        guessOf outcome again text := by
  rw [trainOn?_eq, trainOn?_eq]
  cases chosen : (TextClassifier.ofSettings? settings : Option (TextClassifier R)) with
  | none => rfl
  | some learner =>
      cases trainingOutcome settings.textField settings.classField
          (labelledTexts corpus settings.textField settings.classField) with
      | error fault => rfl
      | ok done =>
          have same := assign_learntFrom_eq chosen determined orders others asked again
          simp only [Option.map_some, Option.bind_some, guessOf, Except.map, Except.toOption, same]

theorem uncached_eq_of_isDetermined {index : SearchIndex} {text : String}
    (determined : IsDetermined R settings index.published.corpus text)
    (orders others : DrawnOrders) :
    (uncached settings index orders text : Option (Classification R)) =
      uncached settings index others text := by
  cases closed : index.isClosed with
  | true => rw [uncached_of_closed closed, uncached_of_closed closed]
  | false =>
      rw [uncached_of_open closed, uncached_of_open closed]
      exact guessOf_trainOn?_eq determined _ _ _ _

/-! ## Caches -/

/-- Whether an answer to a text is one that there might be without a cache. Then it is the only one
if there is only one. -/
structure IsUncached (settings : ClassifierSettings) (index : SearchIndex) (asked : VectorOrder)
    (text : String) (answer : Option (Classification R)) : Prop where
  /-- It is what a training on the published documents gives in some orders. -/
  exists_orders : ∃ learnt, answer = uncached settings index ⟨learnt, asked⟩ text
  /-- If orders do not matter, it is what a training gives in all of them. -/
  eq_uncached : IsDetermined R settings index.published.corpus text →
    ∀ orders, answer = uncached settings index orders text

theorem IsUncached.of_orders {index : SearchIndex} {asked : VectorOrder} {text : String}
    {answer : Option (Classification R)} (learnt : Nat → VectorOrder)
    (same : answer = uncached settings index ⟨learnt, asked⟩ text) :
    IsUncached settings index asked text answer :=
  ⟨⟨learnt, same⟩, fun determined orders =>
    same.trans (uncached_eq_of_isDetermined determined _ orders)⟩

/-- A call gives the guess of the moment at which it asks for the generation, or of the moment at
which it asks for the documents. -/
theorem classify_between {session : Session} {cache : ClassifierCache R}
    (trusted : Trusted settings ⟨session, cache⟩) (orders : DrawnOrders)
    (meanwhile : List Action) (text : String) :
    let later := session.run meanwhile
    let answer := (cache.classify (momentBetween session.index later.index orders) text).result
    IsUncached settings session.index orders.question text answer ∨
      IsUncached settings later.index orders.question text answer := by
  intro later answer
  have chosen : cache.settings = settings := trusted.1
  have result : answer = _ := classify_result cache _ text
  rw [chosen] at result
  by_cases disabled : settings.kind = .none
  · rw [if_pos disabled] at result
    exact Or.inl (.of_orders orders.examples
      (result.trans (uncached_of_disabled disabled _ _ text).symm))
  rw [if_neg disabled] at result
  rw [result, ClassifierCache.model, chosen]
  have asked : (momentBetween session.index later.index orders).generation = _ :=
    generation_momentOf _ orders
  have given : (momentBetween session.index later.index orders).snapshot = _ := snapshot_eq
  have drawn : (momentBetween session.index later.index orders).orders = orders := rfl
  rw [asked, given, drawn]
  cases closed : session.index.isClosed with
  | true => exact Or.inl (.of_orders orders.examples (uncached_of_closed closed _ text).symm)
  | false =>
      simp only [Bool.false_eq_true, if_false]
      cases held : cache.heldFor? session.index.published.generation with
      | some outcome =>
          -- What is held was learnt in orders that were drawn at another time.
          obtain ⟨learnt, trained⟩ := exists_trainOn?_of_heldFor? trusted held
          refine Or.inl (.of_orders learnt ?_)
          rw [uncached_of_open closed, trained, Option.bind_some]
      | none =>
          refine Or.inr (.of_orders orders.examples ?_)
          cases closedLater : later.index.isClosed with
          | true => exact (uncached_of_closed closedLater _ text).symm
          | false =>
              simp only [Bool.false_eq_true, if_false, uncached_of_open closedLater,
                IndexState.snapshot]
              cases (ClassifierCache.trainOn? settings orders.examples
                later.index.published.corpus :
                Option (Except ClassifyError (TextClassifier R))) <;> rfl

/-- What a trusted cache answers is what there would be without it. -/
theorem classify_of_trusted {session : Session} {cache : ClassifierCache R}
    (trusted : Trusted settings ⟨session, cache⟩) (orders : DrawnOrders) (text : String) :
    IsUncached settings session.index orders.question text
      (cache.classify (momentOf session.index orders) text).result := by
  rcases classify_between trusted orders [] text with now | after
  · exact now
  · exact after

/-- Whatever was done to an index and a cache over it, and in whatever orders hash tables were, a
text is classified as if there were no cache: not at all if classification is disabled or the index
is closed, and otherwise by a classifier trained on the documents that are published now, in orders
that a training might have. So the guess is that of every training now, unless similarities to these
documents depend on the orders. If others use the index during the call, its answer is that of the
moment before or after. -/
theorem classify_eq_uncached (schema : IndexSchema) (settings : ClassifierSettings)
    (actions : List CachedAction) (orders : DrawnOrders) (text : String) :
    let reached : CachedSession R := (CachedSession.start schema settings).run actions
    let index := reached.session.index
    IsUncached settings index orders.question text
        (reached.cache.classify (momentOf index orders) text).result ∧
      ∀ meanwhile : List Action,
        let later := (reached.session.run meanwhile).index
        let answer := (reached.cache.classify (momentBetween index later orders) text).result
        IsUncached settings index orders.question text answer ∨
          IsUncached settings later orders.question text answer := by
  intro reached index
  have trusted : Trusted settings reached := trusted_run_start schema actions
  exact ⟨classify_of_trusted trusted orders text, fun meanwhile =>
    classify_between trusted orders meanwhile text⟩

/-- An oak is classified while it is the only page, and then an elm appears. -/
def elmAppears : List CachedAction :=
  [.act .takeWriter,
    .act (.upsert ⟨"/oak", .ofList [(titleField, "Oak tree"), (typeField, "page")]⟩),
    .act .commit, .classify .ofKeys "oak" [],
    .act (.upsert ⟨"/elm", .ofList [(titleField, "Elm tree"), (typeField, "page")]⟩),
    .act .commit]

/-- In floating-point arithmetic the guess for an oak is the same with and without the cache, in
whatever orders hash tables are. -/
theorem classify_eq_uncached_oak :
    let reached : CachedSession Float := (CachedSession.start .default .default).run elmAppears
    let index := reached.session.index
    labelledTexts index.published.corpus titleField typeField =
        [⟨"Elm tree", "page"⟩, ⟨"Oak tree", "page"⟩] ∧
      IsDetermined Float .default index.published.corpus "oak" ∧
      ∀ orders others : DrawnOrders,
        (reached.cache.classify (momentOf index orders) "oak").result =
          uncached .default index others "oak" := by
  intro reached index
  have labelled : labelledTexts index.published.corpus titleField typeField =
      [⟨"Elm tree", "page"⟩, ⟨"Oak tree", "page"⟩] := by
    -- What was classified in between leaves no trace in the index.
    have session : reached.session = (Session.start .default).run
      [.takeWriter,
        .upsert ⟨"/oak", .ofList [(titleField, "Oak tree"), (typeField, "page")]⟩, .commit,
        .upsert ⟨"/elm", .ofList [(titleField, "Elm tree"), (typeField, "page")]⟩, .commit] := rfl
    change labelledTexts reached.session.index.published.corpus _ _ = _
    rw [session]
    decide +kernel
  have determined : IsDetermined Float .default index.published.corpus "oak" := by
    intro _
    have oneTerm : analyze "oak" = ["oak"] := by decide +kernel
    refine orderFree_of_one_term oneTerm ?_
    change ∀ known ∈ labelledTexts index.published.corpus titleField typeField, _
    rw [labelled]
    decide +kernel
  refine ⟨labelled, determined, fun orders others => ?_⟩
  have answer := (classify_eq_uncached (R := Float) .default .default elmAppears orders "oak").1
  exact answer.eq_uncached determined others

end QuestionSearch.Classifier
