import Mathlib.Data.Finset.Card
import QuestionSearch.Classifier.Cache

/-!
# Trainings of a cache

A source of documents may fail or answer anything at each call. What a call can do to a cache is
said once (`Performs`). A cache asks for documents only if it holds nothing for the generation that
is reported, and it holds something else only if it is told to forget or is given documents. So as
long as generations never decrease, a generation is trained on once, and once more for each time
the cache is told to forget (`trainings_bounded`).
-/

namespace QuestionSearch.Classifier

open QuestionSearch.Index

/-- A call to a cache, with what the source of documents answers at that moment. -/
inductive CacheCall
  /-- The classifier is asked for. -/
  | model (moment : Moment)
  /-- A text is classified. -/
  | classify (moment : Moment) (text : String)
  /-- The cache is told to forget. -/
  | invalidate

namespace CacheCall

/-- What the source answers, if it is asked. -/
def moment? : CacheCall → Option Moment
  | model moment => some moment
  | classify moment _ => some moment
  | invalidate => none

/-- Whether the cache is told to forget. -/
def isInvalidation (call : CacheCall) : Bool := call.moment?.isNone

/-- The generation that the source reports. -/
def generation? (call : CacheCall) : Option Nat :=
  call.moment?.bind fun moment => moment.generation.toOption

/-- The documents that the source gives. -/
def snapshot? (call : CacheCall) : Option Snapshot :=
  call.moment?.bind fun moment => moment.snapshot.toOption

/-- The orders of the hash tables that are made. -/
def orders? (call : CacheCall) : Option DrawnOrders := call.moment?.map Moment.orders

/-- Whether the source gives documents of the generation that it reports. -/
def IsConsistent (call : CacheCall) : Prop :=
  ∀ generation ∈ call.generation?, ∀ snapshot ∈ call.snapshot?, snapshot.generation = generation

instance : DecidablePred IsConsistent := fun call =>
  inferInstanceAs (Decidable (∀ generation ∈ call.generation?, ∀ snapshot ∈ call.snapshot?,
    snapshot.generation = generation))

theorem generation?_of_isInvalidation {call : CacheCall} (told : call.isInvalidation = true) :
    call.generation? = none := by
  rw [generation?, Option.isNone_iff_eq_none.mp told]
  rfl

/-- The generations that the source reports to some calls. -/
def reported (calls : List CacheCall) : List Nat := calls.filterMap generation?

end CacheCall

/-- A call to a cache in some state. -/
structure CacheStep (R : Type) where
  /-- The cache before the call. -/
  before : ClassifierCache R
  /-- The call. -/
  call : CacheCall

variable {R : Type} [Add R] [Sub R] [Mul R] [Div R] [LT R] [DecidableLT R] [Analytic R] [Ranked R]

/-- What a call does, whatever it answers. -/
def ClassifierCache.perform (cache : ClassifierCache R) : CacheCall → CacheAnswer R Unit
  | .model moment => { cache.model moment with result := () }
  | .classify moment text => { cache.classify moment text with result := () }
  | .invalidate => ⟨(), cache.invalidate, false, false⟩

/-- The steps of some calls in order. -/
def ClassifierCache.history (cache : ClassifierCache R) : List CacheCall → List (CacheStep R)
  | [] => []
  | call :: rest => ⟨cache, call⟩ :: (cache.perform call).cache.history rest

namespace CacheStep

/-- What the call does. -/
def answer (step : CacheStep R) : CacheAnswer R Unit := step.before.perform step.call

/-- Whether a classifier is trained, with or without success. -/
def trains (step : CacheStep R) : Bool :=
  step.answer.askedSnapshot && step.call.snapshot?.isSome

end CacheStep

/-- How often a classifier is trained during some calls. -/
def ClassifierCache.trainings (cache : ClassifierCache R) (calls : List CacheCall) : Nat :=
  (cache.history calls).countP CacheStep.trains

/-! ## One call -/

/-- What a call can do to a cache that has something to train. -/
inductive Performs (cache : ClassifierCache R) (call : CacheCall) : CacheAnswer R Unit → Prop
  /-- The cache forgets. -/
  | forget (told : call.isInvalidation = true) :
      Performs cache call ⟨(), cache.invalidate, false, false⟩
  /-- The source fails to report its generation. -/
  | unreported (asked : call.isInvalidation = false) (failed : call.generation? = none) :
      Performs cache call ⟨(), cache, true, false⟩
  /-- The outcome for the generation is held. -/
  | held {generation : Nat} {outcome : Except ClassifyError (TextClassifier R)}
      (asked : call.isInvalidation = false) (reported : call.generation? = some generation)
      (known : cache.heldFor? generation = some outcome) :
      Performs cache call ⟨(), cache, true, false⟩
  /-- The source fails to give its documents. -/
  | withheld {generation : Nat} (asked : call.isInvalidation = false)
      (reported : call.generation? = some generation)
      (unknown : cache.heldFor? generation = none) (failed : call.snapshot? = none) :
      Performs cache call ⟨(), cache, true, true⟩
  /-- A classifier is trained on the documents. -/
  | trained {generation : Nat} {snapshot : Snapshot} {orders : DrawnOrders}
      {outcome : Except ClassifyError (TextClassifier R)}
      (asked : call.isInvalidation = false) (reported : call.generation? = some generation)
      (unknown : cache.heldFor? generation = none) (given : call.snapshot? = some snapshot)
      (drawn : call.orders? = some orders)
      (learnt : ClassifierCache.trainOn? cache.settings orders.examples snapshot.documents =
        some outcome) :
      Performs cache call
        ⟨(), { cache with held := some ⟨snapshot.generation, outcome⟩ }, true, true⟩

namespace ClassifierCache

variable {cache : ClassifierCache R}

omit [Add R] [Sub R] [Mul R] [Div R] [LT R] [DecidableLT R] [Analytic R] [Ranked R] in
theorem isEnabled_congr {other : ClassifierCache R} (same : other.settings = cache.settings) :
    other.isEnabled = cache.isEnabled := by
  rw [isEnabled, isEnabled, same]

omit [Sub R] [LT R] [DecidableLT R] [Ranked R] in
theorem exists_trainOn? (enabled : cache.isEnabled = true) (orders : Nat → VectorOrder)
    (corpus : List Document) :
    ∃ outcome : Except ClassifyError (TextClassifier R),
      trainOn? cache.settings orders corpus = some outcome := by
  cases kind : cache.settings.kind with
  | none => simp [isEnabled, kind] at enabled
  | nearest => simp [trainOn?, TextClassifier.ofSettings?, kind]
  | bayes => simp [trainOn?, TextClassifier.ofSettings?, kind]

omit [Sub R] [LT R] [DecidableLT R] [Ranked R] in
theorem performs_model (enabled : cache.isEnabled = true) {call : CacheCall} {moment : Moment}
    (asked : call.moment? = some moment) :
    Performs cache call { cache.model moment with result := () } := by
  have heard : call.isInvalidation = false := by rw [CacheCall.isInvalidation, asked]; rfl
  have generationEq : call.generation? = moment.generation.toOption := by
    rw [CacheCall.generation?, asked]
    rfl
  have snapshotEq : call.snapshot? = moment.snapshot.toOption := by
    rw [CacheCall.snapshot?, asked]
    rfl
  rw [model]
  cases answered : moment.generation with
  | error fault =>
      rw [answered] at generationEq
      exact .unreported heard generationEq
  | ok generation =>
      rw [answered] at generationEq
      cases known : cache.heldFor? generation with
      | some outcome =>
          simp only [known]
          exact .held heard generationEq known
      | none =>
          simp only [known]
          cases given : moment.snapshot with
          | error fault =>
              rw [given] at snapshotEq
              exact .withheld heard generationEq known snapshotEq
          | ok snapshot =>
              rw [given] at snapshotEq
              have drawn : call.orders? = some moment.orders := by
                rw [CacheCall.orders?, asked]
                rfl
              obtain ⟨outcome, learnt⟩ :=
                exists_trainOn? enabled moment.orders.examples snapshot.documents
              simp only [learnt]
              exact .trained heard generationEq known snapshotEq drawn learnt

theorem performs (enabled : cache.isEnabled = true) (call : CacheCall) :
    Performs cache call (cache.perform call) := by
  cases call with
  | model moment => exact performs_model enabled rfl
  | classify moment text =>
      rw [perform, classify, if_pos enabled]
      exact performs_model enabled rfl
  | invalidate => exact .forget rfl

end ClassifierCache

namespace Performs

variable {cache : ClassifierCache R} {call : CacheCall} {answer : CacheAnswer R Unit}

omit [Sub R] [LT R] [DecidableLT R] [Ranked R]

/-- Documents are asked for if and only if nothing is held for the generation reported. -/
theorem askedSnapshot_iff (performed : Performs cache call answer) :
    answer.askedSnapshot = true ↔ ∃ generation, call.generation? = some generation ∧
      cache.heldFor? generation = none := by
  cases performed with
  | forget told => simp [CacheCall.generation?_of_isInvalidation told]
  | unreported _ failed => simp [failed]
  | held _ reported known => simp [reported, known]
  | withheld _ reported unknown => simp [reported, unknown]
  | trained _ reported unknown => simp [reported, unknown]

theorem settings_cache (performed : Performs cache call answer) :
    answer.cache.settings = cache.settings := by
  cases performed <;> rfl

theorem cache_of_isInvalidation (performed : Performs cache call answer)
    (told : call.isInvalidation = true) : answer.cache = cache.invalidate := by
  cases performed <;> simp_all

/-- Whatever the source fails to answer, the cache stays as it is. -/
theorem cache_of_failed (performed : Performs cache call answer)
    (heard : call.isInvalidation = false)
    (untrained : answer.askedSnapshot = false ∨ call.generation? = none ∨ call.snapshot? = none) :
    answer.cache = cache := by
  cases performed <;> simp_all

/-- The outcome of a training is held, whether or not it succeeded. -/
theorem cache_of_given (performed : Performs cache call answer)
    (asked : answer.askedSnapshot = true) {snapshot : Snapshot}
    (given : call.snapshot? = some snapshot) {orders : DrawnOrders}
    (drawn : call.orders? = some orders) :
    ∃ outcome, ClassifierCache.trainOn? cache.settings orders.examples snapshot.documents =
        some outcome ∧
      answer.cache = { cache with held := some ⟨snapshot.generation, outcome⟩ } := by
  cases performed <;> simp_all

end Performs

/-! ## Many calls -/

theorem CacheCall.reported_cons_of_none {call : CacheCall} (unreported : call.generation? = none)
    (rest : List CacheCall) : reported (call :: rest) = reported rest :=
  List.filterMap_cons_none unreported

theorem CacheCall.reported_cons_of_some {call : CacheCall} {generation : Nat}
    (reported : call.generation? = some generation) (rest : List CacheCall) :
    CacheCall.reported (call :: rest) = generation :: CacheCall.reported rest :=
  List.filterMap_cons_some reported

/-- The generations that may still be trained on if some of them need not be. -/
def due (calls : List CacheCall) (settled : Finset Nat) : Finset Nat :=
  (CacheCall.reported calls).toFinset \ settled

/-- Generations need not be trained on if they are held and no lower ones are reported from now
on. -/
structure Settled (cache : ClassifierCache R) (calls : List CacheCall) (settled : Finset Nat) :
    Prop where
  /-- They are held. -/
  held : ∀ generation ∈ settled, cache.trainedGeneration? = some generation
  /-- No lower ones are reported. -/
  below : ∀ generation ∈ settled, ∀ later ∈ CacheCall.reported calls, generation ≤ later

section Bound

omit [Add R] [Sub R] [Mul R] [Div R] [LT R] [DecidableLT R] [Analytic R] [Ranked R]

variable {cache : ClassifierCache R} {call : CacheCall} {rest : List CacheCall}
  {settled : Finset Nat}

theorem heldFor?_ne_none {generation : Nat} (held : cache.trainedGeneration? = some generation) :
    cache.heldFor? generation ≠ none := by
  obtain ⟨training, trainingEq, rfl⟩ := Option.map_eq_some_iff.mp held
  simp [ClassifierCache.heldFor?, trainingEq]

theorem reported_subset_cons (call : CacheCall) (rest : List CacheCall) :
    CacheCall.reported rest ⊆ CacheCall.reported (call :: rest) :=
  (List.sublist_cons_self call rest).filterMap CacheCall.generation? |>.subset

theorem card_due_le_cons (call : CacheCall) (rest : List CacheCall) (settled : Finset Nat) :
    (due rest settled).card ≤ (due (call :: rest) settled).card :=
  Finset.card_le_card (Finset.sdiff_subset_sdiff
    (fun _ member => List.mem_toFinset.mpr
      (reported_subset_cons call rest (List.mem_toFinset.mp member)))
    (Finset.Subset.refl _))

theorem Settled.tail (holds : Settled cache (call :: rest) settled) :
    Settled cache rest settled :=
  ⟨holds.held, fun generation member later laterMem =>
    holds.below generation member later (reported_subset_cons call rest laterMem)⟩

theorem Settled.card_le_one {calls : List CacheCall} (holds : Settled cache calls settled) :
    settled.card ≤ 1 :=
  Finset.card_le_one.mpr fun first firstMem second secondMem =>
    Option.some.inj ((holds.held first firstMem).symm.trans (holds.held second secondMem))

/-- A training settles its generation, which was due until then. -/
theorem card_due_trained (holds : Settled cache (call :: rest) settled) {generation : Nat}
    (reported : call.generation? = some generation) (unknown : cache.heldFor? generation = none)
    (lowest : ∀ later ∈ CacheCall.reported rest, generation ≤ later) :
    1 + (due rest {generation}).card ≤ (due (call :: rest) settled).card := by
  have reportedEq := CacheCall.reported_cons_of_some reported rest
  have lower : ∀ older ∈ settled, older < generation := by
    intro older member
    have notHigher := holds.below older member generation (by simp [reportedEq])
    refine Nat.lt_of_le_of_ne notHigher ?_
    rintro rfl
    exact heldFor?_ne_none (holds.held older member) unknown
  have allDue : due (call :: rest) settled =
      insert generation (CacheCall.reported rest).toFinset := by
    rw [due, reportedEq, List.toFinset_cons]
    refine Finset.sdiff_eq_self_of_disjoint (Finset.disjoint_right.mpr fun older member later => ?_)
    have notLower : generation ≤ older := by
      rcases Finset.mem_insert.mp later with rfl | laterMem
      · exact Nat.le_refl _
      · exact lowest older (List.mem_toFinset.mp laterMem)
    exact Nat.not_lt_of_le notLower (lower older member)
  rw [allDue, due, Finset.sdiff_singleton_eq_erase, ← Finset.erase_insert_eq_erase, Nat.add_comm,
    Finset.card_erase_add_one (Finset.mem_insert_self _ _)]

end Bound

/-- What one call trains, and what is due afterwards, was due before or is due to forgetting. -/
theorem exists_settled {cache : ClassifierCache R} {call : CacheCall} {rest : List CacheCall}
    {settled : Finset Nat} (enabled : cache.isEnabled = true) (consistent : call.IsConsistent)
    (nondecreasing : (CacheCall.reported (call :: rest)).Pairwise (· ≤ ·))
    (holds : Settled cache (call :: rest) settled) :
    ∃ later, Settled (cache.perform call).cache rest later ∧
      (if CacheStep.trains ⟨cache, call⟩ then 1 else 0) + (due rest later).card ≤
        (due (call :: rest) settled).card + if call.isInvalidation then 1 else 0 := by
  have performed := cache.performs enabled call
  rw [CacheStep.trains, CacheStep.answer]
  dsimp only
  generalize cache.perform call = answer at performed ⊢
  cases performed with
  | forget told =>
      -- The one generation that was settled may become due again.
      refine ⟨∅, ⟨by simp, by simp⟩, ?_⟩
      have again := Finset.card_le_card_sdiff_add_card (s := (CacheCall.reported rest).toFinset)
        (t := settled)
      have atMostOne := holds.card_le_one
      have unreported := CacheCall.generation?_of_isInvalidation told
      simp only [due, CacheCall.reported_cons_of_none unreported, Finset.sdiff_empty, told,
        Bool.false_and, Bool.false_eq_true, if_false, if_true]
      omega
  | unreported heard failed =>
      refine ⟨settled, holds.tail, ?_⟩
      simpa [heard] using card_due_le_cons call rest settled
  | held heard reported known =>
      refine ⟨settled, holds.tail, ?_⟩
      simpa [heard] using card_due_le_cons call rest settled
  | withheld heard reported unknown failed =>
      refine ⟨settled, holds.tail, ?_⟩
      simpa [heard, failed] using card_due_le_cons call rest settled
  | @trained generation snapshot _ _ heard reported unknown given =>
      obtain rfl := consistent generation reported snapshot given
      rw [CacheCall.reported_cons_of_some reported, List.pairwise_cons] at nondecreasing
      refine ⟨{snapshot.generation}, ⟨?_, ?_⟩, ?_⟩
      · simp [ClassifierCache.trainedGeneration?]
      · simpa using nondecreasing.1
      · simpa [heard, given] using card_due_trained holds reported unknown nondecreasing.1

theorem trainings_cons (cache : ClassifierCache R) (call : CacheCall) (rest : List CacheCall) :
    cache.trainings (call :: rest) = (cache.perform call).cache.trainings rest +
      if CacheStep.trains ⟨cache, call⟩ then 1 else 0 :=
  List.countP_cons

theorem trainings_le_of_settled {calls : List CacheCall}
    (consistent : ∀ call ∈ calls, call.IsConsistent)
    (nondecreasing : (CacheCall.reported calls).Pairwise (· ≤ ·)) {cache : ClassifierCache R}
    (enabled : cache.isEnabled = true) {settled : Finset Nat}
    (holds : Settled cache calls settled) :
    cache.trainings calls ≤ (due calls settled).card + calls.countP CacheCall.isInvalidation := by
  induction calls generalizing cache settled with
  | nil => exact Nat.zero_le _
  | cons call rest ih =>
      obtain ⟨callConsistent, restConsistent⟩ := List.forall_mem_cons.mp consistent
      obtain ⟨later, laterHolds, spent⟩ :=
        exists_settled enabled callConsistent nondecreasing holds
      have kept := (cache.performs enabled call).settings_cache
      have enabledLater := (ClassifierCache.isEnabled_congr kept).trans enabled
      have restNondecreasing := nondecreasing.sublist
        ((List.sublist_cons_self call rest).filterMap CacheCall.generation?)
      have restLe := ih restConsistent restNondecreasing enabledLater laterHolds
      rw [trainings_cons, List.countP_cons]
      omega

theorem settings_of_mem_history {calls : List CacheCall} {cache : ClassifierCache R}
    (enabled : cache.isEnabled = true) {step : CacheStep R} (member : step ∈ cache.history calls) :
    step.before.settings = cache.settings := by
  induction calls generalizing cache with
  | nil => cases member
  | cons call rest ih =>
      rcases List.mem_cons.mp member with rfl | later
      · rfl
      · have kept := (cache.performs enabled call).settings_cache
        have enabledLater := (ClassifierCache.isEnabled_congr kept).trans enabled
        exact (ih enabledLater later).trans kept

/-- Whatever a source answers and a cache holds, each call to the cache asks for documents if and
only if nothing is held for the generation just reported. If they are given, then the outcome of
training on them is held for their generation; if anything fails, the cache is as it was. So if the
source reports generations that never decrease and gives documents of them, there is at most one
training for each generation reported and for each time the cache is told to forget. -/
theorem trainings_bounded {cache : ClassifierCache R} (enabled : cache.isEnabled = true)
    (calls : List CacheCall) :
    (∀ step ∈ cache.history calls,
      (step.answer.askedSnapshot = true ↔ ∃ generation,
        step.call.generation? = some generation ∧ step.before.heldFor? generation = none) ∧
      (step.call.isInvalidation = true → step.answer.cache.held = none) ∧
      (step.call.isInvalidation = false →
        step.answer.askedSnapshot = false ∨ step.call.generation? = none ∨
            step.call.snapshot? = none →
          step.answer.cache = step.before) ∧
      ∀ snapshot orders, step.answer.askedSnapshot = true →
        step.call.snapshot? = some snapshot → step.call.orders? = some orders →
        step.answer.cache.trainedGeneration? = some snapshot.generation ∧
          step.answer.cache.held.map Training.outcome =
            ClassifierCache.trainOn? cache.settings orders.examples snapshot.documents) ∧
    ((∀ call ∈ calls, call.IsConsistent) → (CacheCall.reported calls).Pairwise (· ≤ ·) →
      cache.trainings calls ≤
        (CacheCall.reported calls).toFinset.card + calls.countP CacheCall.isInvalidation) := by
  refine ⟨fun step member => ?_, fun consistent nondecreasing => ?_⟩
  · have same := settings_of_mem_history enabled member
    have stepEnabled := (ClassifierCache.isEnabled_congr same).trans enabled
    have performed : Performs step.before step.call step.answer :=
      step.before.performs stepEnabled step.call
    refine ⟨performed.askedSnapshot_iff, fun told => ?_, performed.cache_of_failed, ?_⟩
    · rw [performed.cache_of_isInvalidation told]
      rfl
    · intro snapshot orders asked given drawn
      obtain ⟨outcome, learnt, cacheEq⟩ := performed.cache_of_given asked given drawn
      rw [cacheEq, ← same, learnt]
      exact ⟨rfl, rfl⟩
  · have nothingSettled : Settled cache calls ∅ := ⟨by simp, by simp⟩
    simpa [due] using trainings_le_of_settled consistent nondecreasing enabled nothingSettled

/-- A cache that trains naive Bayes. -/
def bayesCache : ClassifierCache Float :=
  .ofSettings { ClassifierSettings.default with kind := .bayes }

/-- A page that can be learnt from. -/
def oakPage : Document := ⟨"/oak", .ofList [(titleField, "Old oak tree"), (typeField, "page")]⟩

/-- The documents are out of reach at first. Then there is nothing to learn from, which the cache is
told to forget, and in the end a page appears. -/
def oakAppears : List CacheCall :=
  [.model ⟨.ok 1, .error .closed, .ofKeys⟩, .classify ⟨.ok 1, .ok ⟨1, []⟩, .ofKeys⟩ "oak",
    .model ⟨.ok 1, .ok ⟨1, []⟩, .ofKeys⟩, .invalidate, .model ⟨.ok 1, .ok ⟨1, []⟩, .ofKeys⟩,
    .model ⟨.error .closed, .ok ⟨2, [oakPage]⟩, .ofKeys⟩,
    .classify ⟨.ok 2, .ok ⟨2, [oakPage]⟩, .ofKeys⟩ "oak",
    .classify ⟨.ok 2, .error .closed, .ofKeys⟩ "elm"]

/-- There are as many trainings as there can be: one for each of two generations, and one more
because the cache is told to forget. -/
theorem trainings_bounded_oak :
    (bayesCache.history oakAppears).map (fun step => step.answer.askedSnapshot) =
        [true, true, false, false, true, false, true, false] ∧
      bayesCache.trainings oakAppears = 3 ∧
      (CacheCall.reported oakAppears).toFinset = {1, 2} ∧
      oakAppears.countP CacheCall.isInvalidation = 1 ∧
      bayesCache.trainings oakAppears ≤
        (CacheCall.reported oakAppears).toFinset.card +
          oakAppears.countP CacheCall.isInvalidation := by
  have enabled : bayesCache.isEnabled = true := rfl
  obtain ⟨-, bounded⟩ := trainings_bounded enabled oakAppears
  exact ⟨by decide +kernel, by decide +kernel, by decide, by decide,
    bounded (by decide) (by decide)⟩

end QuestionSearch.Classifier
