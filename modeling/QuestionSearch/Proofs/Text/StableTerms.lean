import Mathlib.Data.List.TakeWhile
import QuestionSearch.Proofs.Query.Spacing

/-!
# Stable terms

Lower case is reached at once: no letter that another one is lowered to is lowered itself, which is
read off the table of case runs (`apply_target`), and all of them are letters or numbers again. The
capital I with a dot above is the one exception. Its lower case is an i and a dot that is neither a
letter nor a number. So the terms of a text are stable, in that they are terms of their own, if and
only if this letter is not in the text (`terms_stable_iff`).
-/

namespace QuestionSearch.Text

/-! ## Case runs -/

/-- Whether one of some ranges holds all code points from one to another. -/
def holdsRange (first last : Nat) : List (Nat × Nat) → Bool
  | [] => false
  | range :: rest =>
    if Nat.blt range.2 first then holdsRange first last rest
    else Nat.ble range.1 first && Nat.ble last range.2

theorem inRanges_of_holdsRange {first last code : Nat} {ranges : List (Nat × Nat)}
    (holds : holdsRange first last ranges = true) (above : first ≤ code) (below : code ≤ last) :
    inRanges code ranges = true := by
  induction ranges with
  | nil => cases holds
  | cons range rest ih =>
      rw [holdsRange] at holds
      rw [inRanges]
      split at holds
      · rename_i past
        rw [if_pos (Nat.lt_of_lt_of_le (Nat.blt_eq.mp past) above)]
        exact ih holds
      · rw [Bool.and_eq_true, Nat.ble_eq, Nat.ble_eq] at holds
        rw [if_neg (by omega)]
        exact decide_eq_true (by omega)

namespace CaseRun

/-- Whether a code point is an upper-case letter of a run. -/
def Lowers (run : CaseRun) (code : Nat) : Prop :=
  run.first ≤ code ∧ code ≤ run.last ∧ (code - run.first) % run.step = 0

/-- The last lower-case letter of a run. -/
def lastTarget (run : CaseRun) : Nat := run.target + (run.last - run.first)

/-- A test by which no lower-case letter of a run is an upper-case letter of another one. Their
ranges are apart, or the letters of both alternate. -/
def isApart (run other : CaseRun) : Bool :=
  Nat.blt run.lastTarget other.first || Nat.blt other.last run.target ||
    (Nat.beq other.step 2 && (Nat.beq run.step 2 || Nat.beq run.first run.last) &&
      Nat.beq ((run.target + other.first) % 2) 1)

/-- A code point is left as it is or lowered by one of the runs. -/
theorem apply_cases (code : Nat) (runs : List CaseRun) :
    apply code runs = code ∨
      ∃ run ∈ runs, run.Lowers code ∧ apply code runs = run.target + (code - run.first) := by
  induction runs with
  | nil => exact Or.inl rfl
  | cons run rest ih =>
      rw [apply]
      split
      · refine ih.imp_right fun ⟨found, member, lowers⟩ => ?_
        exact ⟨found, List.mem_cons_of_mem _ member, lowers⟩
      · split
        · rename_i notPast lowers
          have inside := Nat.le_of_not_lt notPast
          exact Or.inr ⟨run, List.mem_cons_self, ⟨lowers.1, inside, lowers.2⟩, rfl⟩
        · exact Or.inl rfl

theorem not_lowers_of_isApart {run other : CaseRun} (apart : run.isApart other = true) {code : Nat}
    (lowers : run.Lowers code) : ¬ other.Lowers (run.target + (code - run.first)) := by
  simp only [isApart, lastTarget, Bool.or_eq_true, Bool.and_eq_true, Nat.blt_eq, Nat.beq_eq]
    at apart
  obtain ⟨above, below, stepped⟩ := lowers
  rintro ⟨otherAbove, otherBelow, otherStepped⟩
  rcases apart with (before | after) | ⟨⟨alternates, runAlternates⟩, odd⟩
  · omega
  · omega
  · rw [alternates] at otherStepped
    rcases runAlternates with alternates | single
    · rw [alternates] at stepped
      omega
    · omega

theorem isApart_of_mem {run other : CaseRun} (member : run ∈ lowercaseRuns)
    (otherMember : other ∈ lowercaseRuns) : run.isApart other = true := by
  -- All pairs of runs are compared, so the test is one of numbers that the kernel computes at once.
  have apart : (lowercaseRuns.all fun run => lowercaseRuns.all fun other =>
      run.isApart other) = true := by
    decide +kernel
  exact List.all_eq_true.mp (List.all_eq_true.mp apart run member) other otherMember

/-- What a letter is lowered to is not lowered again. -/
theorem apply_target {run : CaseRun} (member : run ∈ lowercaseRuns) {code : Nat}
    (lowers : run.Lowers code) :
    apply (run.target + (code - run.first)) lowercaseRuns = run.target + (code - run.first) := by
  rcases apply_cases (run.target + (code - run.first)) lowercaseRuns with same | lowered
  · exact same
  · obtain ⟨other, otherMember, otherLowers, _⟩ := lowered
    exact absurd otherLowers (not_lowers_of_isApart (isApart_of_mem member otherMember) lowers)

/-- What a letter is lowered to is a letter or a number. -/
theorem inRanges_target {run : CaseRun} (member : run ∈ lowercaseRuns) {code : Nat}
    (lowers : run.Lowers code) :
    inRanges (run.target + (code - run.first)) alphanumericRanges = true := by
  have holds : (lowercaseRuns.all fun run =>
      holdsRange run.target run.lastTarget alphanumericRanges) = true := by
    decide +kernel
  obtain ⟨above, below, _⟩ := lowers
  refine inRanges_of_holdsRange (List.all_eq_true.mp holds run member) (by omega) ?_
  rw [lastTarget]
  omega

/-- No letter is lowered to the capital I with a dot above. -/
theorem target_ne_dotted {run : CaseRun} (member : run ∈ lowercaseRuns) {code : Nat}
    (lowers : run.Lowers code) : run.target + (code - run.first) ≠ 'İ'.toNat := by
  have apart : ∀ run ∈ lowercaseRuns, 'İ'.toNat < run.target ∨ run.lastTarget < 'İ'.toNat := by
    decide +kernel
  obtain ⟨above, below, _⟩ := lowers
  have outside := apart run member
  rw [lastTarget] at outside
  omega

end CaseRun

theorem isValidChar_of_inRanges {code : Nat} (inside : inRanges code alphanumericRanges = true) :
    code.isValidChar := by
  have valid : ∀ range ∈ alphanumericRanges,
      range.2 < 0xD800 ∨ 0xDFFF < range.1 ∧ range.2 < 0x110000 := by
    decide +kernel
  obtain ⟨range, member, above, below⟩ := mem_of_inRanges inside
  have bounds := valid range member
  rw [Nat.isValidChar]
  omega

theorem toNat_ofNat_of_isValidChar {code : Nat} (valid : code.isValidChar) :
    (Char.ofNat code).toNat = code := by
  rw [Char.ofNat, dif_pos valid]
  rfl

/-! ## Characters -/

/-- The dot that is left over when the capital I with a dot above is lowered. -/
def dotAbove : Char := '\u0307'

/-- Whether a character is a letter or a number that lower case leaves as it is. -/
def IsLowered (c : Char) : Prop := isAlphanumeric c = true ∧ lowercaseChar c = [c]

namespace IsLowered

variable {c : Char}

theorem ne_sigma (lowered : IsLowered c) : c ≠ 'Σ' := by
  rintro rfl
  exact absurd lowered.2 (by decide)

theorem ne_dotted (lowered : IsLowered c) : c ≠ 'İ' := by
  rintro rfl
  exact absurd lowered.2 (by decide)

theorem ne_dotAbove (lowered : IsLowered c) : c ≠ dotAbove := by
  rintro rfl
  exact absurd lowered.1 (by decide)

end IsLowered

theorem isLowered_of_mem_lowercaseChar {c d : Char} (alphanumeric : isAlphanumeric c = true)
    (plain : c ≠ 'İ') (member : d ∈ lowercaseChar c) : IsLowered d := by
  rw [lowercaseChar, if_neg plain, List.mem_singleton] at member
  rcases CaseRun.apply_cases c.toNat lowercaseRuns with same | ⟨run, runMem, lowers, found⟩
  · rw [same, Char.ofNat_toNat] at member
    subst member
    exact ⟨alphanumeric, by rw [lowercaseChar, if_neg plain, same, Char.ofNat_toNat]⟩
  · have inside := CaseRun.inRanges_target runMem lowers
    have code : d.toNat = run.target + (c.toNat - run.first) := by
      rw [member, found, toNat_ofNat_of_isValidChar (isValidChar_of_inRanges inside)]
    have notDotted : d ≠ 'İ' := fun same =>
      CaseRun.target_ne_dotted runMem lowers (code ▸ congrArg Char.toNat same)
    refine ⟨by rw [isAlphanumeric, code, inside], ?_⟩
    rw [lowercaseChar, if_neg notDotted, code, CaseRun.apply_target runMem lowers, ← code,
      Char.ofNat_toNat]

theorem isLowered_sigma : IsLowered 'σ' ∧ IsLowered 'ς' :=
  ⟨⟨by decide, by decide⟩, by decide, by decide⟩

/-! ## Words -/

/-- The lower case of one character, with what stands around it. -/
def loweredBetween (before : List Char) (c : Char) (rest : List Char) : List Char :=
  if c = 'Σ' then [if meetsCased before && !meetsCased rest then 'ς' else 'σ'] else lowercaseChar c

theorem lowercaseAfter_cons (before : List Char) (c : Char) (rest : List Char) :
    lowercaseAfter before (c :: rest) =
      loweredBetween before c rest ++ lowercaseAfter (c :: before) rest := rfl

theorem isLowered_or_dot_of_mem_loweredBetween {before rest : List Char} {c d : Char}
    (alphanumeric : isAlphanumeric c = true) (member : d ∈ loweredBetween before c rest) :
    IsLowered d ∨ d = dotAbove ∧ c = 'İ' := by
  rw [loweredBetween] at member
  split at member
  · rw [List.mem_singleton] at member
    subst member
    split
    · exact Or.inl isLowered_sigma.2
    · exact Or.inl isLowered_sigma.1
  · by_cases dotted : c = 'İ'
    · subst dotted
      have parts : d = 'i' ∨ d = dotAbove := by simpa [lowercaseChar, dotAbove] using member
      rcases parts with rfl | rfl
      · exact Or.inl ⟨by decide, by decide⟩
      · exact Or.inr ⟨rfl, rfl⟩
    · exact Or.inl (isLowered_of_mem_lowercaseChar alphanumeric dotted member)

/-- What a word of letters and numbers is lowered to is lowered, but for the dot of a capital I. -/
theorem isLowered_or_dot_of_mem_lowercaseAfter {before word : List Char}
    (alphanumeric : ∀ c ∈ word, isAlphanumeric c = true) {d : Char}
    (member : d ∈ lowercaseAfter before word) : IsLowered d ∨ d = dotAbove ∧ 'İ' ∈ word := by
  induction word generalizing before with
  | nil => cases member
  | cons c rest ih =>
      obtain ⟨first, others⟩ := List.forall_mem_cons.mp alphanumeric
      rw [lowercaseAfter_cons, List.mem_append] at member
      rcases member with now | later
      · refine (isLowered_or_dot_of_mem_loweredBetween first now).imp_right fun ⟨dot, dotted⟩ => ?_
        exact ⟨dot, dotted ▸ List.mem_cons_self⟩
      · refine (ih others later).imp_right fun ⟨dot, dotted⟩ => ?_
        exact ⟨dot, List.mem_cons_of_mem _ dotted⟩

theorem dotAbove_mem_lowercaseAfter {before word : List Char} (dotted : 'İ' ∈ word) :
    dotAbove ∈ lowercaseAfter before word := by
  induction word generalizing before with
  | nil => cases dotted
  | cons c rest ih =>
      rw [lowercaseAfter_cons, List.mem_append]
      rcases List.mem_cons.mp dotted with rfl | later
      · have lowered : dotAbove ∈ lowercaseChar 'İ' := by decide
        exact Or.inl lowered
      · exact Or.inr (ih later)

theorem lowercaseAfter_eq_self {before word : List Char} (lowered : ∀ c ∈ word, IsLowered c) :
    lowercaseAfter before word = word := by
  induction word generalizing before with
  | nil => rfl
  | cons c rest ih =>
      obtain ⟨first, others⟩ := List.forall_mem_cons.mp lowered
      rw [lowercaseAfter_cons, loweredBetween, if_neg first.ne_sigma, first.2, ih others]
      rfl

theorem lowercase_ne_nil {word : List Char} (nonempty : word ≠ []) : lowercase word ≠ [] := by
  obtain ⟨c, rest, rfl⟩ := List.exists_cons_of_ne_nil nonempty
  rw [lowercase, lowercaseAfter_cons, loweredBetween, lowercaseChar]
  split
  · simp
  · split <;> simp

/-! ## Terms -/

section Runs

variable {accepts : Char → Bool}

/-- The runs hold what the test accepts, in order. -/
theorem flatten_runsOf (chars : List Char) :
    (runsOf accepts chars).flatten = chars.filter accepts := by
  fun_induction runsOf accepts chars with
  | case1 => rfl
  | case2 c rest accepted ih =>
      have here : (rest.takeWhile accepts).filter accepts = rest.takeWhile accepts :=
        List.filter_eq_self.mpr fun _ => List.mem_takeWhile_imp
      rw [List.flatten_cons, ih, List.filter_cons_of_pos accepted, List.cons_append]
      conv_rhs => rw [← List.takeWhile_append_dropWhile (p := accepts) (l := rest),
        List.filter_append, here]
  | case3 c rest refused ih => rw [ih, List.filter_cons_of_neg refused]

theorem runsOf_eq_singleton {run : List Char} (nonempty : run ≠ [])
    (accepted : ∀ c ∈ run, accepts c = true) : runsOf accepts run = [run] := by
  obtain ⟨c, rest, rfl⟩ := List.exists_cons_of_ne_nil nonempty
  obtain ⟨first, others⟩ := List.forall_mem_cons.mp accepted
  rw [runsOf, if_pos first, List.takeWhile_eq_self_iff.mpr others,
    List.dropWhile_eq_nil_iff.mpr others, runsOf]

end Runs

section Terms

variable {text term : String}

theorem mem_analyze_iff :
    term ∈ analyze text ↔
      ∃ run ∈ runsOf isAlphanumeric text.toList, term = String.ofList (lowercase run) := by
  simp [analyze, eq_comm]

theorem ne_empty_of_mem_analyze (member : term ∈ analyze text) : term ≠ "" := by
  obtain ⟨run, runMem, rfl⟩ := mem_analyze_iff.mp member
  intro same
  exact lowercase_ne_nil (mem_runsOf runMem).1 (String.ofList_eq_empty_iff.mp same)

theorem isLowered_or_dot_of_mem_term (member : term ∈ analyze text) {c : Char}
    (inTerm : c ∈ term.toList) : IsLowered c ∨ c = dotAbove ∧ 'İ' ∈ text.toList := by
  obtain ⟨run, runMem, rfl⟩ := mem_analyze_iff.mp member
  rw [String.toList_ofList] at inTerm
  refine (isLowered_or_dot_of_mem_lowercaseAfter (mem_runsOf runMem).2 inTerm).imp_right ?_
  rintro ⟨dot, dotted⟩
  have inRuns := List.mem_flatten.mpr ⟨run, runMem, dotted⟩
  rw [flatten_runsOf] at inRuns
  exact ⟨dot, List.mem_of_mem_filter inRuns⟩

/-- A dot is left over in a term exactly if a capital I with a dot above is in the text. -/
theorem exists_dotAbove_iff :
    (∃ term ∈ analyze text, dotAbove ∈ term.toList) ↔ 'İ' ∈ text.toList := by
  constructor
  · rintro ⟨term, member, dot⟩
    rcases isLowered_or_dot_of_mem_term member dot with lowered | ⟨_, dotted⟩
    · exact absurd rfl lowered.ne_dotAbove
    · exact dotted
  · intro dotted
    have kept : 'İ' ∈ text.toList.filter isAlphanumeric := by
      rw [List.mem_filter]
      exact ⟨dotted, by decide⟩
    rw [← flatten_runsOf, List.mem_flatten] at kept
    obtain ⟨run, runMem, inRun⟩ := kept
    refine ⟨_, mem_analyze_iff.mpr ⟨run, runMem, rfl⟩, ?_⟩
    rw [String.toList_ofList]
    exact dotAbove_mem_lowercaseAfter inRun

/-- A lowered term is the only term of its own. -/
theorem analyze_of_isLowered (nonempty : term ≠ "") (lowered : ∀ c ∈ term.toList, IsLowered c) :
    analyze term = [term] := by
  have run := runsOf_eq_singleton (mt String.toList_eq_nil_iff.mp nonempty)
    fun c member => (lowered c member).1
  rw [analyze, run, List.map_singleton, lowercase, lowercaseAfter_eq_self lowered,
    String.ofList_toList]

end Terms

/-- A text of the terms of another one, with spaces between them. -/
def reduced (text : String) : String := " ".intercalate (analyze text)

/-- Without a capital I with a dot above, the terms of a text are those of its reduced text. -/
theorem analyze_reduced {text : String} (plain : 'İ' ∉ text.toList) :
    analyze (reduced text) = analyze text := by
  have alone : ∀ term ∈ analyze text, analyze term = [term] := by
    intro term member
    refine analyze_of_isLowered (ne_empty_of_mem_analyze member) fun c inTerm => ?_
    exact (isLowered_or_dot_of_mem_term member inTerm).resolve_right fun dotted => plain dotted.2
  rw [reduced, analyze_intercalate, List.flatMap_congr alone, List.flatMap_singleton']

/-- The dot that is left over of a capital I is lost when the terms are analysed again. -/
theorem analyze_reduced_ne {text : String} (dotted : 'İ' ∈ text.toList) :
    analyze (reduced text) ≠ analyze text := by
  intro same
  obtain ⟨term, member, dot⟩ := exists_dotAbove_iff.mpr dotted
  rw [← same, reduced, analyze_intercalate] at member
  obtain ⟨first, firstMem, member⟩ := List.mem_flatMap.mp member
  -- A dot in a second term comes from a capital I in a first one, but those are lowered.
  have again := exists_dotAbove_iff.mp ⟨term, member, dot⟩
  rcases isLowered_or_dot_of_mem_term firstMem again with lowered | ⟨other, _⟩
  · exact lowered.ne_dotted rfl
  · exact absurd other (by decide)

end QuestionSearch.Text

namespace QuestionSearch

open QuestionSearch.Classifier QuestionSearch.Index QuestionSearch.Text

variable {R : Type} [Add R] [Sub R] [Mul R] [Div R] [LT R] [DecidableLT R] [Analytic R] [Ranked R]

/-- No term of a text is empty, and its characters are letters and numbers, but for the dot that is
left over when the capital I with a dot above is lowered. The terms are letters and numbers
throughout exactly if this letter is not in the text, and exactly then analysing them again gives
the same terms. A field that is analysed is then indexed alike under the text and under its terms,
and any classifier guesses alike for both, if hash tables are in the same orders. -/
theorem terms_stable_iff (text : String) :
    (∀ term ∈ analyze text, term ≠ "" ∧
      ∀ c ∈ term.toList, isAlphanumeric c = true ∨ c = dotAbove) ∧
    ((∀ term ∈ analyze text, ∀ c ∈ term.toList, isAlphanumeric c = true) ↔ 'İ' ∉ text.toList) ∧
    (analyze (reduced text) = analyze text ↔ 'İ' ∉ text.toList) ∧
    ('İ' ∉ text.toList →
      (∀ (schema : IndexSchema) (field : String), schema.isKeyword field = false →
        schema.fieldTerms field (reduced text) = schema.fieldTerms field text) ∧
      ∀ (classifier : TextClassifier R) (order : VectorOrder),
        classifier.assign order (reduced text) = classifier.assign order text) := by
  refine ⟨fun term member => ⟨ne_empty_of_mem_analyze member, fun c inTerm => ?_⟩,
    ⟨fun letters dotted => ?_, fun plain term member c inTerm => ?_⟩,
    ⟨fun same dotted => analyze_reduced_ne dotted same, analyze_reduced⟩,
    fun plain => ⟨fun schema field analysed => ?_, ?_⟩⟩
  · exact (isLowered_or_dot_of_mem_term member inTerm).imp And.left And.left
  · obtain ⟨term, member, dot⟩ := exists_dotAbove_iff.mpr dotted
    exact absurd (letters term member dotAbove dot) (by decide)
  · rcases isLowered_or_dot_of_mem_term member inTerm with lowered | ⟨_, dotted⟩
    · exact lowered.1
    · exact absurd dotted plain
  · simp only [IndexSchema.fieldTerms, analysed, Bool.false_eq_true, if_false, termFrequencies,
      analyze_reduced plain]
  · exact TextClassifier.assign_congr (analyze_reduced plain)

/-- A text with both lower cases of the sigma is reduced and stays as it is. -/
theorem terms_stable_iff_sisyphus :
    'İ' ∉ "ΣΊΣΥΦΟΣ, Ⅻ".toList ∧ analyze "ΣΊΣΥΦΟΣ, Ⅻ" = ["σίσυφος", "ⅻ"] ∧
      reduced "ΣΊΣΥΦΟΣ, Ⅻ" = "σίσυφος ⅻ" ∧ analyze "σίσυφος ⅻ" = ["σίσυφος", "ⅻ"] ∧
      IndexSchema.default.isKeyword titleField = false ∧
      IndexSchema.default.fieldTerms titleField "σίσυφος ⅻ" =
        IndexSchema.default.fieldTerms titleField "ΣΊΣΥΦΟΣ, Ⅻ" := by
  have plain : 'İ' ∉ "ΣΊΣΥΦΟΣ, Ⅻ".toList := by decide
  have terms : analyze "ΣΊΣΥΦΟΣ, Ⅻ" = ["σίσυφος", "ⅻ"] := by decide +kernel
  have text : reduced "ΣΊΣΥΦΟΣ, Ⅻ" = "σίσυφος ⅻ" := by decide +kernel
  have analysed : IndexSchema.default.isKeyword titleField = false := by decide
  obtain ⟨_, _, stable, alike⟩ := terms_stable_iff (R := Float) "ΣΊΣΥΦΟΣ, Ⅻ"
  refine ⟨plain, terms, text, ?_, analysed, ?_⟩
  · rw [← text, stable.mpr plain, terms]
  · rw [← text]
    exact (alike plain).1 .default titleField analysed

/-- The term of the capital I with a dot above has a character that is neither a letter nor a
number, and it is not a term of its own. -/
theorem dotted_term_unstable :
    analyze "İ" = [String.ofList ['i', dotAbove]] ∧ isAlphanumeric dotAbove = false ∧
      analyze (reduced "İ") = ["i"] ∧ analyze (reduced "İ") ≠ analyze "İ" := by
  exact ⟨by decide +kernel, by decide, by decide +kernel, by decide +kernel⟩

end QuestionSearch
