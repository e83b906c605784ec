import QuestionSearch.Text.Analysis

/-!
# Terms of words

The terms of a text are those of its words one after the other (`analyze_eq_flatMap_words`), as no
blank is a letter or a number (`isAlphanumeric_of_isBlank`) and lower case is decided within a run.
So texts of the same words have the same terms, whatever stands between the words, and texts with
spaces between them have the terms of each one after the other (`analyze_intercalate`).
-/

namespace QuestionSearch.Text

section Runs

variable {inner outer : Char → Bool}

/-- If a stricter test refuses what another one refuses, its runs are found within those of the
other one. -/
theorem runsOf_eq_flatMap (refused : ∀ c, outer c = false → inner c = false)
    (chars : List Char) : runsOf inner chars = (runsOf outer chars).flatMap (runsOf inner) := by
  fun_induction runsOf outer chars with
  | case1 => simp [runsOf]
  | case2 c rest _ ih =>
      rw [List.flatMap_cons, ← ih]
      -- The first run ends with the text or before a character that both tests refuse.
      cases remaining : rest.dropWhile outer with
      | nil =>
          have whole := List.takeWhile_append_dropWhile (p := outer) (l := rest)
          rw [remaining, List.append_nil] at whole
          rw [whole, runsOf, List.append_nil]
      | cons d later =>
          have outerRefuses : outer d = false := by
            simpa [remaining] using List.head?_dropWhile_not outer rest
          have split : c :: rest = (c :: rest.takeWhile outer) ++ d :: later := by
            rw [← remaining, List.cons_append, List.takeWhile_append_dropWhile]
          have innerRefuses := refused d outerRefuses
          rw [split, runsOf_append_cons innerRefuses, ← List.nil_append (d :: later),
            runsOf_append_cons innerRefuses, runsOf, List.nil_append]
  | case3 c rest outerRefuses ih =>
      have innerRefuses := refused c (by simpa using outerRefuses)
      rw [← ih, runsOf, if_neg (by simp [innerRefuses])]

end Runs

/-- No blank is a letter or a number. -/
theorem isAlphanumeric_of_isBlank {c : Char} (blank : isBlank c = true) :
    isAlphanumeric c = false := by
  obtain ⟨range, member, first, last⟩ := mem_of_inRanges blank
  have apart : ∀ range ∈ blankRanges, ∀ offset < range.2 + 1 - range.1,
      inRanges (range.1 + offset) alphanumericRanges = false := by
    decide +kernel
  have code : c.toNat = range.1 + (c.toNat - range.1) := by omega
  rw [isAlphanumeric, code]
  exact apart range member _ (by omega)

/-- The terms of a text are those of its words one after the other. -/
theorem analyze_eq_flatMap_words (text : String) : analyze text = (words text).flatMap analyze := by
  have refused (c : Char) (blank : (!isBlank c) = false) : isAlphanumeric c = false :=
    isAlphanumeric_of_isBlank (by simpa using blank)
  rw [analyze, runsOf_eq_flatMap refused, words, List.map_flatMap, List.flatMap_map]
  simp [analyze]

/-- Texts of the same words have the same terms. -/
theorem analyze_congr {text other : String} (same : words text = words other) :
    analyze text = analyze other := by
  rw [analyze_eq_flatMap_words, same, ← analyze_eq_flatMap_words]

theorem analyze_empty : analyze "" = [] := by simp [analyze, runsOf]

/-- A space ends a term, and lower case does not look beyond it. -/
theorem analyze_append_space (text other : String) :
    analyze (text ++ " " ++ other) = analyze text ++ analyze other := by
  have joined : (text ++ " " ++ other).toList = text.toList ++ ' ' :: other.toList := by simp
  have refused : isAlphanumeric ' ' = false := by decide
  rw [analyze, joined, runsOf_append_cons refused, List.map_append]
  rfl

/-- The terms of texts with spaces between them are those of each text in turn. -/
theorem analyze_intercalate (texts : List String) :
    analyze (" ".intercalate texts) = texts.flatMap analyze := by
  induction texts with
  | nil => rw [String.intercalate_nil, analyze_empty, List.flatMap_nil]
  | cons text rest ih =>
      cases rest with
      | nil => rw [String.intercalate_singleton, List.flatMap_singleton]
      | cons next later =>
          rw [String.intercalate_cons_cons, analyze_append_space, ih]
          rfl

end QuestionSearch.Text
