import QuestionSearch.Text.CodeRanges

/-!
# Blanks and words

A question is cut into words at blanks, the characters with the property White_Space. Runs of
blanks count as one, and blanks at the ends do not count: every refused character parts the runs
before it from those after it (`runsOf_append_cons`), and no run is empty (`mem_runsOf`).
-/

namespace QuestionSearch.Text

/-- Code points with the property White_Space. -/
def blankRanges : List (Nat × Nat) :=
  [(0x9, 0xD), (0x20, 0x20), (0x85, 0x85), (0xA0, 0xA0), (0x1680, 0x1680), (0x2000, 0x200A),
    (0x2028, 0x2029), (0x202F, 0x202F), (0x205F, 0x205F), (0x3000, 0x3000)]

/-- Whether a character is a blank. -/
def isBlank (c : Char) : Bool :=
  inRanges c.toNat blankRanges

/-- The maximal nonempty runs of characters that a test accepts, in order. -/
def runsOf (accepts : Char → Bool) : List Char → List (List Char)
  | [] => []
  | c :: rest =>
    if accepts c then
      (c :: rest.takeWhile accepts) :: runsOf accepts (rest.dropWhile accepts)
    else
      runsOf accepts rest
termination_by chars => chars.length
decreasing_by
  · exact Nat.lt_succ_of_le (List.dropWhile_sublist accepts).length_le
  · simp

/-- A run is not empty, and the test accepts all of it. -/
theorem mem_runsOf {accepts : Char → Bool} {chars run : List Char}
    (hrun : run ∈ runsOf accepts chars) : run ≠ [] ∧ ∀ c ∈ run, accepts c = true := by
  fun_induction runsOf accepts chars with
  | case1 => simp at hrun
  | case2 c rest haccepts ih =>
    rcases List.mem_cons.mp hrun with rfl | hrun
    · refine ⟨by simp, ?_⟩
      intro d hd
      rcases List.mem_cons.mp hd with rfl | hd
      · exact haccepts
      · exact List.all_eq_true.mp List.all_takeWhile d hd
    · exact ih hrun
  | case3 c rest _ ih => exact ih hrun

theorem takeWhile_append_cons {accepts : Char → Bool} {c : Char} (hc : accepts c = false)
    (before after : List Char) :
    (before ++ c :: after).takeWhile accepts = before.takeWhile accepts := by
  induction before with
  | nil => simp [hc]
  | cons d rest ih => by_cases hd : accepts d <;> simp [hd, ih]

theorem dropWhile_append_cons {accepts : Char → Bool} {c : Char} (hc : accepts c = false)
    (before after : List Char) :
    (before ++ c :: after).dropWhile accepts = before.dropWhile accepts ++ c :: after := by
  induction before with
  | nil => simp [hc]
  | cons d rest ih => by_cases hd : accepts d <;> simp [hd, ih]

/-- A character that the test refuses parts the runs before it from those after it. -/
theorem runsOf_append_cons {accepts : Char → Bool} {c : Char} (hc : accepts c = false)
    (before after : List Char) :
    runsOf accepts (before ++ c :: after) = runsOf accepts before ++ runsOf accepts after := by
  fun_induction runsOf accepts before with
  | case1 => simp [runsOf, hc]
  | case2 d rest hd ih =>
    rw [List.cons_append, runsOf, if_pos hd, takeWhile_append_cons hc, dropWhile_append_cons hc, ih,
      List.cons_append]
  | case3 d rest hd ih => rw [List.cons_append, runsOf, if_neg hd, ih]

/-- The words of a text: its maximal runs without a blank. -/
def words (text : String) : List String :=
  (runsOf (fun c => !isBlank c) text.toList).map String.ofList

end QuestionSearch.Text
