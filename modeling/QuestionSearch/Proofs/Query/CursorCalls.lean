import QuestionSearch.Query.Cursor

/-!
# Calls of cursors

A cursor is asked for its hits, one by one or many at once, and looked at in between, in any order.
Each call hands out the next so many hits and goes on by as many (`answer_advances`). So after any
calls the hits handed out are those before its position, and what the cursor hands out next and all
that can be seen of it follow from its position (`run_in_order`).
-/

namespace QuestionSearch.Query

/-- What can be asked of a cursor. -/
inductive CursorCall
  /-- The next hit; past the end this fails. -/
  | next
  /-- The next hit, if there is one. -/
  | next?
  /-- So many hits at most. -/
  | takeWithin (most : Nat)
  /-- All hits that are left. -/
  | drain
  /-- To take back a hit. -/
  | remove
  | length
  | isEmpty
  | hasNext
  | remaining
  | sizeHint
  | state
deriving DecidableEq, Repr

/-- What a cursor answers. -/
inductive CursorAnswer (R : Type)
  /-- A hit, or why there is none. -/
  | outcome (result : Except CursorError (Hit R))
  /-- A hit, if there is one. -/
  | hit? (found : Option (Hit R))
  /-- Some hits. -/
  | hits (found : List (Hit R))
  /-- Nothing. -/
  | done
  | count (number : Nat)
  | flag (value : Bool)
  | bounds (least greatest : Nat)
  | state (reached : CursorState)

/-- The hits that an answer hands out. -/
def CursorAnswer.handed {R : Type} : CursorAnswer R → List (Hit R)
  | .outcome (.ok hit) => [hit]
  | .hit? found => found.toList
  | .hits found => found
  | _ => []

/-- The place of a state among all states. -/
def CursorState.stage : CursorState → Nat
  | .notStarted => 0
  | .iterating => 1
  | .exhausted => 2

namespace Cursor

variable {R : Type}

/-- Answers a call. -/
def answer (cursor : Cursor R) : CursorCall → CursorAnswer R × Cursor R
  | .next =>
    let (outcome, cursor) := next.on cursor
    (.outcome outcome, cursor)
  | .next? =>
    let (hit, cursor) := cursor.next?
    (.hit? hit, cursor)
  | .takeWithin most =>
    let (hits, cursor) := cursor.takeWithin most
    (.hits hits, cursor)
  | .drain =>
    let (hits, cursor) := cursor.drain
    (.hits hits, cursor)
  | .remove => (.done, cursor.remove)
  | .length => (.count cursor.length, cursor)
  | .isEmpty => (.flag cursor.isEmpty, cursor)
  | .hasNext => (.flag cursor.hasNext, cursor)
  | .remaining => (.count cursor.remaining, cursor)
  | .sizeHint => (.bounds cursor.sizeHint.1 cursor.sizeHint.2, cursor)
  | .state => (.state cursor.state, cursor)

/-- Answers calls in order. -/
def run (cursor : Cursor R) : List CursorCall → List (CursorAnswer R) × Cursor R
  | [] => ([], cursor)
  | call :: rest =>
    let (first, cursor) := cursor.answer call
    let (answers, cursor) := cursor.run rest
    (first :: answers, cursor)

/-- The hits that have been handed out in the course of some calls. -/
def handedBy (cursor : Cursor R) (calls : List CursorCall) : List (Hit R) :=
  (cursor.run calls).1.flatMap CursorAnswer.handed

/-- The hits that are left. -/
def left (cursor : Cursor R) : List (Hit R) := cursor.hits.drop cursor.position

/-- The cursor after so many more hits. -/
def advance (cursor : Cursor R) (count : Nat) : Cursor R :=
  { cursor with position := cursor.position + count }

/-! ## One call -/

theorem length_left (cursor : Cursor R) : cursor.left.length = cursor.remaining := by
  simp [left, remaining, length]

theorem advance_zero (cursor : Cursor R) : cursor.advance 0 = cursor := rfl

theorem advance_add (cursor : Cursor R) (first second : Nat) :
    (cursor.advance first).advance second = cursor.advance (first + second) := by
  simp [advance, Nat.add_assoc]

theorem left_advance (cursor : Cursor R) (count : Nat) :
    (cursor.advance count).left = cursor.left.drop count := by
  simp [left, advance]

theorem remaining_advance (cursor : Cursor R) (count : Nat) :
    (cursor.advance count).remaining = cursor.remaining - count := by
  simp [remaining, length, advance, Nat.sub_add_eq]

/-- The next hit is the first one that is left. If none is, the cursor stays where it is. -/
theorem next_eq (cursor : Cursor R) :
    next.on cursor =
      match cursor.left with
      | [] => (.error (.outOfRange cursor.position cursor.length), cursor)
      | hit :: _ => (.ok hit, cursor.advance 1) := by
  rw [next, Call.on_bind, Call.on_get, left]
  dsimp only
  cases found : cursor.hits[cursor.position]? with
  | none =>
      rw [List.drop_eq_nil_of_le (List.getElem?_eq_none_iff.mp found)]
      exact Call.on_throw _ _
  | some hit =>
      obtain ⟨lt, rfl⟩ := List.getElem?_eq_some_iff.mp found
      rw [List.drop_eq_getElem_cons lt]
      rfl

theorem next?_eq (cursor : Cursor R) :
    cursor.next? =
      match cursor.left with
      | [] => (none, cursor)
      | hit :: _ => (some hit, cursor.advance 1) := by
  rw [next?, next_eq]
  cases cursor.left <;> rfl

/-- Taking hits one after the other takes the first ones that are left. -/
theorem takeWithin_eq (cursor : Cursor R) (most : Nat) :
    cursor.takeWithin most =
      (cursor.left.take most, cursor.advance (min most cursor.remaining)) := by
  induction most generalizing cursor with
  | zero => simp [takeWithin, advance_zero]
  | succ most ih =>
      have lengthEq := cursor.length_left
      rw [takeWithin, next?_eq]
      cases leftEq : cursor.left with
      | nil =>
          rw [leftEq, List.length_nil] at lengthEq
          simp [← lengthEq, advance_zero]
      | cons hit rest =>
          rw [leftEq, List.length_cons] at lengthEq
          have counts : 1 + min most rest.length = min (most + 1) (rest.length + 1) := by omega
          simp [ih, left_advance, leftEq, remaining_advance, ← lengthEq, advance_add, counts]

/-- Draining hands out all that is left. -/
theorem drain_eq (cursor : Cursor R) :
    cursor.drain = (cursor.left, cursor.advance cursor.remaining) := by
  have all : cursor.left.length ≤ cursor.remaining + 1 := by
    rw [length_left]
    exact Nat.le_succ _
  rw [drain, takeWithin_eq, List.take_of_length_le all, Nat.min_eq_right (Nat.le_succ _)]

/-- A call hands out the next so many hits and goes on by as many. -/
theorem answer_advances (cursor : Cursor R) (call : CursorCall) :
    ∃ count ≤ cursor.remaining, (cursor.answer call).1.handed = cursor.left.take count ∧
      (cursor.answer call).2 = cursor.advance count := by
  have lengthEq := cursor.length_left
  have still : ([] : List (Hit R)) = cursor.left.take 0 ∧ cursor = cursor.advance 0 := ⟨rfl, rfl⟩
  cases call with
  | next =>
      rw [answer, next_eq]
      cases leftEq : cursor.left with
      | nil => exact ⟨0, Nat.zero_le _, rfl, rfl⟩
      | cons hit rest =>
          rw [leftEq, List.length_cons] at lengthEq
          exact ⟨1, by omega, rfl, rfl⟩
  | next? =>
      rw [answer, next?_eq]
      cases leftEq : cursor.left with
      | nil => exact ⟨0, Nat.zero_le _, rfl, rfl⟩
      | cons hit rest =>
          rw [leftEq, List.length_cons] at lengthEq
          exact ⟨1, by omega, rfl, rfl⟩
  | takeWithin most =>
      refine ⟨min most cursor.remaining, Nat.min_le_right _ _, ?_, ?_⟩
      · rw [answer, takeWithin_eq, ← lengthEq, ← List.take_take, List.take_length]
        rfl
      · rw [answer, takeWithin_eq]
  | drain =>
      refine ⟨cursor.remaining, Nat.le_refl _, ?_, ?_⟩
      · rw [answer, drain_eq, ← lengthEq, List.take_length]
        rfl
      · rw [answer, drain_eq]
  | remove => exact ⟨0, Nat.zero_le _, still⟩
  | length => exact ⟨0, Nat.zero_le _, still⟩
  | isEmpty => exact ⟨0, Nat.zero_le _, still⟩
  | hasNext => exact ⟨0, Nat.zero_le _, still⟩
  | remaining => exact ⟨0, Nat.zero_le _, still⟩
  | sizeHint => exact ⟨0, Nat.zero_le _, still⟩
  | state => exact ⟨0, Nat.zero_le _, still⟩

/-! ## Many calls -/

/-- What calls hand out is what the first one does and then what the others do. -/
theorem handedBy_cons (cursor : Cursor R) (call : CursorCall) (rest : List CursorCall) :
    cursor.handedBy (call :: rest) =
      (cursor.answer call).1.handed ++ (cursor.answer call).2.handedBy rest := rfl

theorem run_append (cursor : Cursor R) (earlier later : List CursorCall) :
    (cursor.run (earlier ++ later)).2 = ((cursor.run earlier).2.run later).2 := by
  induction earlier generalizing cursor with
  | nil => rfl
  | cons call rest ih => exact ih (cursor.answer call).2

/-- Any calls together hand out the next so many hits and go on by as many. -/
theorem run_advances (cursor : Cursor R) (calls : List CursorCall) :
    ∃ count ≤ cursor.remaining, cursor.handedBy calls = cursor.left.take count ∧
      (cursor.run calls).2 = cursor.advance count := by
  induction calls generalizing cursor with
  | nil => exact ⟨0, Nat.zero_le _, rfl, rfl⟩
  | cons call rest ih =>
      obtain ⟨first, firstLe, firstHanded, firstAfter⟩ := cursor.answer_advances call
      obtain ⟨second, secondLe, secondHanded, secondAfter⟩ := ih (cursor.advance first)
      rw [remaining_advance] at secondLe
      refine ⟨first + second, by omega, ?_, ?_⟩
      · rw [handedBy_cons, firstHanded, firstAfter, secondHanded, left_advance, List.take_add]
      · calc
          (cursor.run (call :: rest)).2 = ((cursor.answer call).2.run rest).2 := rfl
          _ = cursor.advance (first + second) := by rw [firstAfter, secondAfter, advance_add]

/-! ## What is seen -/

theorem hasNext_iff_remaining (cursor : Cursor R) :
    cursor.hasNext = true ↔ 0 < cursor.remaining := by
  rw [hasNext, decide_eq_true_iff, remaining, Nat.sub_pos_iff_lt]

theorem exists_next_iff (cursor : Cursor R) :
    (∃ hit, (next.on cursor).1 = .ok hit) ↔ 0 < cursor.remaining := by
  rw [← length_left, next_eq]
  cases cursor.left <;> simp

theorem state_ne_exhausted_iff (cursor : Cursor R) :
    cursor.state ≠ .exhausted ↔ 0 < cursor.remaining := by
  rw [state, remaining]
  split
  · rename_i past
    simp [Nat.sub_eq_zero_of_le past]
  · rename_i inside
    have left : 0 < cursor.length - cursor.position := by omega
    split <;> simp [left]

theorem state_eq_notStarted_iff (cursor : Cursor R) :
    cursor.state = .notStarted ↔ cursor.position < cursor.length ∧ cursor.position = 0 := by
  rw [state]
  split
  · rename_i past
    simp [Nat.not_lt_of_le past]
  · rename_i inside
    split
    · simp only [true_iff]
      omega
    · simp_all

/-- The state never goes back as the position goes on. -/
theorem stage_le_advance (cursor : Cursor R) (count : Nat) :
    cursor.state.stage ≤ (cursor.advance count).state.stage := by
  cases later : (cursor.advance count).state with
  | notStarted =>
      have unmoved := (state_eq_notStarted_iff _).mp later
      simp only [advance, Nat.add_eq_zero_iff] at unmoved
      obtain ⟨_, _, rfl⟩ := unmoved
      exact Nat.le_of_eq (congrArg CursorState.stage later)
  | iterating =>
      have some : 0 < (cursor.advance count).remaining := by
        rw [← state_ne_exhausted_iff, later]
        exact CursorState.noConfusion
      rw [remaining_advance] at some
      have before := cursor.state_ne_exhausted_iff.mpr (by omega)
      cases now : cursor.state with
      | notStarted => exact Nat.zero_le _
      | iterating => exact Nat.le_refl _
      | exhausted => exact absurd now before
  | exhausted => cases cursor.state <;> decide

/-- Past the end the next hit is refused, and no call changes anything. -/
structure AtEnd (cursor : Cursor R) : Prop where
  /-- Asking for the next hit fails. -/
  next_eq : next.on cursor = (.error (.outOfRange cursor.length cursor.length), cursor)
  /-- There is no next hit. -/
  next?_eq : cursor.next? = (none, cursor)
  /-- No call hands out anything or moves the cursor. -/
  answer_eq (call : CursorCall) :
    (cursor.answer call).1.handed = [] ∧ (cursor.answer call).2 = cursor

theorem atEnd_of_remaining {cursor : Cursor R} (inside : cursor.position ≤ cursor.length)
    (none : cursor.remaining = 0) : cursor.AtEnd := by
  have leftEq : cursor.left = [] := List.eq_nil_of_length_eq_zero (cursor.length_left.trans none)
  have positionEq : cursor.position = cursor.length := by
    rw [remaining] at none
    omega
  refine ⟨?_, ?_, fun call => ?_⟩
  · rw [next_eq, leftEq, positionEq]
  · rw [next?_eq, leftEq]
  · obtain ⟨count, countLe, handed, after⟩ := cursor.answer_advances call
    obtain rfl : count = 0 := by omega
    exact ⟨handed, after⟩

/-- What can be seen of a cursor over some hits that has handed out given ones, and what it hands
out next. -/
structure Shows (cursor : Cursor R) (hits given : List (Hit R)) : Prop where
  /-- The hits are what they were. -/
  hits_eq : cursor.hits = hits
  /-- What was handed out are the hits before the position. -/
  given_eq : given = hits.take cursor.position
  /-- The position is not past the end. -/
  position_le : cursor.position ≤ hits.length
  /-- The hits that are left and those handed out are all hits. -/
  remaining_add : cursor.remaining + cursor.position = hits.length
  /-- Exactly the hits that are left are still to come. -/
  sizeHint_eq : cursor.sizeHint = (cursor.remaining, cursor.remaining)
  /-- There is a next hit if some are left. -/
  hasNext_iff : cursor.hasNext = true ↔ 0 < cursor.remaining
  /-- Some are left unless the cursor is exhausted. -/
  remaining_iff : 0 < cursor.remaining ↔ cursor.state ≠ .exhausted
  /-- The next hit is handed out unless the cursor is exhausted. -/
  next_iff : cursor.state ≠ .exhausted ↔ ∃ hit, (next.on cursor).1 = .ok hit
  /-- The next hit is the one at the position. -/
  next_eq : ∀ hit, hits[cursor.position]? = some hit →
    next.on cursor = (.ok hit, cursor.advance 1)
  /-- It is the same hit if the cursor is asked in the other way. -/
  next?_eq : cursor.next? = (hits[cursor.position]?, cursor.advance (min 1 cursor.remaining))
  /-- Of several hits the ones from the position on are handed out in order. -/
  takeWithin_eq : ∀ most, cursor.takeWithin most =
    ((hits.drop cursor.position).take most, cursor.advance (min most cursor.remaining))
  /-- All that are left are handed out at once. -/
  drain_eq : cursor.drain = (hits.drop cursor.position, cursor.advance cursor.remaining)
  /-- Once it is exhausted, it hands out nothing any more and stays as it is. -/
  atEnd : cursor.state = .exhausted → cursor.AtEnd
  /-- It is not started as long as there are hits and none was handed out. -/
  notStarted_iff : cursor.state = .notStarted ↔ hits ≠ [] ∧ given = []

theorem shows_advance (hits : List (Hit R)) {count : Nat} (inside : count ≤ hits.length) :
    ((ofHits hits).advance count).Shows hits (hits.take count) := by
  have positionEq : ((ofHits hits).advance count).position = count := Nat.zero_add count
  have positionLe : ((ofHits hits).advance count).position ≤ hits.length := by
    rw [positionEq]
    exact inside
  refine
    { hits_eq := rfl
      given_eq := by rw [positionEq]
      position_le := positionLe
      remaining_add := ?_
      sizeHint_eq := rfl
      hasNext_iff := hasNext_iff_remaining _
      remaining_iff := (state_ne_exhausted_iff _).symm
      next_iff := (state_ne_exhausted_iff _).trans (exists_next_iff _).symm
      next_eq := fun hit found => ?_
      next?_eq := ?_
      takeWithin_eq := takeWithin_eq _
      drain_eq := drain_eq _
      atEnd := fun exhausted => ?_
      notStarted_iff := ?_ }
  · rw [remaining_advance, positionEq]
    exact Nat.sub_add_cancel inside
  · have leftEq : ((ofHits hits).advance count).left = hit :: hits.drop (count + 1) := by
      rw [positionEq] at found
      obtain ⟨lt, rfl⟩ := List.getElem?_eq_some_iff.mp found
      rw [left, positionEq]
      exact List.drop_eq_getElem_cons lt
    rw [Cursor.next_eq, leftEq]
  · have headEq : hits[((ofHits hits).advance count).position]? =
        ((ofHits hits).advance count).left.head? := List.head?_drop.symm
    rw [headEq, Cursor.next?_eq, ← length_left]
    cases ((ofHits hits).advance count).left with
    | nil => rfl
    | cons hit rest => simp
  · refine atEnd_of_remaining positionLe (Nat.eq_zero_of_not_pos fun some => ?_)
    exact (state_ne_exhausted_iff _).mpr some exhausted
  · rw [state_eq_notStarted_iff, positionEq, List.take_eq_nil_iff, ← List.length_pos_iff]
    have lengthEq : ((ofHits hits).advance count).length = hits.length := rfl
    rw [lengthEq]
    constructor
    · rintro ⟨lt, rfl⟩
      exact ⟨lt, Or.inl rfl⟩
    · rintro ⟨pos, rfl | rfl⟩
      · exact ⟨pos, rfl⟩
      · exact absurd pos (Nat.lt_irrefl 0)

/-- After any calls a cursor has handed out its hits up to its position, once and in order, hands
out the ones that follow, however it is asked, and shows nothing but that; any further calls move
neither its position nor its state back. -/
theorem run_in_order (hits : List (Hit R)) (calls : List CursorCall) :
    let cursor := ((ofHits hits).run calls).2
    cursor.Shows hits ((ofHits hits).handedBy calls) ∧
      ∀ later, cursor.position ≤ ((ofHits hits).run (calls ++ later)).2.position ∧
        cursor.state.stage ≤ ((ofHits hits).run (calls ++ later)).2.state.stage := by
  intro cursor
  obtain ⟨count, countLe, handed, after⟩ := (ofHits hits).run_advances calls
  have cursorEq : cursor = (ofHits hits).advance count := after
  refine ⟨?_, fun later => ?_⟩
  · rw [cursorEq, handed]
    exact shows_advance hits countLe
  · obtain ⟨more, _, _, laterAfter⟩ := cursor.run_advances later
    rw [run_append, laterAfter]
    exact ⟨Nat.le_add_right _ _, cursor.stage_le_advance more⟩

end Cursor

end QuestionSearch.Query
