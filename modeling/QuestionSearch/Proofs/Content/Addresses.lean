import QuestionSearch.Content.Diff

/-!
# Addresses of nodes

A node is addressed by the names on the way to it, and its path is these names after slashes, but
for empty names at the front (`pathAlong_eq`). If no name has a slash of its own, then the path
tells what is left of the address (`pathAlong_eq_iff`). As long as no name is empty either,
different addresses have different paths (`joinedPath_inj`), and one path lies within another
exactly if the one address begins with the other (`isWithin_joinedPath_iff`).
-/

namespace QuestionSearch.Content

open QuestionSearch.Index

/-- Whether a text can be the name of a child: it is not empty and has no slash. -/
def IsName (name : String) : Prop :=
  name ≠ "" ∧ '/' ∉ name.toList

/-- Whether all names on a way can be names of children. -/
def IsAddress (names : List String) : Prop :=
  ∀ name ∈ names, IsName name

/-- Whether no name on a way has a slash. -/
def SlashFree (names : List String) : Prop :=
  ∀ name ∈ names, '/' ∉ name.toList

/-- Whether an address can be read off its path: no name on the way has a slash, and the first one
is not empty. -/
structure IsPlain (names : List String) : Prop where
  free : SlashFree names
  first : names.head? ≠ some ""

/-- The path to which an address leads. -/
def joinedPath (names : List String) : String :=
  "/" ++ "/".intercalate names

/-- The characters of names, each after a slash. -/
def slashed : List String → List Char
  | [] => []
  | name :: rest => '/' :: (name.toList ++ slashed rest)

theorem IsAddress.slashFree {names : List String} (address : IsAddress names) : SlashFree names :=
  fun name member => (address name member).2

theorem IsAddress.head?_ne {names : List String} (address : IsAddress names) :
    names.head? ≠ some "" :=
  fun first => (address "" (List.mem_of_head? first)).1 rfl

theorem IsAddress.isPlain {names : List String} (address : IsAddress names) : IsPlain names :=
  ⟨address.slashFree, address.head?_ne⟩

theorem isAddress_nil : IsAddress [] := by
  simp [IsAddress]

theorem isAddress_append_iff {names more : List String} :
    IsAddress (names ++ more) ↔ IsAddress names ∧ IsAddress more := by
  simp [IsAddress, or_imp, forall_and]

theorem isAddress_singleton_iff {name : String} : IsAddress [name] ↔ IsName name := by
  simp [IsAddress]

theorem isAddress_cons_iff {name : String} {names : List String} :
    IsAddress (name :: names) ↔ IsName name ∧ IsAddress names := by
  simp [IsAddress]

theorem slashed_append (names more : List String) :
    slashed (names ++ more) = slashed names ++ slashed more := by
  induction names with
  | nil => rfl
  | cons name rest ih => simp [slashed, ih]

theorem slashed_cases (names : List String) :
    slashed names = [] ∨ ∃ rest, slashed names = '/' :: rest := by
  cases names with
  | nil => exact Or.inl rfl
  | cons name rest => exact Or.inr ⟨_, rfl⟩

theorem slashed_eq_nil_iff {names : List String} : slashed names = [] ↔ names = [] := by
  cases names <;> simp [slashed]

theorem joinedPath_nil : joinedPath [] = "/" := by
  decide

theorem toList_joinedPath {names : List String} (nonempty : names ≠ []) :
    (joinedPath names).toList = slashed names := by
  induction names with
  | nil => exact absurd rfl nonempty
  | cons name rest ih =>
      cases rest with
      | nil => simp [joinedPath, slashed]
      | cons next more =>
          have tail := ih (List.cons_ne_nil _ _)
          simp only [joinedPath, String.toList_append, String.intercalate_cons_cons] at tail ⊢
          rw [slashed, ← tail]
          simp

/-- Two texts without slashes are equal if what comes after them is the end or a slash. -/
theorem append_inj_of_slash {first second : List Char} (firstFree : '/' ∉ first)
    (secondFree : '/' ∉ second) {rest others : List Char}
    (restCases : rest = [] ∨ ∃ more, rest = '/' :: more)
    (othersCases : others = [] ∨ ∃ more, others = '/' :: more)
    (same : first ++ rest = second ++ others) : first = second ∧ rest = others := by
  induction first generalizing second with
  | nil =>
      cases second with
      | nil => exact ⟨rfl, same⟩
      | cons char chars =>
          rcases restCases with rfl | ⟨more, rfl⟩
          · simp at same
          · obtain rfl : '/' = char := (List.cons.inj same).1
            exact absurd List.mem_cons_self secondFree
  | cons char chars ih =>
      cases second with
      | nil =>
          rcases othersCases with rfl | ⟨more, rfl⟩
          · simp at same
          · obtain rfl : char = '/' := (List.cons.inj same).1
            exact absurd List.mem_cons_self firstFree
      | cons other others =>
          obtain ⟨rfl, tails⟩ := List.cons.inj same
          obtain ⟨rfl, restEq⟩ := ih (fun member => firstFree (List.mem_cons_of_mem _ member))
            (fun member => secondFree (List.mem_cons_of_mem _ member)) tails
          exact ⟨rfl, restEq⟩

/-- If the characters of an address begin with those of another one, up to a slash or the end, then
the address itself begins with the other one. -/
theorem exists_append_of_slashed {root path : List String} (rootFree : SlashFree root)
    (pathFree : SlashFree path) {rest : List Char}
    (restCases : rest = [] ∨ ∃ more, rest = '/' :: more)
    (same : slashed root ++ rest = slashed path) :
    ∃ tail, path = root ++ tail ∧ rest = slashed tail := by
  induction root generalizing path with
  | nil => exact ⟨path, rfl, same⟩
  | cons name root ih =>
      cases path with
      | nil => simp [slashed] at same
      | cons other path =>
          obtain ⟨nameFree, rootFree⟩ := List.forall_mem_cons.mp rootFree
          obtain ⟨otherFree, pathFree⟩ := List.forall_mem_cons.mp pathFree
          simp only [slashed, List.cons_append, List.cons.injEq, true_and,
            List.append_assoc] at same
          have joinedCases : slashed root ++ rest = [] ∨
              ∃ more, slashed root ++ rest = '/' :: more := by
            rcases slashed_cases root with empty | ⟨more, starts⟩
            · rwa [empty, List.nil_append]
            · exact Or.inr ⟨more ++ rest, by rw [starts, List.cons_append]⟩
          obtain ⟨nameEq, tailsEq⟩ := append_inj_of_slash nameFree otherFree joinedCases
            (slashed_cases path) same
          obtain ⟨tail, rfl, restEq⟩ := ih rootFree pathFree tailsEq
          exact ⟨tail, by rw [String.toList_inj.mp nameEq, List.cons_append], restEq⟩

theorem slashed_inj {names others : List String} (free : SlashFree names)
    (otherFree : SlashFree others) (same : slashed names = slashed others) : names = others := by
  have padded : slashed names ++ [] = slashed others := by rw [List.append_nil, same]
  obtain ⟨tail, rfl, empty⟩ := exists_append_of_slashed free otherFree (Or.inl rfl) padded
  rw [slashed_eq_nil_iff.mp empty.symm, List.append_nil]

/-- Below the root there is at least one character after the slash. -/
theorem slashed_ne_slash {names : List String} (first : names.head? ≠ some "") :
    slashed names ≠ ['/'] := by
  cases names with
  | nil => simp [slashed]
  | cons name rest =>
      have nonempty : name.toList ≠ [] :=
        fun empty => first (congrArg some (String.toList_eq_nil_iff.mp empty))
      simp [slashed, nonempty]

theorem joinedPath_eq_slash_iff {names : List String} (first : names.head? ≠ some "") :
    joinedPath names = "/" ↔ names = [] := by
  constructor
  · intro isRoot
    cases names with
    | nil => rfl
    | cons name rest =>
        have chars := congrArg String.toList isRoot
        rw [toList_joinedPath (List.cons_ne_nil _ _)] at chars
        exact absurd (by simpa using chars) (slashed_ne_slash first)
  · rintro rfl
    exact joinedPath_nil

theorem IsPlain.joinedPath_inj {names others : List String} (plain : IsPlain names)
    (otherPlain : IsPlain others) (same : joinedPath names = joinedPath others) :
    names = others := by
  by_cases isRoot : names = []
  · rw [isRoot, joinedPath_nil] at same
    rw [isRoot, (joinedPath_eq_slash_iff otherPlain.first).mp same.symm]
  · have otherNonempty : others ≠ [] := by
      rintro rfl
      rw [joinedPath_nil] at same
      exact isRoot ((joinedPath_eq_slash_iff plain.first).mp same)
    refine slashed_inj plain.free otherPlain.free ?_
    rw [← toList_joinedPath isRoot, same, toList_joinedPath otherNonempty]

/-- Different addresses have different paths. -/
theorem joinedPath_inj {names others : List String} (address : IsAddress names)
    (otherAddress : IsAddress others) (same : joinedPath names = joinedPath others) :
    names = others :=
  address.isPlain.joinedPath_inj otherAddress.isPlain same

/-- The path of a child is the path of its address. -/
theorem childPath_joinedPath {names : List String} (first : names.head? ≠ some "")
    (name : String) : childPath (joinedPath names) name = joinedPath (names ++ [name]) := by
  rw [childPath]
  by_cases isRoot : names = []
  · subst isRoot
    rw [if_pos joinedPath_nil]
    simp [joinedPath]
  · rw [if_neg (mt (joinedPath_eq_slash_iff first).mp isRoot), joinedPath, joinedPath,
      String.intercalate_append_of_ne_nil isRoot (List.cons_ne_nil _ _),
      String.intercalate_singleton]
    simp [String.append_assoc]

/-! ### Paths on the way -/

/-- The path that is made on the way from the root. -/
def pathAlong (names : List String) : String := names.foldl childPath "/"

theorem pathAlong_concat (names : List String) (name : String) :
    pathAlong (names ++ [name]) = childPath (pathAlong names) name := by
  rw [pathAlong, List.foldl_append]
  rfl

theorem foldl_childPath {names : List String} (nonempty : names ≠ [])
    (first : names.head? ≠ some "") (more : List String) :
    more.foldl childPath (joinedPath names) = joinedPath (names ++ more) := by
  induction more generalizing names with
  | nil => rw [List.append_nil]; rfl
  | cons name rest ih =>
      have longer : (names ++ [name]).head? ≠ some "" := by
        rwa [List.head?_append, Option.or_of_isSome (List.isSome_head?.mpr nonempty)]
      rw [List.foldl_cons, childPath_joinedPath first, ih (by simp) longer, List.append_assoc]
      rfl

/-- On the way from the root empty names lead nowhere until there is one that is not empty. -/
theorem pathAlong_eq (names : List String) :
    pathAlong names = joinedPath (names.dropWhile (· = "")) := by
  induction names with
  | nil => rfl
  | cons name rest ih =>
      by_cases empty : name = ""
      · subst empty
        rw [List.dropWhile_cons_of_pos (by simp), ← ih]
        rfl
      · rw [List.dropWhile_cons_of_neg (by simpa using empty)]
        have start : childPath "/" name = joinedPath [name] := by simp [childPath, joinedPath]
        rw [pathAlong, List.foldl_cons, start]
        exact foldl_childPath (List.cons_ne_nil _ _) (by simpa using empty) rest

theorem SlashFree.isPlain_dropWhile {names : List String} (free : SlashFree names) :
    IsPlain (names.dropWhile (· = "")) where
  free := fun name member => free name ((List.dropWhile_sublist _).subset member)
  first := by
    intro found
    have refused := List.head?_dropWhile_not (fun name : String => decide (name = "")) names
    rw [found] at refused
    simp at refused

/-- Nodes whose names have no slash share their path exactly if their addresses differ by empty
names at the front. -/
theorem pathAlong_eq_iff {names others : List String} (free : SlashFree names)
    (otherFree : SlashFree others) :
    pathAlong names = pathAlong others ↔
      names.dropWhile (· = "") = others.dropWhile (· = "") := by
  rw [pathAlong_eq, pathAlong_eq]
  exact ⟨free.isPlain_dropWhile.joinedPath_inj otherFree.isPlain_dropWhile, congrArg joinedPath⟩

theorem IsPlain.dropWhile_eq {names : List String} (plain : IsPlain names) :
    names.dropWhile (· = "") = names := by
  cases names with
  | nil => rfl
  | cons name rest => exact List.dropWhile_cons_of_neg (by simpa using plain.first)

theorem IsPlain.pathAlong_eq {names : List String} (plain : IsPlain names) :
    pathAlong names = joinedPath names := by
  rw [Content.pathAlong_eq, plain.dropWhile_eq]

theorem IsPlain.pathAlong_inj {names others : List String} (plain : IsPlain names)
    (otherPlain : IsPlain others) (same : pathAlong names = pathAlong others) : names = others := by
  rwa [pathAlong_eq_iff plain.free otherPlain.free, plain.dropWhile_eq, otherPlain.dropWhile_eq]
    at same

theorem isAbsolute_joinedPath (names : List String) : isAbsolute (joinedPath names) = true := by
  simp [isAbsolute, joinedPath]

theorem trimSlashes_slashed {names : List String} (address : IsAddress names) :
    trimSlashes (slashed names) = slashed names := by
  rcases List.eq_nil_or_concat names with rfl | ⟨front, last, rfl⟩
  · rfl
  · rw [List.concat_eq_append] at address ⊢
    obtain ⟨nonempty, free⟩ := isAddress_singleton_iff.mp (isAddress_append_iff.mp address).2
    obtain ⟨chars, char, charsEq⟩ : ∃ chars char, last.toList = chars ++ [char] := by
      rcases List.eq_nil_or_concat last.toList with empty | ⟨chars, char, found⟩
      · exact absurd (String.toList_eq_nil_iff.mp empty) nonempty
      · exact ⟨chars, char, by rw [found, List.concat_eq_append]⟩
    have notSlash : char ≠ '/' := by
      rintro rfl
      simp [charsEq] at free
    rw [trimSlashes, slashed_append]
    simp [slashed, charsEq, notSlash]

/-- A path lies within another one exactly if its address begins with that of the other one. -/
theorem isWithin_joinedPath_iff {path root : List String} (pathAddress : IsAddress path)
    (rootAddress : IsAddress root) :
    isWithin (joinedPath path) (joinedPath root) = true ↔ root <+: path := by
  by_cases rootNil : root = []
  · subst rootNil
    simp [isWithin, joinedPath_nil]
  · have rootPath := mt (joinedPath_eq_slash_iff rootAddress.head?_ne).mp rootNil
    simp only [isWithin, rootPath, decide_false, Bool.false_or, Bool.or_eq_true, decide_eq_true_eq,
      toList_joinedPath rootNil, trimSlashes_slashed rootAddress, List.isPrefixOf_iff_prefix]
    by_cases pathNil : path = []
    · subst pathNil
      have rootNonempty : slashed root ≠ [] := mt slashed_eq_nil_iff.mp rootNil
      have chars : (joinedPath []).toList = ['/'] := by rw [joinedPath_nil]; rfl
      rw [chars, List.prefix_nil]
      constructor
      · rintro (same | ⟨tail, longer⟩)
        · exact absurd same.symm (slashed_ne_slash rootAddress.head?_ne)
        · have lengths := congrArg List.length longer
          simp only [List.length_append, List.length_cons, List.length_nil] at lengths
          exact absurd (List.eq_nil_of_length_eq_zero (by omega)) rootNonempty
      · exact fun empty => absurd empty rootNil
    · rw [toList_joinedPath pathNil]
      constructor
      · rintro (same | ⟨tail, longer⟩)
        · obtain rfl := slashed_inj pathAddress.slashFree rootAddress.slashFree same
          exact List.prefix_refl path
        · rw [List.append_assoc] at longer
          obtain ⟨more, rfl, _⟩ :=
            exists_append_of_slashed rootAddress.slashFree pathAddress.slashFree
              (Or.inr ⟨tail, rfl⟩) longer
          exact List.prefix_append root more
      · rintro ⟨more, rfl⟩
        rw [slashed_append]
        cases more with
        | nil => exact Or.inl (by simp [slashed])
        | cons name rest => exact Or.inr ⟨name.toList ++ slashed rest, by simp [slashed]⟩

end QuestionSearch.Content
