/-!
# Parse trees

A parse tree derives a range of tokens. Its leaves expand a nonterminal to a word, or to the empty
word over an empty range. What a question is about stands at its end, so the `fragment` of a tree is
the word at the end of its right edge; it is the last of its leaves (`fragment_eq_getLast`).
-/

namespace QuestionSearch.Grammar

/-- A range of tokens, up to but without its end. -/
structure Span where
  /-- The place of the first token. -/
  start : Nat
  /-- The place after the last token. -/
  stop : Nat
deriving DecidableEq, Repr

namespace Span

/-- The number of tokens. -/
def length (span : Span) : Nat := span.stop - span.start

/-- Whether the range holds no token. -/
def isEmpty (span : Span) : Bool := span.start = span.stop

end Span

/-- A derivation whose nodes carry a weight, such as a score or a probability. -/
inductive ParseTree (W : Type)
  /-- A nonterminal expanded to a word. -/
  | leaf (label word : String) (span : Span) (weight : W)
  /-- A nonterminal expanded to two nonterminals. -/
  | branch (label : String) (left right : ParseTree W) (weight : W)

namespace ParseTree

variable {V W : Type}

instance [Inhabited W] : Inhabited (ParseTree W) := ⟨leaf "" "" ⟨0, 0⟩ default⟩

/-- The nonterminal at the root. -/
def label : ParseTree W → String
  | leaf label _ _ _ => label
  | branch label _ _ _ => label

/-- The weight at the root. -/
def weight : ParseTree W → W
  | leaf _ _ _ weight => weight
  | branch _ _ _ weight => weight

/-- Where the derived tokens start. -/
def start : ParseTree W → Nat
  | leaf _ _ span _ => span.start
  | branch _ left _ _ => left.start

/-- Where the derived tokens stop. -/
def stop : ParseTree W → Nat
  | leaf _ _ span _ => span.stop
  | branch _ _ right _ => right.stop

/-- The derived range. -/
def span (tree : ParseTree W) : Span := ⟨tree.start, tree.stop⟩

/-- Whether the root is expanded to a word. -/
def isLeaf : ParseTree W → Bool
  | leaf _ _ _ _ => true
  | branch _ _ _ _ => false

/-- The word at the root. -/
def word? : ParseTree W → Option String
  | leaf _ word _ _ => some word
  | branch _ _ _ _ => none

/-- The words from left to right, the empty ones too. -/
def leaves : ParseTree W → List String
  | leaf _ word _ _ => [word]
  | branch _ left right _ => left.leaves ++ right.leaves

/-- The number of edges on the longest way from the root to a leaf. -/
def depth : ParseTree W → Nat
  | leaf _ _ _ _ => 0
  | branch _ left right _ => 1 + max left.depth right.depth

/-- The word at the end of the right edge. -/
def fragment : ParseTree W → String
  | leaf _ word _ _ => word
  | branch _ _ right _ => right.fragment

/-- The subtrees, each before its own ones and the left before the right. -/
def preorder : ParseTree W → List (ParseTree W)
  | leaf label word span weight => [leaf label word span weight]
  | branch label left right weight =>
    branch label left right weight :: (left.preorder ++ right.preorder)

/-- The tree between brackets. The empty word is shown as two quotes. -/
def display : ParseTree W → String
  | leaf label word _ _ => "(" ++ label ++ " " ++ (if word = "" then "\"\"" else word) ++ ")"
  | branch label left right _ =>
    "(" ++ label ++ " " ++ left.display ++ " " ++ right.display ++ ")"

/-- Replaces each weight by its image. -/
def map (image : V → W) : ParseTree V → ParseTree W
  | leaf label word span weight => leaf label word span (image weight)
  | branch label left right weight => branch label (left.map image) (right.map image) (image weight)

theorem leaves_ne_nil (tree : ParseTree W) : tree.leaves ≠ [] := by
  induction tree with
  | leaf => simp [leaves]
  | branch _ _ _ _ ihLeft _ => simp [leaves, ihLeft]

/-- The fragment is the last leaf. -/
theorem fragment_eq_getLast (tree : ParseTree W) :
    tree.fragment = tree.leaves.getLast tree.leaves_ne_nil := by
  induction tree with
  | leaf => rfl
  | branch _ _ right _ _ ihRight =>
    simp [fragment, leaves, ihRight, List.getLast_append_of_ne_nil, right.leaves_ne_nil]

end ParseTree

end QuestionSearch.Grammar
