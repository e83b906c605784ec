import QuestionSearch.Grammar.Definition
import QuestionSearch.Grammar.Tree

/-!
# Derivations

What a derivation of a list of tokens is, said of parse trees and of definitions as they are written
down, without models and charts. At each node stands a rule, and the parts of a node lie side by
side. The leaves of a derivation, read from left to right without the empty ones, are the tokens of
its range (`tokensRead_eq`).
-/

namespace QuestionSearch.Grammar

/-- Two neighbouring ranges hold the tokens of the range from the start of the one to the end of
the other. -/
theorem slice_append_slice (tokens : List String) {first middle last : Nat}
    (firstLe : first ≤ middle) (middleLe : middle ≤ last) :
    (tokens.drop first).take (middle - first) ++ (tokens.drop middle).take (last - middle) =
      (tokens.drop first).take (last - first) := by
  have lengthEq : last - first = (middle - first) + (last - middle) := by omega
  rw [lengthEq, List.take_add, List.drop_drop, Nat.add_sub_cancel' firstLe]

namespace ParseTree

variable {W : Type}

/-- Whether the root is expanded by a rule of a definition. -/
def FollowsRule (definition : GrammarDefinition) : ParseTree W → Prop
  | leaf label word _ _ => ∃ probability, ⟨label, [word], probability⟩ ∈ definition.rules
  | branch label left right _ =>
    ∃ probability, ⟨label, [left.label, right.label], probability⟩ ∈ definition.rules

/-- Whether the root lies over tokens as it should: a leaf over the one token that is its word, or
between two tokens if its word is empty, and the parts of a branch side by side. -/
def Tiles (tokens : List String) : ParseTree W → Prop
  | leaf _ word span _ =>
    (span.stop = span.start + 1 ∧ tokens[span.start]? = some word) ∨
      (span.stop = span.start ∧ span.start ≤ tokens.length ∧ word = "")
  | branch _ left right _ => left.stop = right.start

/-- Whether the root has the score of its rule plus those of its parts. -/
def Scored [Add W] (ln : Float → W) (definition : GrammarDefinition) : ParseTree W → Prop
  | leaf label word _ weight =>
    ∃ probability, ⟨label, [word], probability⟩ ∈ definition.rules ∧ weight = ln probability
  | branch label left right weight =>
    ∃ probability, ⟨label, [left.label, right.label], probability⟩ ∈ definition.rules ∧
      weight = ln probability + left.weight + right.weight

/-- Whether a tree derives the tokens of its range with its scores. -/
def IsDerivation [Add W] (ln : Float → W) (definition : GrammarDefinition) (tokens : List String)
    (tree : ParseTree W) : Prop :=
  ∀ node ∈ tree.preorder, node.Scored ln definition ∧ node.Tiles tokens

/-- The words from left to right, without those over an empty range. -/
def tokensRead : ParseTree W → List String
  | leaf _ word span _ => if span.isEmpty then [] else [word]
  | branch _ left right _ => left.tokensRead ++ right.tokensRead

theorem forall_preorder_leaf {holds : ParseTree W → Prop} {label word : String} {span : Span}
    {weight : W} :
    (∀ node ∈ (leaf label word span weight).preorder, holds node) ↔
      holds (.leaf label word span weight) := by
  simp [preorder]

theorem forall_preorder_branch {holds : ParseTree W → Prop} {label : String}
    {left right : ParseTree W} {weight : W} :
    (∀ node ∈ (branch label left right weight).preorder, holds node) ↔
      holds (.branch label left right weight) ∧ (∀ node ∈ left.preorder, holds node) ∧
        ∀ node ∈ right.preorder, holds node := by
  simp [preorder, or_imp, forall_and]

theorem mem_preorder_self (tree : ParseTree W) : tree ∈ tree.preorder := by
  cases tree <;> simp [preorder]

theorem preorder_subset {node tree : ParseTree W} (member : node ∈ tree.preorder) :
    node.preorder ⊆ tree.preorder := by
  induction tree with
  | leaf label word span weight =>
      obtain rfl := List.mem_singleton.mp member
      exact List.Subset.refl _
  | branch label left right weight ihLeft ihRight =>
      simp only [preorder, List.mem_cons, List.mem_append] at member
      rcases member with rfl | inLeft | inRight
      · exact List.Subset.refl _
      · exact fun part inner =>
          List.mem_cons_of_mem _ (List.mem_append_left _ (ihLeft inLeft inner))
      · exact fun part inner =>
          List.mem_cons_of_mem _ (List.mem_append_right _ (ihRight inRight inner))

section Tokens

variable {tokens : List String}

/-- A tree whose parts lie side by side does not stop before it starts, nor after the tokens. -/
theorem start_le_stop {tree : ParseTree W} (tiles : ∀ node ∈ tree.preorder, node.Tiles tokens) :
    tree.start ≤ tree.stop ∧ tree.stop ≤ tokens.length := by
  induction tree with
  | leaf label word span weight =>
      rw [start, stop]
      rcases forall_preorder_leaf.mp tiles with ⟨stopEq, found⟩ | ⟨stopEq, startLe, _⟩
      · obtain ⟨startLt, _⟩ := List.getElem?_eq_some_iff.mp found
        omega
      · omega
  | branch label left right weight ihLeft ihRight =>
      obtain ⟨meet, leftTiles, rightTiles⟩ := forall_preorder_branch.mp tiles
      obtain ⟨leftLe, _⟩ := ihLeft leftTiles
      obtain ⟨rightLe, stopLe⟩ := ihRight rightTiles
      have meetEq : left.stop = right.start := meet
      rw [start, stop]
      omega

/-- The words over nonempty ranges, read from left to right, are the tokens of the range. -/
theorem tokensRead_eq {tree : ParseTree W} (tiles : ∀ node ∈ tree.preorder, node.Tiles tokens) :
    tree.tokensRead = (tokens.drop tree.start).take (tree.stop - tree.start) := by
  induction tree with
  | leaf label word span weight =>
      rw [tokensRead, start, stop, Span.isEmpty]
      rcases forall_preorder_leaf.mp tiles with ⟨stopEq, found⟩ | ⟨stopEq, _, _⟩
      · obtain ⟨startLt, rfl⟩ := List.getElem?_eq_some_iff.mp found
        have single : span.stop - span.start = 1 := by omega
        have notEmpty : span.start ≠ span.stop := by omega
        rw [single, List.drop_eq_getElem_cons startLt, List.take_succ_cons, List.take_zero]
        simp [notEmpty]
      · simp [stopEq]
  | branch label left right weight ihLeft ihRight =>
      obtain ⟨meet, leftTiles, rightTiles⟩ := forall_preorder_branch.mp tiles
      have meetEq : left.stop = right.start := meet
      have leftLe := (start_le_stop leftTiles).1
      have rightLe := (start_le_stop rightTiles).1
      rw [meetEq] at leftLe
      rw [tokensRead, ihLeft leftTiles, ihRight rightTiles, start, stop, meetEq,
        slice_append_slice tokens leftLe rightLe]

theorem mem_tokensRead {tree : ParseTree W} {token : String} (member : token ∈ tree.tokensRead) :
    ∃ label span weight, .leaf label token span weight ∈ tree.preorder := by
  induction tree with
  | leaf label word span weight =>
      rw [tokensRead] at member
      split at member
      · cases member
      · obtain rfl := List.mem_singleton.mp member
        exact ⟨label, span, weight, mem_preorder_self _⟩
  | branch label left right weight ihLeft ihRight =>
      simp only [preorder, List.mem_cons, List.mem_append]
      rcases List.mem_append.mp member with inLeft | inRight
      · obtain ⟨label, span, weight, found⟩ := ihLeft inLeft
        exact ⟨label, span, weight, Or.inr (Or.inl found)⟩
      · obtain ⟨label, span, weight, found⟩ := ihRight inRight
        exact ⟨label, span, weight, Or.inr (Or.inr found)⟩

end Tokens

namespace IsDerivation

variable [Add W] {ln : Float → W} {definition : GrammarDefinition} {tokens : List String}
  {tree left right : ParseTree W} {label : String} {weight : W}

theorem branch_iff : (branch label left right weight).IsDerivation ln definition tokens ↔
    ((branch label left right weight).Scored ln definition ∧
      (branch label left right weight).Tiles tokens) ∧
      left.IsDerivation ln definition tokens ∧ right.IsDerivation ln definition tokens :=
  forall_preorder_branch

theorem tiles (derivation : tree.IsDerivation ln definition tokens) :
    ∀ node ∈ tree.preorder, node.Tiles tokens :=
  fun node member => (derivation node member).2

end IsDerivation

end ParseTree

end QuestionSearch.Grammar
