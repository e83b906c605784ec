import QuestionSearch.Grammar.Definition

/-!
# The question grammar

The grammar that is used when no other one is given. A question is an interrogative word followed by
a verb and the object that is asked about. One terminal has a blank in it and so matches no word of
a question, but it matches a token that a caller makes up.
-/

namespace QuestionSearch.Grammar

/-- The nonterminals of the question grammar. -/
def questionNonterminals : List String :=
  ["S", "NP", "VP", "DT", "Vi", "Vt", "NN", "IN", "NNP", "Adv", "E", "Q", "R", "VVP", "PVP", "AVP",
    "D", "PN"]

/-- The terminals of the question grammar. -/
def questionTerminals : List String :=
  ["work", "see", "are", "is", "I", "you", "he", "she", "we", "they", "it", "how", "how much",
    "which", "what", "who", "Lucene", "Oak", "admin", "there", "repository", "", "do", "does",
    "the", "with", "in", "for", "of", "badly", "nicely"]

/-- The rules of the question grammar. -/
def questionRules : List RuleDefinition :=
  [⟨"S", ["Q", "R"], 1.0⟩,
    ⟨"E", [""], 1.0⟩,
    ⟨"Q", ["how"], 0.2⟩,
    ⟨"Q", ["how much"], 0.1⟩,
    ⟨"Q", ["which"], 0.3⟩,
    ⟨"Q", ["what"], 0.2⟩,
    ⟨"Q", ["who"], 0.2⟩,
    ⟨"R", ["VVP", "NP"], 1.0⟩,
    ⟨"R", ["VVP", "Adv"], 1.0⟩,
    ⟨"R", ["VVP", "E"], 0.5⟩,
    ⟨"VVP", ["PVP", "AVP"], 0.4⟩,
    ⟨"VVP", ["PVP", "VP"], 0.3⟩,
    ⟨"VVP", ["VP", "E"], 0.3⟩,
    ⟨"PVP", ["D", "PN"], 0.4⟩,
    ⟨"D", ["do"], 0.7⟩,
    ⟨"D", ["does"], 0.3⟩,
    ⟨"PN", ["I"], 0.1⟩,
    ⟨"PN", ["you"], 0.4⟩,
    ⟨"PN", ["he"], 0.1⟩,
    ⟨"PN", ["she"], 0.1⟩,
    ⟨"PN", ["it"], 0.1⟩,
    ⟨"PN", ["we"], 0.1⟩,
    ⟨"PN", ["they"], 0.1⟩,
    ⟨"AVP", ["Adv", "Vi"], 0.3⟩,
    ⟨"AVP", ["Adv", "Vt"], 0.2⟩,
    ⟨"VP", ["Vi", "E"], 0.2⟩,
    ⟨"VP", ["Vt", "E"], 0.3⟩,
    ⟨"Vi", ["work"], 1.0⟩,
    ⟨"Vi", ["is"], 1.0⟩,
    ⟨"Vi", ["are"], 1.0⟩,
    ⟨"Vt", ["see"], 1.0⟩,
    ⟨"NP", ["DT", "NN"], 0.5⟩,
    ⟨"NP", ["NNP", "E"], 0.5⟩,
    ⟨"NNP", ["Lucene"], 0.3⟩,
    ⟨"NNP", ["Oak"], 0.3⟩,
    ⟨"NN", ["repository"], 0.3⟩,
    ⟨"DT", ["the"], 1.0⟩,
    ⟨"IN", ["with"], 0.2⟩,
    ⟨"IN", ["in"], 0.1⟩,
    ⟨"IN", ["for"], 0.4⟩,
    ⟨"IN", ["of"], 0.4⟩,
    ⟨"NN", ["admin"], 0.1⟩,
    ⟨"Adv", ["badly"], 0.3⟩,
    ⟨"Adv", ["nicely"], 0.6⟩,
    ⟨"Adv", ["there"], 0.1⟩]

/-- The question grammar as it is written down. -/
def questionGrammar : GrammarDefinition where
  start := "S"
  nonterminals := questionNonterminals
  terminals := questionTerminals
  rules := questionRules

end QuestionSearch.Grammar
