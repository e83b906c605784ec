/-!
# Structured data

What a text format holds before anything is asked of it. Readers of the formats produce it and
decoders take from it what they need, so a part that nobody asks for may be unreadable without harm.
-/

namespace QuestionSearch

/-- Structured data of a text format. -/
inductive Data
  /-- Nothing. -/
  | null
  /-- A truth value. -/
  | bool (value : Bool)
  /-- A whole number. -/
  | integer (number : Int)
  /-- Any other number. -/
  | float (number : Float)
  /-- No number, which has a sign all the same. -/
  | nan (negative : Bool)
  /-- A text. -/
  | text (value : String)
  /-- A moment or a day. No decoder asks for one, so it is not kept which. -/
  | date
  /-- Items in order. -/
  | list (items : List Data)
  /-- Keyed items in the order of the text, which may repeat a key. -/
  | record (entries : List (String × Data))
  /-- Well-formed text that stands for no value. -/
  | unreadable
deriving Inhabited

end QuestionSearch
