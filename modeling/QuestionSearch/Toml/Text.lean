import QuestionSearch.Toml.Scalar

/-!
# Quoted text in TOML

Text between double quotes may hold escapes, text between single quotes stands as it is. Three
quotes of either kind hold text of several lines. A line break right after the opening quotes does
not count, and one or two quotes may stand before the closing ones.
-/

namespace QuestionSearch.Toml

/-- Whether a character may stand in a comment. -/
def isPrintable (c : Char) : Bool :=
  c = '\t' || (0x20 ≤ c.toNat && c.toNat != 0x7F)

/-- The number of hexadecimal digits, if they are digits and stand for a character. -/
def codedChar? (digits : List Char) : Option Char :=
  let code := digits.foldl (fun number digit => 16 * number + baseDigit digit) 0
  if digits.all isHexDigit ∧ Nat.isValidChar code then some (Char.ofNat code) else none

/-- The character that a letter after a backslash stands for. -/
def escaped? (letter : Char) : Option Char :=
  if letter = 'b' then some '\x08'
  else if letter = 't' then some '\t'
  else if letter = 'n' then some '\n'
  else if letter = 'f' then some '\x0c'
  else if letter = 'r' then some '\r'
  else if letter = '"' then some '"'
  else if letter = '\\' then some '\\'
  else none

/-- Drops a line break at the start. -/
def dropLineBreak : List Char → List Char
  | '\n' :: rest => rest
  | '\r' :: '\n' :: rest => rest
  | rest => rest

/-- Whether a line break comes next, after blanks. -/
def breaksLine (text : List Char) : Bool :=
  match text.dropWhile fun c => c = ' ' || c = '\t' with
  | '\n' :: _ => true
  | '\r' :: '\n' :: _ => true
  | _ => false

/-- Reads text up to a double quote. `found` holds what was read before, the last character
first. -/
def readBasic? (found : List Char) : List Char → Option (String × List Char)
  | [] => none
  | '"' :: rest => some (String.ofList found.reverse, rest)
  | '\\' :: 'u' :: a :: b :: c :: d :: rest =>
    match codedChar? [a, b, c, d] with
    | none => none
    | some coded => readBasic? (coded :: found) rest
  | '\\' :: 'U' :: a :: b :: c :: d :: e :: f :: g :: h :: rest =>
    match codedChar? [a, b, c, d, e, f, g, h] with
    | none => none
    | some coded => readBasic? (coded :: found) rest
  | '\\' :: letter :: rest =>
    match escaped? letter with
    | none => none
    | some c => readBasic? (c :: found) rest
  | c :: rest => if c ≠ '\\' ∧ isPrintable c then readBasic? (c :: found) rest else none

/-- Reads text of several lines up to three double quotes. While `skipping`, blanks and line breaks
do not count: so it is after a backslash at the end of a line. -/
def readLongBasic? (skipping : Bool) (found : List Char) : List Char → Option (String × List Char)
  | [] => none
  | '"' :: '"' :: '"' :: '"' :: '"' :: rest =>
    some (String.ofList (found.reverse ++ ['"', '"']), rest)
  | '"' :: '"' :: '"' :: '"' :: rest => some (String.ofList (found.reverse ++ ['"']), rest)
  | '"' :: '"' :: '"' :: rest => some (String.ofList found.reverse, rest)
  | '\\' :: 'u' :: a :: b :: c :: d :: rest =>
    match codedChar? [a, b, c, d] with
    | none => none
    | some coded => readLongBasic? false (coded :: found) rest
  | '\\' :: 'U' :: a :: b :: c :: d :: e :: f :: g :: h :: rest =>
    match codedChar? [a, b, c, d, e, f, g, h] with
    | none => none
    | some coded => readLongBasic? false (coded :: found) rest
  | '\\' :: letter :: rest =>
    match escaped? letter with
    | some c => readLongBasic? false (c :: found) rest
    | none =>
      if breaksLine (letter :: rest) then readLongBasic? true found (letter :: rest) else none
  | '\r' :: '\n' :: rest => readLongBasic? skipping (if skipping then found else '\n' :: found) rest
  | c :: rest =>
    if skipping ∧ (c = ' ' ∨ c = '\t' ∨ c = '\n') then readLongBasic? true found rest
    else if c = '\n' ∨ (c ≠ '\\' ∧ isPrintable c) then readLongBasic? false (c :: found) rest
    else none

/-- Reads text up to a single quote. -/
def readLiteral? (text : List Char) : Option (String × List Char) :=
  match text.dropWhile fun c => c != '\'' && isPrintable c with
  | '\'' :: rest =>
    some (String.ofList (text.takeWhile fun c => c != '\'' && isPrintable c), rest)
  | _ => none

/-- Reads text of several lines up to three single quotes. -/
def readLongLiteral? (found : List Char) : List Char → Option (String × List Char)
  | [] => none
  | '\'' :: '\'' :: '\'' :: '\'' :: '\'' :: rest =>
    some (String.ofList (found.reverse ++ ['\'', '\'']), rest)
  | '\'' :: '\'' :: '\'' :: '\'' :: rest => some (String.ofList (found.reverse ++ ['\'']), rest)
  | '\'' :: '\'' :: '\'' :: rest => some (String.ofList found.reverse, rest)
  | '\r' :: '\n' :: rest => readLongLiteral? ('\n' :: found) rest
  | c :: rest => if c = '\n' ∨ isPrintable c then readLongLiteral? (c :: found) rest else none

/-- Reads a text with its quotes, of one line or of several. -/
def readText? : List Char → Option (String × List Char)
  | '"' :: '"' :: '"' :: rest => readLongBasic? false [] (dropLineBreak rest)
  | '"' :: rest => readBasic? [] rest
  | '\'' :: '\'' :: '\'' :: rest => readLongLiteral? [] (dropLineBreak rest)
  | '\'' :: rest => readLiteral? rest
  | _ => none

end QuestionSearch.Toml
