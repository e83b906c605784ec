import QuestionSearch.Toml.Section
import QuestionSearch.Toml.Text

/-!
# Reading TOML

Keys, values, lines and sections. Brackets nest less than eighty deep and a dotted key has fewer
than eighty parts. Inside square brackets line breaks and comments may stand between items; inside
curly brackets they may not.
-/

namespace QuestionSearch.Toml

/-- How many parts a key may have, and how deep brackets may nest. -/
def depthLimit : Nat := 79

/-- Whether a character separates words of a line. -/
def isSpace (c : Char) : Bool := c = ' ' || c = '\t'

/-- Whether a character may stand in a key without quotes. -/
def isKeyChar (c : Char) : Bool := c.isAlphanum || c = '-' || c = '_'

/-- Drops blanks. -/
def dropSpaces (text : List Char) : List Char := text.dropWhile isSpace

/-- Drops a comment, if one comes next. -/
def dropComment : List Char → List Char
  | '#' :: rest => rest.dropWhile isPrintable
  | rest => rest

/-- Reads to the end of a line that holds nothing more than blanks and a comment. -/
def endLine? (text : List Char) : Option (List Char) :=
  match dropComment (dropSpaces text) with
  | [] => some []
  | '\n' :: rest => some rest
  | '\r' :: '\n' :: rest => some rest
  | _ => none

/-- Drops blanks, line breaks and comments. `inComment` says that a comment has begun. -/
def dropGap (inComment : Bool) : List Char → List Char
  | [] => []
  | '\r' :: '\n' :: rest => dropGap false rest
  | '\n' :: rest => dropGap false rest
  | c :: rest =>
    if inComment then if isPrintable c then dropGap true rest else c :: rest
    else if isSpace c then dropGap false rest
    else if c = '#' then dropGap true rest
    else c :: rest

/-- Reads one part of a key. -/
def readKeyPart? (text : List Char) : Option (String × List Char) :=
  match text with
  | '"' :: rest => readBasic? [] rest
  | '\'' :: rest => readLiteral? rest
  | _ =>
    let word := text.takeWhile isKeyChar
    if word.isEmpty then none else some (String.ofList word, text.dropWhile isKeyChar)

/-- Reads a key of at most so many parts, with blanks around each part. -/
def readParts? : Nat → List Char → Option (List String × List Char)
  | 0, _ => none
  | parts + 1, text => do
    let (part, rest) ← readKeyPart? (dropSpaces text)
    match dropSpaces rest with
    | '.' :: rest =>
      let (others, rest) ← readParts? parts rest
      some (part :: others, rest)
    | rest => some ([part], rest)

/-- Reads a key. -/
def readKey? (text : List Char) : Option (DottedKey × List Char) := do
  let (parts, rest) ← readParts? depthLimit text
  let key ← parts.getLast?
  some (⟨parts.dropLast, key⟩, rest)

/-- Reads a key and a value, given how to read values. -/
def readPair? (readValue? : List Char → Option (Data × List Char)) (text : List Char) :
    Option ((DottedKey × Data) × List Char) := do
  let (key, rest) ← readKey? text
  match rest with
  | '=' :: rest =>
    let (value, rest) ← readValue? (dropSpaces rest)
    some ((key, value), rest)
  | _ => none

/-- Reads items up to a closing square bracket, in at most so many steps. A separator may follow the
last item. -/
def readItems? (readValue? : List Char → Option (Data × List Char)) (found : List Data) :
    Nat → List Char → Option (List Data × List Char)
  | 0, _ => none
  | steps + 1, text =>
    match dropGap false text with
    | ']' :: rest => some (found.reverse, rest)
    | text =>
      match readValue? text with
      | none => none
      | some (item, rest) =>
        match dropGap false rest with
        | ',' :: rest => readItems? readValue? (item :: found) steps rest
        | ']' :: rest => some ((item :: found).reverse, rest)
        | _ => none

/-- Reads pairs up to a closing curly bracket, in at most so many steps. -/
def readPairs? (readValue? : List Char → Option (Data × List Char))
    (found : List (DottedKey × Data)) :
    Nat → List Char → Option (List (DottedKey × Data) × List Char)
  | 0, _ => none
  | steps + 1, text =>
    match readPair? readValue? text with
    | none => none
    | some (pair, rest) =>
      match dropSpaces rest with
      | ',' :: rest => readPairs? readValue? (pair :: found) steps rest
      | '\x7d' :: rest => some ((pair :: found).reverse, rest)
      | _ => none

/-- Reads a table between curly brackets after the opening one, given how to read values. -/
def readInlineTable? (readValue? : List Char → Option (Data × List Char)) (text : List Char) :
    Option (Data × List Char) :=
  match dropSpaces text with
  | '\x7d' :: rest => some (.record [], rest)
  | text => do
    let (pairs, rest) ← readPairs? readValue? [] text.length text
    let entries ← Entries.addPairs [] pairs
    some (.record (Item.entriesData entries), rest)

/-- Reads a value inside so many further brackets at most. -/
def readValue? (room : Nat) (text : List Char) : Option (Data × List Char) :=
  match room, text with
  | _, '"' :: _ => (readText? text).map fun (value, rest) => (.text value, rest)
  | _, '\'' :: _ => (readText? text).map fun (value, rest) => (.text value, rest)
  | room + 1, '[' :: rest =>
    (readItems? (readValue? room) [] (rest.length + 1) rest).map fun (items, rest) =>
      (.list items, rest)
  | room + 1, '\x7b' :: rest => readInlineTable? (readValue? room) rest
  | _, _ => readScalar? text

/-- Reads the rest of a header after its opening brackets. -/
def readHeader? (closing : List Char) (text : List Char) : Option (DottedKey × List Char) := do
  let (name, rest) ← readKey? text
  if closing.isPrefixOf rest then
    let rest ← endLine? (rest.drop closing.length)
    some (name, rest)
  else none

/-- Reads sections line by line, in at most so many steps. `found` holds the complete sections and
`header` and `pairs` the one that is open, the last part of each first. -/
def readSections? (found : List Section) (header : Header) (pairs : List (DottedKey × Data)) :
    Nat → List Char → Option (List Section)
  | 0, _ => none
  | steps + 1, text =>
    match dropSpaces text with
    | [] => some (⟨header, pairs.reverse⟩ :: found).reverse
    | '#' :: rest => (endLine? ('#' :: rest)).bind (readSections? found header pairs steps)
    | '\n' :: rest => readSections? found header pairs steps rest
    | '\r' :: '\n' :: rest => readSections? found header pairs steps rest
    | '[' :: '[' :: rest =>
      (readHeader? [']', ']'] rest).bind fun (name, rest) =>
        readSections? (⟨header, pairs.reverse⟩ :: found) (.element name) [] steps rest
    | '[' :: rest =>
      (readHeader? [']'] rest).bind fun (name, rest) =>
        readSections? (⟨header, pairs.reverse⟩ :: found) (.table name) [] steps rest
    | text =>
      (readPair? (readValue? depthLimit) text).bind fun (pair, rest) =>
        (endLine? rest).bind (readSections? found header (pair :: pairs) steps)

/-- Drops the mark that may stand before a text to say how it is coded. -/
def dropMark : List Char → List Char
  | '\ufeff' :: rest => rest
  | rest => rest

/-- Reads TOML. -/
def read? (text : String) : Option Data := do
  let sections ← readSections? [] .root [] (text.length + 1) (dropMark text.toList)
  assemble? sections

end QuestionSearch.Toml
