import QuestionSearch.Data

/-!
# Sections of TOML

A document is a list of sections: a header that names a table, and pairs of a dotted key and a
value. Putting the sections together decides which of them may speak of one table. A table is
written out once, by a header or by a bracketed value. A header may still fill in a table that only
stands on the path of other headers, and dotted keys may add to a table that dotted keys began.
-/

namespace QuestionSearch.Toml

/-- How a table came to be. -/
inductive Origin
  /-- A header names it. -/
  | header
  /-- It stands on the path of a header. -/
  | implied
  /-- It stands on the path of a dotted key. -/
  | dotted
deriving DecidableEq

/-- What a key holds while sections are put together. -/
inductive Item
  /-- A value. -/
  | value (data : Data)
  /-- A table. -/
  | table (origin : Origin) (entries : List (String × Item))
  /-- Tables under one repeated header, the last one first. -/
  | tables (elements : List (List (String × Item)))
deriving Inhabited

/-- A key with the keys of the tables above it. -/
structure DottedKey where
  /-- The tables above, the outermost first. -/
  path : List String
  /-- The key itself. -/
  key : String

/-- What a section is about. -/
inductive Header
  /-- The table at the top. -/
  | root
  /-- The table of a name. -/
  | table (name : DottedKey)
  /-- A further table in the list of a name. -/
  | element (name : DottedKey)

/-- A header with the pairs below it. -/
structure Section where
  /-- The table that the pairs belong to. -/
  header : Header
  /-- The pairs in order. -/
  pairs : List (DottedKey × Data)

/-- Entries of a table. -/
abbrev Entries := List (String × Item)

namespace Entries

/-- The item of a key. -/
def find? (key : String) (entries : Entries) : Option Item :=
  (List.find? (fun entry => entry.1 == key) entries).map Prod.snd

/-- Replaces the item of a key, or adds it at the end. -/
def set (key : String) (item : Item) : Entries → Entries
  | [] => [(key, item)]
  | entry :: rest => if entry.1 == key then (key, item) :: rest else entry :: set key item rest

/-- Changes the entries of the table at the end of a path. Tables missing on the way are made, as
`made` says. Only the path of a header may lead through tables that a header names, and no path
leads into a value. In a list of tables it leads to the last one. -/
def changeAt (made : Origin) (change : Origin → Entries → Option Entries) :
    List String → Origin → Entries → Option Entries
  | [], origin, entries => change origin entries
  | key :: rest, _, entries =>
    match find? key entries with
    | none => (changeAt made change rest made []).map fun inner =>
        entries ++ [(key, .table made inner)]
    | some (.value _) => none
    | some (.table origin inner) =>
      if made = .dotted ∧ origin = .header then none
      else
        (changeAt made change rest origin inner).map fun inner =>
          set key (.table origin inner) entries
    | some (.tables []) => none
    | some (.tables (last :: others)) =>
      (changeAt made change rest .header last).map fun last =>
        set key (.tables (last :: others)) entries

/-- Adds a pair. Its path may not lead to a table that was not begun by dotted keys, and its key
may not be taken. -/
def addPair (entries : Entries) (pair : DottedKey × Data) : Option Entries :=
  changeAt .dotted
    (fun origin inner =>
      if (origin = .dotted) = pair.1.path.isEmpty ∨ (find? pair.1.key inner).isSome then none
      else some (inner ++ [(pair.1.key, .value pair.2)]))
    pair.1.path .header entries

/-- Adds pairs in order. -/
def addPairs (entries : Entries) (pairs : List (DottedKey × Data)) : Option Entries :=
  pairs.foldlM addPair entries

/-- Adds a section. -/
def addSection (entries : Entries) (added : Section) : Option Entries :=
  match added.header with
  | .root => addPairs entries added.pairs
  | .table name =>
    changeAt .implied
      (fun _ inner =>
        match find? name.key inner with
        | none => (addPairs [] added.pairs).map fun filled =>
            set name.key (.table .header filled) inner
        | some (.table .implied begun) => (addPairs begun added.pairs).map fun filled =>
            set name.key (.table .header filled) inner
        | some _ => none)
      name.path .header entries
  | .element name =>
    changeAt .implied
      (fun _ inner =>
        match find? name.key inner with
        | none => (addPairs [] added.pairs).map fun filled =>
            set name.key (.tables [filled]) inner
        | some (.tables elements) => (addPairs [] added.pairs).map fun filled =>
            set name.key (.tables (filled :: elements)) inner
        | some _ => none)
      name.path .header entries

end Entries

namespace Item

mutual

/-- The data of an item. -/
def toData : Item → Data
  | .value data => data
  | .table _ entries => .record (entriesData entries)
  | .tables elements => .list (elementsData elements).reverse

/-- The data of some entries. -/
def entriesData : List (String × Item) → List (String × Data)
  | [] => []
  | (key, item) :: rest => (key, toData item) :: entriesData rest

/-- The data of a list of tables. -/
def elementsData : List (List (String × Item)) → List Data
  | [] => []
  | entries :: rest => .record (entriesData entries) :: elementsData rest

end

end Item

/-- The data of sections, if they fit together. -/
def assemble? (sections : List Section) : Option Data :=
  (sections.foldlM Entries.addSection []).map fun entries => .record (Item.entriesData entries)

end QuestionSearch.Toml
