import QuestionSearch.Data.Decode
import QuestionSearch.Json.Reader
import QuestionSearch.Json.Value
import QuestionSearch.Table

/-!
# Content trees

A node of a content tree has named properties and named children, both in ascending order of their
names. The properties of a node become the fields of a document: a property of several values is the
text of all of them with blanks between, and a property without a value is no field.
-/

namespace QuestionSearch.Content

open QuestionSearch.Json

/-- A node of a content tree. -/
inductive ContentNode
  /-- A node with its properties and children. -/
  | node (properties : List (String × Value)) (children : List (String × ContentNode))
deriving Inhabited

namespace ContentNode

/-- The named properties, ascending. -/
def properties : ContentNode → List (String × Value)
  | node properties _ => properties

/-- The named children, ascending. -/
def children : ContentNode → List (String × ContentNode)
  | node _ children => children

/-- A node without properties and children. -/
def empty : ContentNode := node [] []

/-- The node with a child, in place of one of that name. -/
def withChild (parent : ContentNode) (name : String) (child : ContentNode) : ContentNode :=
  node parent.properties (insertEntry name child parent.children)

mutual

/-- The number of nodes, this one included. -/
def nodeCount : ContentNode → Nat
  | node _ children => 1 + nodeCounts children

/-- The number of nodes at and below some children. -/
def nodeCounts : List (String × ContentNode) → Nat
  | [] => 0
  | (_, child) :: rest => nodeCount child + nodeCounts rest

end

/-- The properties that data describe. -/
def propertiesOfData? : Data → Option (List (String × Value))
  | .record entries => (Value.ofEntries? entries).map sortEntries
  | _ => none

/-- The parts of a node that were given. -/
structure Parts where
  /-- The properties. -/
  properties : Option (List (String × Value))
  /-- The children. -/
  children : Option (List (String × ContentNode))

/-- The node of some parts. A part that was not given is empty. -/
def ofParts (parts : Parts) : ContentNode :=
  node (parts.properties.getD []) (parts.children.getD [])

mutual

/-- The node that data describe: a record of its parts, or a list of them in order. Both parts may
be left out, and neither may be repeated. -/
def ofData? : Data → Option ContentNode
  | .record entries => (partsOfEntries? entries).map ofParts
  | .list [] => some empty
  | .list [properties] => (propertiesOfData? properties).map fun properties => node properties []
  | .list [properties, children] => do
    let properties ← propertiesOfData? properties
    let children ← childrenOfData? children
    some (node properties children)
  | _ => none

/-- The parts that entries give. -/
def partsOfEntries? : List (String × Data) → Option Parts
  | [] => some ⟨none, none⟩
  | (key, data) :: rest => do
    let parts ← partsOfEntries? rest
    if key = "properties" then
      let properties ← propertiesOfData? data
      if parts.properties.isSome then none else some { parts with properties := some properties }
    else if key = "children" then
      let children ← childrenOfData? data
      if parts.children.isSome then none else some { parts with children := some children }
    else some parts

/-- The children that data describe. Of two children with one name the later one counts. -/
def childrenOfData? : Data → Option (List (String × ContentNode))
  | .record entries => (childrenOfEntries? entries).map sortEntries
  | _ => none

/-- The children that entries describe, in the order of the entries. -/
def childrenOfEntries? : List (String × Data) → Option (List (String × ContentNode))
  | [] => some []
  | (name, data) :: rest => do
    let child ← ofData? data
    let children ← childrenOfEntries? rest
    some ((name, child) :: children)

end

/-- Reads a content tree from JSON. -/
def ofJson? (text : String) : Option ContentNode :=
  (Json.read? text).bind ofData?

mutual

/-- The node for printing as JSON. -/
def toJson : ContentNode → Written
  | node properties children =>
    .record
      [("properties", .record (Value.writtenEntries properties)),
        ("children", .record (childrenJson children))]

/-- The children for printing as JSON. -/
def childrenJson : List (String × ContentNode) → List (String × Written)
  | [] => []
  | (name, child) :: rest => (name, toJson child) :: childrenJson rest

end

end ContentNode

mutual

/-- The text of a property in the index. A property without a value has none. -/
def propertyText? : Value → Option String
  | .null => none
  | .text value => some value
  | .list items => some (String.intercalate " " (propertyTexts items))
  | value => some value.compact

/-- The texts of the values of a property that has several. -/
def propertyTexts : List Value → List String
  | [] => []
  | item :: rest => (propertyText? item).toList ++ propertyTexts rest

end

/-- The fields of the document of a node. -/
def ContentNode.fields (content : ContentNode) : Table String :=
  Table.ofList <| content.properties.filterMap fun entry =>
    (propertyText? entry.2).map fun text => (entry.1, text)

end QuestionSearch.Content
