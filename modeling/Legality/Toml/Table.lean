import Legality.Data.Value

/-!
Tables under construction. A document opens tables by headers and by dotted keys; a table that a header opened
cannot be opened again, nor be extended by dotted keys from outside, and a series of tables grows at its end.
-/
namespace Legality.Toml

/-- A node of a document. An implicit table was only passed through so far; a dotted one was made by a dotted
key. Values, inline tables among them, are closed. -/
inductive Node
  | leaf (value : Value)
  | table (implicit dotted : Bool) (entries : List (String × Node))
  | series (items : List Node)

namespace Node

mutual

def toValue : Node → Value
  | leaf value => value
  | table _ _ entries => .record (entryValues entries)
  | series items => .list (itemValues items)

def entryValues : List (String × Node) → List (String × Value)
  | [] => []
  | (name, node) :: rest => (name, toValue node) :: entryValues rest

def itemValues : List Node → List Value
  | [] => []
  | node :: rest => toValue node :: itemValues rest

end

end Node

structure OpenTable where
  implicit : Bool
  dotted : Bool
  entries : List (String × Node)

namespace OpenTable

def root : OpenTable := ⟨false, false, []⟩

def node (table : OpenTable) : Node := .table table.implicit table.dotted table.entries

def find? : List (String × Node) → String → Option Node
  | [], _ => none
  | (other, node) :: rest, name => if other = name then some node else find? rest name

def put : List (String × Node) → String → Node → List (String × Node)
  | [], name, node => [(name, node)]
  | (other, earlier) :: rest, name, node =>
    if other = name then (name, node) :: rest else (other, earlier) :: put rest name node

def setEntry (table : OpenTable) (name : String) (node : Node) : OpenTable :=
  { table with entries := put table.entries name node }

/-- Changes the table at the end of a path, making the tables on the way that are not there. Dotted keys cannot
pass through a table that has a header of its own. A series stands for its last table. -/
def changeAt (dotted : Bool) (change : OpenTable → Option OpenTable) :
    List String → OpenTable → Option OpenTable
  | [], table => change table
  | name :: path, table =>
    match find? table.entries name with
    | none => (changeAt dotted change path ⟨true, dotted, []⟩).map fun inner => table.setEntry name inner.node
    | some (.table implicit isDotted entries) =>
      if dotted && !implicit then none
      else (changeAt dotted change path ⟨implicit, isDotted, entries⟩).map fun inner =>
        table.setEntry name inner.node
    | some (.series items) =>
      match items.getLast? with
      | some (.table implicit isDotted entries) =>
        (changeAt dotted change path ⟨implicit, isDotted, entries⟩).map fun inner =>
          table.setEntry name (.series (items.dropLast ++ [inner.node]))
      | _ => none
    | some (.leaf _) => none

def addValue (path : List String) (name : String) (value : Value) (table : OpenTable) : Option OpenTable :=
  changeAt true (fun inner =>
    if inner.dotted == path.isEmpty || (find? inner.entries name).isSome then none
    else some (inner.setEntry name (.leaf value))) path table

/-- Opens the table of a header. One that was only passed through keeps its entries. -/
def openTable (path : List String) (name : String) (table : OpenTable) : Option OpenTable :=
  changeAt false (fun inner =>
    match find? inner.entries name with
    | none => some (inner.setEntry name (.table false false []))
    | some (.table true false entries) => some (inner.setEntry name (.table false false entries))
    | some _ => none) path table

def openItem (path : List String) (name : String) (table : OpenTable) : Option OpenTable :=
  changeAt false (fun inner =>
    match find? inner.entries name with
    | none => some (inner.setEntry name (.series [.table false false []]))
    | some (.series items) => some (inner.setEntry name (.series (items ++ [.table false false []])))
    | some _ => none) path table

end OpenTable

end Legality.Toml
