import Legality.Toml.Scalar
import Legality.Toml.Table

/-!
Reader of configuration documents in TOML. A document is read line by line into open tables; values are bounded in
their nesting, and every key is set once.
-/
namespace Legality.Toml

/-- The nesting of values and the parts of a key stay below this number. -/
def nestingLimit : Nat := 80

def isBareKeyChar (c : Char) : Bool := c.isAlphanum || c == '-' || c == '_'

def dropComment : List Char → List Char
  | '#' :: rest => rest.dropWhile isPlain
  | cs => cs

def skipTrivia : Nat → List Char → List Char
  | 0, cs => cs
  | fuel + 1, cs =>
    let rest := dropComment (skipGap cs)
    match dropNewline? rest with
    | some rest => skipTrivia fuel rest
    | none => skipGap cs

def dropLineEnd? (cs : List Char) : Option (List Char) :=
  match dropComment (skipGap cs) with
  | [] => some []
  | cs => dropNewline? cs

def keyPart? (cs : List Char) : Option (String × List Char) :=
  match cs with
  | '"' :: rest => basic? (rest.length + 1) [] rest
  | '\'' :: rest => literal? rest
  | _ =>
    let part := cs.takeWhile isBareKeyChar
    if part.isEmpty then none else some (String.ofList part, cs.drop part.length)

def keyParts? : Nat → List Char → Option (List String × List Char)
  | 0, _ => none
  | fuel + 1, cs =>
    match keyPart? (skipGap cs) with
    | none => none
    | some (part, rest) =>
      match skipGap rest with
      | '.' :: more => (keyParts? fuel more).map fun (parts, rest) => (part :: parts, rest)
      | rest => some ([part], rest)

def key? (cs : List Char) : Option (List String × String × List Char) := do
  let (parts, rest) ← keyParts? (cs.length + 1) cs
  let name ← parts.getLast?
  if parts.length < nestingLimit then some (parts.dropLast, name, rest) else none

def startsNumber (c : Char) : Bool := c.isDigit || c == '+' || c == '-'

mutual

def value? : Nat → Nat → List Char → Option (Value × List Char)
  | 0, _, _ => none
  | fuel + 1, depth, cs =>
    match cs with
    | 't' :: 'r' :: 'u' :: 'e' :: rest => some (.bool true, rest)
    | 'f' :: 'a' :: 'l' :: 's' :: 'e' :: rest => some (.bool false, rest)
    | 'i' :: 'n' :: 'f' :: rest => some (.decimal "inf", rest)
    | 'n' :: 'a' :: 'n' :: rest => some (.decimal "nan", rest)
    | '[' :: rest =>
      if depth + 1 < nestingLimit then
        (items? fuel (depth + 1) [] rest).map fun (items, rest) => (.list items, rest)
      else none
    | '\x7b' :: rest =>
      if depth + 1 < nestingLimit then
        match skipGap rest with
        | '\x7d' :: rest => some (.record [], rest)
        | rest => (fields? fuel (depth + 1) OpenTable.root rest).map fun (table, rest) =>
            (table.node.toValue, rest)
      else none
    | c :: _ =>
      if c = '"' ∨ c = '\'' then (text? cs).map fun (content, rest) => (.text content, rest)
      else if startsNumber c then
        match moment? cs with
        | some found => some found
        | none => number? cs
      else none
    | [] => none

def items? : Nat → Nat → List Value → List Char → Option (List Value × List Char)
  | 0, _, _, _ => none
  | fuel + 1, depth, done, cs =>
    match skipTrivia cs.length cs with
    | ']' :: rest => some (done.reverse, rest)
    | cs =>
      match value? fuel depth cs with
      | none => none
      | some (item, rest) =>
        match skipTrivia rest.length rest with
        | ',' :: rest => items? fuel depth (item :: done) rest
        | ']' :: rest => some ((item :: done).reverse, rest)
        | _ => none

/-- Reads the fields of an inline table up to its closing brace; they stand on one line, and no comma follows the
last one. -/
def fields? : Nat → Nat → OpenTable → List Char → Option (OpenTable × List Char)
  | 0, _, _, _ => none
  | fuel + 1, depth, table, cs =>
    match key? cs with
    | none => none
    | some (path, name, rest) =>
      match skipGap rest with
      | '=' :: rest =>
        match value? fuel depth (skipGap rest) with
        | none => none
        | some (value, rest) =>
          match table.addValue path name value with
          | none => none
          | some table =>
            match skipGap rest with
            | ',' :: rest => fields? fuel depth table rest
            | '\x7d' :: rest => some (table, rest)
            | _ => none
      | _ => none

end

/-- A document so far: its root, and the path of the table that a header opened last. -/
structure Progress where
  root : OpenTable
  current : List String

def header? (progress : Progress) (cs : List Char) : Option (Progress × List Char) :=
  match cs with
  | '[' :: cs => do
    let (path, name, rest) ← key? cs
    match rest with
    | ']' :: ']' :: rest => do
      let root ← progress.root.openItem path name
      let rest ← dropLineEnd? rest
      some (⟨root, path ++ [name]⟩, rest)
    | _ => none
  | cs => do
    let (path, name, rest) ← key? cs
    let rest ← expect? ']' rest
    let root ← progress.root.openTable path name
    let rest ← dropLineEnd? rest
    some (⟨root, path ++ [name]⟩, rest)

def assignment? (progress : Progress) (cs : List Char) : Option (Progress × List Char) := do
  let (path, name, rest) ← key? cs
  let rest ← expect? '=' (skipGap rest)
  let (value, rest) ← value? (rest.length + 1) 0 (skipGap rest)
  let root ← OpenTable.changeAt false (OpenTable.addValue path name value) progress.current progress.root
  let rest ← dropLineEnd? rest
  some (⟨root, progress.current⟩, rest)

def lines? : Nat → Progress → List Char → Option OpenTable
  | 0, _, _ => none
  | fuel + 1, progress, cs =>
    match skipGap cs with
    | [] => some progress.root
    | '[' :: rest =>
      match header? progress rest with
      | some (progress, rest) => lines? fuel progress rest
      | none => none
    | c :: rest =>
      if c = '#' ∨ c = '\n' ∨ c = '\r' then
        match dropLineEnd? (c :: rest) with
        | some rest => lines? fuel progress rest
        | none => none
      else
        match assignment? progress (c :: rest) with
        | some (progress, rest) => lines? fuel progress rest
        | none => none

def dropMark : List Char → List Char
  | '\ufeff' :: rest => rest
  | cs => cs

def read? (text : String) : Option Value :=
  let cs := dropMark text.toList
  (lines? (cs.length + 2) ⟨.root, []⟩ cs).map fun root => root.node.toValue

end Legality.Toml
