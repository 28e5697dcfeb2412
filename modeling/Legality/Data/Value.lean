import Legality.Data.SortedMap

/-!
Tree-shaped data, as JSON and configuration documents spell it. Characters, intents and reports leave
and enter the library in this form only, so each of them has one reader and one writer.
-/
namespace Legality

/-- A tree of data. A number with a fraction or an exponent is kept as it was written, because no quantity
of the library is one; it is only ever handed on. -/
inductive Value
  | null
  | bool (flag : Bool)
  | int (number : Int)
  | decimal (digits : String)
  | text (content : String)
  | list (items : List Value)
  | record (fields : List (String × Value))
  deriving Inhabited, Repr, BEq

namespace Value

mutual

def depth : Value → Nat
  | list items => 1 + depthOfItems items
  | record fields => 1 + depthOfFields fields
  | _ => 1

def depthOfItems : List Value → Nat
  | [] => 0
  | item :: rest => max (depth item) (depthOfItems rest)

def depthOfFields : List (String × Value) → Nat
  | [] => 0
  | (_, value) :: rest => max (depth value) (depthOfFields rest)

end

def field? (fields : List (String × Value)) (name : String) : Option Value :=
  match fields with
  | [] => none
  | (other, value) :: rest => if other = name then some value else field? rest name

/-- Replaces the field of a name where it stands, or adds one at the end. -/
def putField (fields : List (String × Value)) (name : String) (value : Value) : List (String × Value) :=
  match fields with
  | [] => [(name, value)]
  | (other, earlier) :: rest =>
    if other = name then (name, value) :: rest else (other, earlier) :: putField rest name value

def get (value : Value) (name : String) : Value :=
  match value with
  | record fields => (field? fields name).getD null
  | _ => null

def has (value : Value) (name : String) : Bool :=
  match value with
  | record fields => (field? fields name).isSome
  | _ => false

def texts (items : List String) : Value := list (items.map text)

def nat (n : Nat) : Value := int n

end Value

/-!
Readers of typed data. A reader takes a value and either accepts it whole or refuses it. Records are read
by field name, or by place when they are written as a list; fields that a record does not know are skipped.
-/

/-- How a value was written decides a few spellings: what an empty payload looks like, whether a list may
hold more items than a record has fields, and whether a tag may be given by its number. Values inside a
tagged value have spellings of their own. -/
inductive Dialect
  | json
  | jsonInner
  | toml
  | tomlInner
  deriving DecidableEq, Repr

namespace Dialect

def inner : Dialect → Dialect
  | json => jsonInner
  | jsonInner => jsonInner
  | toml => tomlInner
  | tomlInner => tomlInner

def emptyPayload : Dialect → Value → Bool
  | json, .null => true
  | jsonInner, .null => true
  | jsonInner, .record [] => true
  | toml, .record [] => true
  | toml, .list [] => true
  | tomlInner, .record [] => true
  | _, _ => false

/-- Whether a list may go on after the last field of the record that it stands for. -/
def sparePlaces : Dialect → Bool
  | toml => true
  | _ => false

def numberedTags : Dialect → Bool
  | jsonInner => true
  | _ => false

end Dialect

namespace Value

def text? : Value → Option String
  | text content => some content
  | _ => none

def bool? : Value → Option Bool
  | bool flag => some flag
  | _ => none

def natBelow? (bound : Nat) : Value → Option Nat
  | int number => if 0 ≤ number ∧ number < bound then some number.toNat else none
  | _ => none

def uint8? (value : Value) : Option UInt8 := (value.natBelow? UInt8.size).map UInt8.ofNat

def uint32? (value : Value) : Option UInt32 := (value.natBelow? UInt32.size).map UInt32.ofNat

def count? (value : Value) : Option Nat := value.natBelow? UInt64.size

def int32? : Value → Option Int32
  | int number => if Int32.minValue.toInt ≤ number ∧ number ≤ Int32.maxValue.toInt then some (Int32.ofInt number) else none
  | _ => none

def option? {α : Type} (read : Value → Option α) : Value → Option (Option α)
  | null => some none
  | value => (read value).map some

def list? {α : Type} (read : Value → Option α) : Value → Option (List α)
  | list items => items.mapM read
  | _ => none

def textSet? (value : Value) : Option (SortedSet String) :=
  (value.list? text?).map SortedSet.ofList

def map? {κ α : Type} [OrderedKey κ] (readKey : String → Option κ) (read : Value → Option α) :
    Value → Option (SortedMap κ α)
  | record fields =>
    let entries := fields.mapM fun ((name, value) : String × Value) => do
      let key ← readKey name
      let content ← read value
      some (key, content)
    entries.map SortedMap.ofList
  | _ => none

def labelled? {α : Type} (alternatives : List α) (label : α → String) (name : String) : Option α :=
  alternatives.find? fun alternative => label alternative == name

def oneOf? {α : Type} (dialect : Dialect) (named : String → Option α) : Value → Option α
  | text name => named name
  | record [(name, payload)] => if dialect.emptyPayload payload then named name else none
  | _ => none

end Value

/-- The fields of a record, found by name, or by place when the record was written as a list. -/
inductive Fields
  | named (fields : List (String × Value))
  | placed (items : List Value)

namespace Fields

def ofValue? (dialect : Dialect) (arity : Nat) : Value → Option Fields
  | .record fields => some (named fields)
  | .list items => if items.length ≤ arity || dialect.sparePlaces then some (placed items) else none
  | _ => none

def get? : Fields → Nat → String → Option Value
  | named fields, _, name => Value.field? fields name
  | placed items, place, _ => items[place]?

def required {α : Type} (fields : Fields) (place : Nat) (name : String) (read : Value → Option α) : Option α :=
  match fields.get? place name with
  | some value => read value
  | none => none

def orElse {α : Type} (fields : Fields) (place : Nat) (name : String) (missing : α)
    (read : Value → Option α) : Option α :=
  match fields.get? place name with
  | some value => read value
  | none => some missing

def optional {α : Type} (fields : Fields) (place : Nat) (name : String) (read : Value → Option α) :
    Option (Option α) :=
  fields.orElse place name none (Value.option? read)

end Fields

structure Tagged where
  tag : Value
  fields : Fields

namespace Tagged

/-- Splits a value into its tag and the other fields. In a list the tag comes first. -/
def ofValue? (name : String) : Value → Option Tagged
  | .record fields => (Value.field? fields name).map fun tag => ⟨tag, .named fields⟩
  | .list (tag :: items) => some ⟨tag, .placed items⟩
  | _ => none

def alternative? (tagged : Tagged) (dialect : Dialect) (names : List String) : Option String :=
  match tagged.tag with
  | .text name => if names.contains name then some name else none
  | .int number => if dialect.numberedTags && 0 ≤ number then names[number.toNat]? else none
  | _ => none

def fits (tagged : Tagged) (arity : Nat) : Bool :=
  match tagged.fields with
  | .named _ => true
  | .placed items => items.length ≤ arity

end Tagged

end Legality
