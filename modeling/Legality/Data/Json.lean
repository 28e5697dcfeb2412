import Legality.Data.Value
import Legality.Text.Basic
import Legality.Text.Quoted

/-!
Reader of JSON text. Of two fields of one name the later counts. Recursion is bounded by the length of the
text, which no nesting of values can exceed.
-/
namespace Legality.Json

def isSpace (c : Char) : Bool := c == ' ' || c == '\t' || c == '\n' || c == '\r'

def skipSpace (cs : List Char) : List Char := cs.dropWhile isSpace

def hexValue? (c : Char) : Option Nat :=
  if '0' ≤ c ∧ c ≤ '9' then some (c.toNat - 48)
  else if 'a' ≤ c ∧ c ≤ 'f' then some (c.toNat - 87)
  else if 'A' ≤ c ∧ c ≤ 'F' then some (c.toNat - 55)
  else none

def readUnit? : List Char → Option (Nat × List Char)
  | a :: b :: c :: d :: rest => do
    let a ← hexValue? a
    let b ← hexValue? b
    let c ← hexValue? c
    let d ← hexValue? d
    some (((a * 16 + b) * 16 + c) * 16 + d, rest)
  | _ => none

/-- Reads what follows the letter of a four-digit escape. Units above the basic plane come in pairs. -/
def readEscapedChar? (cs : List Char) : Option (Char × List Char) := do
  let (unit, rest) ← readUnit? cs
  if unit < 0xD800 ∨ 0xDFFF < unit then some (Char.ofNat unit, rest)
  else if unit < 0xDC00 then
    match rest with
    | '\\' :: 'u' :: more => do
      let (low, rest) ← readUnit? more
      if 0xDC00 ≤ low ∧ low ≤ 0xDFFF then
        some (Char.ofNat (0x10000 + (unit - 0xD800) * 0x400 + (low - 0xDC00)), rest)
      else none
    | _ => none
  else none

/-- Reads the rest of a string after its opening quotation mark; `done` holds the characters read so far,
the last one first. -/
def readString? : Nat → List Char → List Char → Option (String × List Char)
  | 0, _, _ => none
  | _, _, [] => none
  | fuel + 1, done, c :: rest =>
    if c = '"' then some (String.ofList done.reverse, rest)
    else if c = '\\' then
      match rest with
      | '"' :: rest => readString? fuel ('"' :: done) rest
      | '\\' :: rest => readString? fuel ('\\' :: done) rest
      | '/' :: rest => readString? fuel ('/' :: done) rest
      | 'b' :: rest => readString? fuel ('\x08' :: done) rest
      | 'f' :: rest => readString? fuel ('\x0c' :: done) rest
      | 'n' :: rest => readString? fuel ('\n' :: done) rest
      | 'r' :: rest => readString? fuel ('\r' :: done) rest
      | 't' :: rest => readString? fuel ('\t' :: done) rest
      | 'u' :: rest =>
        match readEscapedChar? rest with
        | some (decoded, rest) => readString? fuel (decoded :: done) rest
        | none => none
      | _ => none
    else if c.toNat < 0x20 then none
    else readString? fuel (c :: done) rest

def spanDigits (cs : List Char) : List Char × List Char :=
  cs.span Char.isDigit

/-- An integer is exact between the least signed and the greatest unsigned number of 64 bits; any other
number is kept as it was written. -/
def ofNumber (negative : Bool) (whole tail : List Char) : Option Value :=
  let sign := if negative then ['-'] else []
  if tail.isEmpty then
    match Text.readDigits? whole with
    | none => none
    | some n =>
      if negative && n == 0 then some (.decimal "-0.0")
      else
        let number : Int := if negative then -(n : Int) else n
        if Int64.minValue.toInt ≤ number ∧ number < UInt64.size then some (.int number)
        else some (.decimal (String.ofList (sign ++ whole ++ ['.', '0'])))
  else some (.decimal (String.ofList (sign ++ whole ++ tail)))

def readFraction? : List Char → Option (List Char × List Char)
  | '.' :: rest =>
    let (digits, rest) := spanDigits rest
    if digits.isEmpty then none else some ('.' :: digits, rest)
  | cs => some ([], cs)

def readExponent? : List Char → Option (List Char × List Char)
  | c :: rest =>
    if c = 'e' ∨ c = 'E' then
      let (sign, rest) := match rest with
        | '+' :: rest => (['+'], rest)
        | '-' :: rest => (['-'], rest)
        | _ => ([], rest)
      let (digits, rest) := spanDigits rest
      if digits.isEmpty then none else some (c :: sign ++ digits, rest)
    else some ([], c :: rest)
  | [] => some ([], [])

def readNumber? (cs : List Char) : Option (Value × List Char) := do
  let (negative, cs) := match cs with
    | '-' :: rest => (true, rest)
    | _ => (false, cs)
  let (whole, rest) := spanDigits cs
  let (whole, rest) := match whole with
    | '0' :: _ :: _ => ([], rest)
    | _ => (whole, rest)
  if whole.isEmpty then none
  else
    let (fraction, rest) ← readFraction? rest
    let (exponent, rest) ← readExponent? rest
    let value ← ofNumber negative whole (fraction ++ exponent)
    some (value, rest)

mutual

def readValue? : Nat → List Char → Option (Value × List Char)
  | 0, _ => none
  | fuel + 1, cs =>
    match skipSpace cs with
    | 'n' :: 'u' :: 'l' :: 'l' :: rest => some (.null, rest)
    | 't' :: 'r' :: 'u' :: 'e' :: rest => some (.bool true, rest)
    | 'f' :: 'a' :: 'l' :: 's' :: 'e' :: rest => some (.bool false, rest)
    | '"' :: rest => (readString? (rest.length + 1) [] rest).map fun (content, rest) => (.text content, rest)
    | '[' :: rest =>
      match skipSpace rest with
      | ']' :: rest => some (.list [], rest)
      | rest => (readItems? fuel [] rest).map fun (items, rest) => (.list items, rest)
    | '\x7b' :: rest =>
      match skipSpace rest with
      | '\x7d' :: rest => some (.record [], rest)
      | rest => (readFields? fuel [] rest).map fun (fields, rest) => (.record fields, rest)
    | cs => readNumber? cs

def readItems? : Nat → List Value → List Char → Option (List Value × List Char)
  | 0, _, _ => none
  | fuel + 1, done, cs =>
    match readValue? fuel cs with
    | none => none
    | some (item, rest) =>
      match skipSpace rest with
      | ',' :: rest => readItems? fuel (item :: done) rest
      | ']' :: rest => some ((item :: done).reverse, rest)
      | _ => none

def readFields? : Nat → List (String × Value) → List Char → Option (List (String × Value) × List Char)
  | 0, _, _ => none
  | fuel + 1, done, cs =>
    match skipSpace cs with
    | '"' :: rest =>
      match readString? (rest.length + 1) [] rest with
      | none => none
      | some (name, rest) =>
        match skipSpace rest with
        | ':' :: rest =>
          match readValue? fuel rest with
          | none => none
          | some (value, rest) =>
            match skipSpace rest with
            | ',' :: rest => readFields? fuel (Value.putField done name value) rest
            | '\x7d' :: rest => some (Value.putField done name value, rest)
            | _ => none
        | _ => none
    | _ => none

end

def read? (text : String) : Option Value :=
  let cs := text.toList
  match readValue? (cs.length + 1) cs with
  | some (value, rest) => if (skipSpace rest).isEmpty then some value else none
  | none => none

/-!
JSON text of a value. The text is pure ASCII: every other character is written as its UTF-16 units.
-/

def unitEscape (unit : Nat) : List Char :=
  ['\\', 'u', Text.hexDigit (unit / 4096 % 16), Text.hexDigit (unit / 256 % 16),
    Text.hexDigit (unit / 16 % 16), Text.hexDigit (unit % 16)]

def stringChar (c : Char) : List Char :=
  let n := c.toNat
  if c = '"' then ['\\', '"']
  else if c = '\\' then ['\\', '\\']
  else if 0x20 ≤ n && n < 0x7F then [c]
  else if n < 0x10000 then unitEscape n
  else unitEscape (0xD800 + (n - 0x10000) / 0x400) ++ unitEscape (0xDC00 + (n - 0x10000) % 0x400)

def stringText (text : String) : String :=
  String.ofList (['"'] ++ text.toList.flatMap stringChar ++ ['"'])

mutual

def print : Value → String
  | .null => "null"
  | .bool flag => if flag then "true" else "false"
  | .int number => toString number
  | .decimal digits => digits
  | .text content => stringText content
  | .list items => "[" ++ printItems items ++ "]"
  | .record fields => "\x7b" ++ printFields fields ++ "\x7d"

def printItems : List Value → String
  | [] => ""
  | [item] => print item
  | item :: rest => print item ++ "," ++ printItems rest

def printFields : List (String × Value) → String
  | [] => ""
  | [(name, value)] => stringText name ++ ":" ++ print value
  | (name, value) :: rest => stringText name ++ ":" ++ print value ++ "," ++ printFields rest

end

end Legality.Json
