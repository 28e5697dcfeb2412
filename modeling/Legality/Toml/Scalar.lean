import Legality.Data.Json
import Legality.Time.Timestamp

/-!
Scalars of configuration documents: texts in four kinds of quotation, numbers, and dates. Each reader takes the
longest scalar from the front and returns what is left.
-/
namespace Legality.Toml

def isGap (c : Char) : Bool := c == ' ' || c == '\t'

def skipGap (cs : List Char) : List Char := cs.dropWhile isGap

/-- A character that may stand in a comment or in a text without escape; a tab is the only control. -/
def isPlain (c : Char) : Bool := c == '\t' || (0x20 ≤ c.toNat && c.toNat != 0x7F)

def dropNewline? : List Char → Option (List Char)
  | '\n' :: rest => some rest
  | '\r' :: '\n' :: rest => some rest
  | _ => none

def skipBlankLines : List Char → List Char
  | '\r' :: '\n' :: rest => skipBlankLines rest
  | c :: rest => if c == '\n' || isGap c then skipBlankLines rest else c :: rest
  | [] => []

def scalar? (n : Nat) : Option Char :=
  if n < 0xD800 ∨ (0xDFFF < n ∧ n < 0x110000) then some (Char.ofNat n) else none

def escape? : List Char → Option (Char × List Char)
  | 'b' :: rest => some ('\x08', rest)
  | 't' :: rest => some ('\t', rest)
  | 'n' :: rest => some ('\n', rest)
  | 'f' :: rest => some ('\x0c', rest)
  | 'r' :: rest => some ('\r', rest)
  | '"' :: rest => some ('"', rest)
  | '\\' :: rest => some ('\\', rest)
  | 'u' :: rest => do
    let (unit, rest) ← Json.readUnit? rest
    let c ← scalar? unit
    some (c, rest)
  | 'U' :: rest => do
    let (high, rest) ← Json.readUnit? rest
    let (low, rest) ← Json.readUnit? rest
    let c ← scalar? (high * 0x10000 + low)
    some (c, rest)
  | _ => none

def basic? : Nat → List Char → List Char → Option (String × List Char)
  | 0, _, _ => none
  | _, _, [] => none
  | fuel + 1, done, c :: rest =>
    if c = '"' then some (String.ofList done.reverse, rest)
    else if c = '\\' then
      match escape? rest with
      | some (decoded, rest) => basic? fuel (decoded :: done) rest
      | none => none
    else if isPlain c then basic? fuel (c :: done) rest
    else none

def literal? (cs : List Char) : Option (String × List Char) :=
  let content := cs.takeWhile fun c => c != '\'' && isPlain c
  match cs.drop content.length with
  | '\'' :: rest => some (String.ofList content, rest)
  | _ => none

def spanOf (mark : Char) (cs : List Char) : Nat × List Char :=
  let run := cs.takeWhile (· == mark)
  (run.length, cs.drop run.length)

def dropJoin? (cs : List Char) : Option (List Char) :=
  (dropNewline? (skipGap cs)).map skipBlankLines

/-- Reads a text over several lines up to three closing marks; up to two more marks in front of them belong to the
text. `escapes` says whether a backslash starts an escape. -/
def multiline? (mark : Char) (escapes : Bool) : Nat → List Char → List Char → Option (String × List Char)
  | 0, _, _ => none
  | _, _, [] => none
  | fuel + 1, done, c :: rest =>
    if c = mark then
      let (more, after) := spanOf mark rest
      let marks := more + 1
      if marks < 3 then multiline? mark escapes fuel (List.replicate marks mark ++ done) after
      else if marks ≤ 5 then
        some (String.ofList (List.replicate (marks - 3) mark ++ done).reverse, after)
      else none
    else if escapes && c == '\\' then
      match dropJoin? rest with
      | some rest => multiline? mark escapes fuel done rest
      | none =>
        match escape? rest with
        | some (decoded, rest) => multiline? mark escapes fuel (decoded :: done) rest
        | none => none
    else
      match dropNewline? (c :: rest) with
      | some rest => multiline? mark escapes fuel ('\n' :: done) rest
      | none => if isPlain c then multiline? mark escapes fuel (c :: done) rest else none

/-- Reads a text in any of the four kinds of quotation. A line end right after three opening marks is left out. -/
def text? (cs : List Char) : Option (String × List Char) :=
  let fuel := cs.length + 1
  match cs with
  | '"' :: '"' :: '"' :: rest => multiline? '"' true fuel [] ((dropNewline? rest).getD rest)
  | '"' :: rest => basic? fuel [] rest
  | '\'' :: '\'' :: '\'' :: rest => multiline? '\'' false fuel [] ((dropNewline? rest).getD rest)
  | '\'' :: rest => literal? rest
  | _ => none

/-- Reads digits of a number that underscores may separate, one at a time and between digits only. -/
def spacedDigits? (isDigit : Char → Bool) : List Char → Option (List Char × List Char)
  | c :: rest =>
    if !isDigit c then none
    else
      match rest with
      | '_' :: d :: more =>
        if isDigit d then (spacedDigits? isDigit (d :: more)).map fun (digits, rest) => (c :: digits, rest)
        else some ([c], rest)
      | d :: more =>
        if isDigit d then (spacedDigits? isDigit (d :: more)).map fun (digits, rest) => (c :: digits, rest)
        else some ([c], rest)
      | [] => some ([c], rest)
  | [] => none

def digitsValue (base : Nat) (digits : List Char) : Nat :=
  digits.foldl (fun n c => n * base + (Json.hexValue? c).getD 0) 0

def integerValue? (number : Int) : Option Value :=
  if Int64.minValue.toInt ≤ number ∧ number ≤ Int64.maxValue.toInt then some (.int number) else none

def based? (base : Nat) (isDigit : Char → Bool) (cs : List Char) : Option (Value × List Char) := do
  let (digits, rest) ← spacedDigits? isDigit cs
  let value ← integerValue? (digitsValue base digits)
  some (value, rest)

def splitSign : List Char → Bool × List Char
  | '-' :: rest => (true, rest)
  | '+' :: rest => (false, rest)
  | cs => (false, cs)

def wholeDigits? (cs : List Char) : Option (List Char × List Char) :=
  match cs with
  | '0' :: rest => some (['0'], rest)
  | cs => spacedDigits? Char.isDigit cs

/-- Whether a decimal number is so great that the nearest floating-point number of 64 bits is infinite. -/
def overflows (digits : List Char) (exponent : Int) : Bool :=
  let significant := digits.dropWhile (· == '0')
  let leading : Int := significant.length - 1 + exponent
  if significant.isEmpty || leading < 308 then false
  else if 308 < leading then true
  else
    let mantissa := digitsValue 10 significant
    let bound := Nat.pow 2 1024 - Nat.pow 2 970
    if 0 ≤ exponent then bound ≤ mantissa * Nat.pow 10 exponent.toNat
    else bound * Nat.pow 10 exponent.natAbs ≤ mantissa

def fractionDigits? : List Char → Option (List Char × List Char)
  | '.' :: rest => spacedDigits? Char.isDigit rest
  | cs => some ([], cs)

def exponentDigits? : List Char → Option (Bool × List Char × List Char)
  | c :: rest =>
    if c = 'e' ∨ c = 'E' then
      let (negative, rest) := splitSign rest
      (spacedDigits? Char.isDigit rest).map fun (digits, rest) => (negative, digits, rest)
    else some (false, [], c :: rest)
  | [] => some (false, [], [])

def decimal? (negative : Bool) (cs : List Char) : Option (Value × List Char) := do
  let (whole, rest) ← wholeDigits? cs
  let (fraction, rest) ← fractionDigits? rest
  let (down, power, rest) ← exponentDigits? rest
  if fraction.isEmpty && power.isEmpty then
    let n : Int := digitsValue 10 whole
    let value ← integerValue? (if negative then -n else n)
    some (value, rest)
  else
    let size : Int := digitsValue 10 power
    let exponent : Int := (if down then -size else size) - fraction.length
    if !negative && overflows (whole ++ fraction) exponent then none
    else some (.decimal (String.ofList (whole ++ ['.'] ++ fraction)), rest)

def number? (cs : List Char) : Option (Value × List Char) :=
  match cs with
  | '0' :: 'x' :: rest => based? 16 (fun c => (Json.hexValue? c).isSome) rest
  | '0' :: 'o' :: rest => based? 8 (fun c => '0' ≤ c && c ≤ '7') rest
  | '0' :: 'b' :: rest => based? 2 (fun c => c == '0' || c == '1') rest
  | _ =>
    let (negative, rest) := splitSign cs
    match rest with
    | 'i' :: 'n' :: 'f' :: rest => some (.decimal "inf", rest)
    | 'n' :: 'a' :: 'n' :: rest => some (.decimal "nan", rest)
    | rest => decimal? negative rest

def bounded? (width least greatest : Nat) (cs : List Char) : Option (Nat × List Char) :=
  let digits := cs.take width
  if digits.length = width ∧ digits.all Char.isDigit then
    let n := digitsValue 10 digits
    if least ≤ n ∧ n ≤ greatest then some (n, cs.drop width) else none
  else none

def expect? (mark : Char) : List Char → Option (List Char)
  | c :: rest => if c = mark then some rest else none
  | [] => none

def dropDate? (cs : List Char) : Option (List Char) := do
  let (year, cs) ← bounded? 4 0 9999 cs
  let cs ← expect? '-' cs
  let (month, cs) ← bounded? 2 1 12 cs
  let cs ← expect? '-' cs
  let (day, cs) ← bounded? 2 1 31 cs
  if day ≤ Instant.daysInMonth year month then some cs else none

def dropTime? (cs : List Char) : Option (List Char) := do
  let (_, cs) ← bounded? 2 0 23 cs
  let cs ← expect? ':' cs
  let (_, cs) ← bounded? 2 0 59 cs
  let cs ← expect? ':' cs
  let (_, cs) ← bounded? 2 0 60 cs
  match cs with
  | '.' :: rest =>
    let digits := rest.takeWhile Char.isDigit
    if digits.isEmpty then none else some (rest.drop digits.length)
  | cs => some cs

def dropOffset? : List Char → Option (List Char)
  | 'Z' :: rest => some rest
  | 'z' :: rest => some rest
  | c :: rest =>
    if c = '+' ∨ c = '-' then do
      let (_, rest) ← bounded? 2 0 23 rest
      let rest ← expect? ':' rest
      let (_, rest) ← bounded? 2 0 59 rest
      some rest
    else some (c :: rest)
  | [] => some []

def dropTimeAfterDate? (cs : List Char) : Option (List Char) :=
  match cs with
  | mark :: rest =>
    if mark = 'T' ∨ mark = 't' then (dropTime? rest).bind dropOffset?
    else if mark = ' ' then
      match dropTime? rest with
      | some rest => dropOffset? rest
      | none => some cs
    else some cs
  | [] => some []

/-- The one field by which data tell a moment from a text. -/
def momentField : String := "$moment"

def moment? (cs : List Char) : Option (Value × List Char) := do
  let rest ← match dropDate? cs with
    | some rest => dropTimeAfterDate? rest
    | none => dropTime? cs
  let content := String.ofList (cs.take (cs.length - rest.length))
  some (.record [(momentField, .text content)], rest)

end Legality.Toml
