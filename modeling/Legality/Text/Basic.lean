/-!
White space in the sense of the Unicode property of that name, and trimming by it. Every identifier,
reason and clause of rules text is trimmed here, so blankness means the same in all of them.
-/
namespace Legality.Text

/-- The characters with the Unicode property White_Space, which no later version has extended. -/
def isBlank (c : Char) : Bool :=
  let n := c.toNat
  (9 ≤ n && n ≤ 13) || n == 0x20 || n == 0x85 || n == 0xA0 || n == 0x1680 ||
    (0x2000 ≤ n && n ≤ 0x200A) || n == 0x2028 || n == 0x2029 || n == 0x202F || n == 0x205F || n == 0x3000

def dropEndWhile (p : Char → Bool) (cs : List Char) : List Char :=
  (cs.reverse.dropWhile p).reverse

def trimChars (cs : List Char) : List Char :=
  dropEndWhile isBlank (cs.dropWhile isBlank)

def trim (text : String) : String :=
  String.ofList (trimChars text.toList)

def isBlankText (text : String) : Bool :=
  text.toList.all isBlank

/-!
Whole numbers as text: reading of unsigned decimal digits, and signed printing with an explicit plus.
-/

/-- The value of a decimal digit. Only the ten digits of ASCII have one. -/
def digitValue? (c : Char) : Option Nat :=
  if '0' ≤ c ∧ c ≤ '9' then some (c.toNat - 48) else none

def readDigitsFrom (acc : Nat) : List Char → Option Nat
  | [] => some acc
  | c :: rest =>
    match digitValue? c with
    | some d => readDigitsFrom (acc * 10 + d) rest
    | none => none

def readDigits? : List Char → Option Nat
  | [] => none
  | c :: rest => readDigitsFrom 0 (c :: rest)

def readUnsigned? (bound : Nat) (text : String) : Option Nat :=
  let digits := match text.toList with
    | '+' :: rest => rest
    | cs => cs
  match readDigits? digits with
  | some n => if n < bound then some n else none
  | none => none

/-- A number with its sign; zero counts as positive. -/
def signed (n : Int) : String :=
  if n < 0 then toString n else "+" ++ toString n

end Legality.Text
