import BudgetNotes.Json.Value

/-!
# Reading JSON

A strict reader: one value and white space around it, nothing after; no
leading zeros, no raw control characters in strings. Every step takes the
characters that are left and gives a value and what is left after it. The
bound on the number of steps is the length of the text, which no reading can
exceed.

Texts are first read into code units, scalar values and the halves of
surrogate pairs that escapes may write, and then paired up.
-/

namespace BudgetNotes.Json

/-- The white space of documents. -/
def isGap (c : Char) : Bool :=
  c = ' ' || c = '\t' || c = '\n' || c = '\r'

/-- Drops white space. -/
def skipGap (cs : List Char) : List Char := cs.dropWhile isGap

/-! ## Numbers -/

/-- The largest significand kept while a number is read, 2^64 - 1. -/
def maxSignificand : Nat := 18446744073709551615

/-- Appends digits to a significand until one does not fit; gives the digits left over. -/
def takeSignificand (significand : Nat) : List Char → Nat × List Char
  | [] => (significand, [])
  | c :: cs =>
    let next := significand * 10 + Text.digitValue c
    if next ≤ maxSignificand then takeSignificand next cs else (significand, c :: cs)

/-- A number that is written with a fraction, an exponent or too many digits. Whole digits that do
not fit the significand raise the exponent; places lower it while they fit. -/
def floatOf (negative : Bool) (whole places : List Char) (exponent : Int) : Json :=
  let (head, cut) := takeSignificand 0 whole
  let (significand, rest) := takeSignificand head places
  let shift : Int := (cut.length : Int) - ((places.length - rest.length : Nat) : Int)
  match Binary64.ofScientific significand (exponent + shift) with
  | some size => float negative size
  | none => malformed

/-- A number written as digits alone: an integer if 64 bits can hold it. -/
def integerOf (negative : Bool) (whole : List Char) : Json :=
  let n := Nat.ofDigitChars 10 whole 0
  if negative then
    if 0 < n && n ≤ 9223372036854775808 then int (-(n : Int)) else floatOf true whole [] 0
  else if n ≤ maxSignificand then int n
  else floatOf false whole [] 0

/-- Takes digits, at least one. -/
def takeDigits? (cs : List Char) : Option (List Char × List Char) :=
  match cs.takeWhile Char.isDigit with
  | [] => none
  | digits => some (digits, cs.dropWhile Char.isDigit)

/-- Takes the part after a point, if there is one. -/
def takePlaces? : List Char → Option (List Char × List Char)
  | '.' :: cs => takeDigits? cs
  | cs => some ([], cs)

/-- Takes an exponent, if there is one. -/
def takeExponent? : List Char → Option (Option Int × List Char)
  | c :: cs =>
    if c = 'e' || c = 'E' then
      match cs with
      | '-' :: cs =>
        (takeDigits? cs).map fun (ds, rest) => (some (-(Nat.ofDigitChars 10 ds 0 : Int)), rest)
      | '+' :: cs =>
        (takeDigits? cs).map fun (ds, rest) => (some (Nat.ofDigitChars 10 ds 0 : Int), rest)
      | cs =>
        (takeDigits? cs).map fun (ds, rest) => (some (Nat.ofDigitChars 10 ds 0 : Int), rest)
    else some (none, c :: cs)
  | [] => some (none, [])

def readNumber (negative : Bool) (cs : List Char) : Option (Json × List Char) := do
  let (whole, rest) ← takeDigits? cs
  if whole.head? = some '0' && 1 < whole.length then none
  let (places, rest) ← takePlaces? rest
  let (exponent, rest) ← takeExponent? rest
  if places.isEmpty && exponent.isNone then some (integerOf negative whole, rest)
  else some (floatOf negative whole places (exponent.getD 0), rest)

/-! ## Strings -/

/-- The code unit of a one-letter escape. -/
def escapeUnit? (c : Char) : Option Nat :=
  if c = '"' || c = '\\' || c = '/' then some c.toNat
  else if c = 'b' then some 8
  else if c = 'f' then some 12
  else if c = 'n' then some 10
  else if c = 'r' then some 13
  else if c = 't' then some 9
  else none

def readUnits : List Char → Option (List Nat × List Char)
  | [] => none
  | '"' :: cs => some ([], cs)
  | '\\' :: 'u' :: a :: b :: c :: d :: cs => do
    let a ← Text.hexValue? a
    let b ← Text.hexValue? b
    let c ← Text.hexValue? c
    let d ← Text.hexValue? d
    let (units, rest) ← readUnits cs
    some ((((a * 16 + b) * 16 + c) * 16 + d) :: units, rest)
  | '\\' :: c :: cs => do
    let unit ← escapeUnit? c
    let (units, rest) ← readUnits cs
    some (unit :: units, rest)
  | c :: cs =>
    if c.toNat < 32 || c = '\\' then none
    else do
      let (units, rest) ← readUnits cs
      some (c.toNat :: units, rest)

/-- The characters of code units, unless half a surrogate pair stands alone. -/
def joinUnits? : List Nat → Option (List Char)
  | [] => some []
  | u :: rest =>
    if 0xD800 ≤ u && u < 0xDC00 then
      match rest with
      | low :: rest =>
        if 0xDC00 ≤ low && low < 0xE000 then
          (joinUnits? rest).map (Char.ofNat (0x10000 + (u - 0xD800) * 0x400 + (low - 0xDC00)) :: ·)
        else none
      | [] => none
    else if 0xDC00 ≤ u && u < 0xE000 then none
    else (joinUnits? rest).map (Char.ofNat u :: ·)

/-- Reads a string after its opening quote; a text that denotes nothing is none. -/
def readText (cs : List Char) : Option (Option String × List Char) :=
  (readUnits cs).map fun (units, rest) => ((joinUnits? units).map String.ofList, rest)

/-! ## Values -/

/-- The deepest nesting of containers that is read. -/
def maxDepth : Nat := 127

/-- An object of the members read, malformed if a key is. -/
def objectOf (members : List (Option String × Json)) : Json :=
  match members.mapM fun (key, v) => key.map (·, v) with
  | some members => obj members
  | none => malformed

mutual

/-- Reads a value; `depth` containers enclose it. -/
def readValue (fuel depth : Nat) (cs : List Char) : Option (Json × List Char) :=
  match fuel with
  | 0 => none
  | fuel + 1 =>
    match skipGap cs with
    | 'n' :: 'u' :: 'l' :: 'l' :: rest => some (null, rest)
    | 't' :: 'r' :: 'u' :: 'e' :: rest => some (bool true, rest)
    | 'f' :: 'a' :: 'l' :: 's' :: 'e' :: rest => some (bool false, rest)
    | '"' :: rest =>
      (readText rest).map fun (text, rest) => ((text.map str).getD malformed, rest)
    | '-' :: rest => readNumber true rest
    | '[' :: rest =>
      match skipGap rest with
      | ']' :: rest => some (if depth < maxDepth then arr [] else malformed, rest)
      | rest =>
        (readItems fuel (depth + 1) rest).map fun (items, rest) =>
          (if depth < maxDepth then arr items else malformed, rest)
    | '\x7b' :: rest =>
      match skipGap rest with
      | '\x7d' :: rest => some (if depth < maxDepth then obj [] else malformed, rest)
      | rest =>
        (readMembers fuel (depth + 1) rest).map fun (members, rest) =>
          (if depth < maxDepth then objectOf members else malformed, rest)
    | cs => readNumber false cs

/-- Reads the items of an array up to its closing bracket. -/
def readItems (fuel depth : Nat) (cs : List Char) : Option (List Json × List Char) :=
  match fuel with
  | 0 => none
  | fuel + 1 =>
    match readValue fuel depth cs with
    | none => none
    | some (v, rest) =>
      match skipGap rest with
      | ']' :: rest => some ([v], rest)
      | ',' :: rest => (readItems fuel depth rest).map fun (items, rest) => (v :: items, rest)
      | _ => none

/-- Reads the members of an object up to its closing brace. -/
def readMembers (fuel depth : Nat) (cs : List Char) :
    Option (List (Option String × Json) × List Char) :=
  match fuel with
  | 0 => none
  | fuel + 1 =>
    match skipGap cs with
    | '"' :: rest =>
      match readText rest with
      | none => none
      | some (key, rest) =>
        match skipGap rest with
        | ':' :: rest =>
          match readValue fuel depth rest with
          | none => none
          | some (v, rest) =>
            match skipGap rest with
            | '\x7d' :: rest => some ([(key, v)], rest)
            | ',' :: rest =>
              (readMembers fuel depth rest).map fun (members, rest) => ((key, v) :: members, rest)
            | _ => none
        | _ => none
    | _ => none

end

def parse? (s : String) : Option Json :=
  let cs := s.toList
  match readValue (2 * cs.length + 2) 0 cs with
  | some (v, rest) => if (skipGap rest).isEmpty then some v else none
  | none => none

end BudgetNotes.Json
