import BudgetNotes.Calendar.Date
import BudgetNotes.Decimal.Binary
import BudgetNotes.Toml.Text

/-!
# Plain values of TOML

The values that need no brackets or quotes: booleans, integers of 64 bits in
four bases, floating point numbers, dates and times. They are recognised, and
their content is not kept.
-/

namespace BudgetNotes.Toml

/-- Drops the underscores between digits; anywhere else they are refused. -/
def withoutUnderscores? (isDigit : Char → Bool) : List Char → Option (List Char)
  | [] => none
  | [c] => if isDigit c then some [c] else none
  | c :: '_' :: cs => if isDigit c then (withoutUnderscores? isDigit cs).map (c :: ·) else none
  | c :: cs => if isDigit c then (withoutUnderscores? isDigit cs).map (c :: ·) else none

/-- Whether a text is a decimal integer without sign or leading zeros. -/
def isDecimal (cs : List Char) : Bool :=
  match withoutUnderscores? Char.isDigit cs with
  | none => false
  | some ['0'] => true
  | some digits => digits.head? != some '0'

/-- The number a decimal integer stands for. -/
def decimalValue (cs : List Char) : Nat :=
  Nat.ofDigitChars 10 (cs.filter Char.isDigit) 0

/-- A text without its sign, and whether that was a minus. -/
def splitSign : List Char → Bool × List Char
  | '-' :: cs => (true, cs)
  | '+' :: cs => (false, cs)
  | cs => (false, cs)

/-- The largest integer of 64 bits. -/
def maxInteger : Nat := 9223372036854775807

/-- The number written by digits of a base up to sixteen. -/
def baseValue? (base : Nat) (cs : List Char) : Option Nat :=
  (withoutUnderscores? (fun c => (Text.hexValue? c).any (· < base)) cs).map fun digits =>
    digits.foldl (fun n c => n * base + (Text.hexValue? c).getD 0) 0

/-- The base that the mark after a leading zero stands for. -/
def baseOf? : Char → Option Nat
  | 'x' => some 16
  | 'o' => some 8
  | 'b' => some 2
  | _ => none

/-- Whether a text is an integer of 64 bits, in any of the four bases. -/
def isInteger (cs : List Char) : Bool :=
  let (negative, digits) := splitSign cs
  if isDecimal digits then decimalValue digits ≤ (if negative then maxInteger + 1 else maxInteger)
  else match cs with
    | '0' :: mark :: digits =>
      ((baseOf? mark).bind fun base => baseValue? base digits).any (· ≤ maxInteger)
    | _ => false

/-- Whether `significand` · 10^k is beyond the largest binary64 number. That is a question of size
but for numbers with 309 digits before the point. -/
def isBeyondFloat (significand : Nat) (k : Int) : Bool :=
  let size : Int := (Nat.toDigits 10 significand).length + k
  significand != 0 && (309 < size || (size = 309 &&
    (Binary64.round (significand * Nat.pow 10 k.toNat) (Nat.pow 10 (-k).toNat)).isNone))

/-- Whether a text is a number with a fraction or an exponent, or one of the special numbers. A
number may lie below the range of binary64 numbers, but not above it. -/
def isFloat (cs : List Char) : Bool :=
  let (negative, body) := splitSign cs
  let isMark (c : Char) : Bool := c = 'e' || c = 'E'
  let mantissa := body.takeWhile (!isMark ·)
  let whole := mantissa.takeWhile (· != '.')
  let (fraction, placesOk) := match mantissa.dropWhile (· != '.') with
    | [] => ([], true)
    | _ :: places => (places, (withoutUnderscores? Char.isDigit places).isSome)
  let (exponent, exponentOk) := match body.dropWhile (!isMark ·) with
    | [] => ((false, []), mantissa.contains '.')
    | _ :: exponent =>
      (splitSign exponent, (withoutUnderscores? Char.isDigit (splitSign exponent).2).isSome)
  let power : Int := decimalValue exponent.2
  let scale : Int := (fraction.filter Char.isDigit).length
  body = "inf".toList || body = "nan".toList || (isDecimal whole && placesOk && exponentOk &&
    (negative || !isBeyondFloat (decimalValue (whole ++ fraction))
      ((if exponent.1 then -power else power) - scale)))

/-- Whether a text has digits and marks where a pattern has `0` and the same marks. -/
def fits : List Char → List Char → Bool
  | [], [] => true
  | '0' :: pattern, c :: cs => c.isDigit && fits pattern cs
  | p :: pattern, c :: cs => p = c && fits pattern cs
  | _, _ => false

/-- The number written by two digits. -/
def twoDigits (cs : List Char) : Nat := Nat.ofDigitChars 10 (cs.take 2) 0

/-- Whether a text is a time of day, perhaps with a fraction of a second. -/
def isTime (cs : List Char) : Bool :=
  fits "00:00:00".toList (cs.take 8) && twoDigits cs < 24 && twoDigits (cs.drop 3) < 60 &&
    twoDigits (cs.drop 6) ≤ 60 && match cs.drop 8 with
      | [] => true
      | '.' :: places => !places.isEmpty && places.all Char.isDigit
      | _ => false

/-- Whether a text is an offset from universal time. -/
def isOffset (cs : List Char) : Bool :=
  cs = ['Z'] || cs = ['z'] ||
    ((fits "+00:00".toList cs || fits "-00:00".toList cs) && twoDigits (cs.drop 1) < 24 &&
      twoDigits (cs.drop 4) < 60)

/-- Whether a text is a date, a time, or both with an optional offset. -/
def isMoment (cs : List Char) : Bool :=
  isTime cs || ((Date.ofIsoChars? (cs.take 10)).isSome && match cs.drop 10 with
    | [] => true
    | t :: time =>
      let isClockChar (c : Char) : Bool := c.isDigit || c = ':' || c = '.'
      let offset := time.dropWhile isClockChar
      (t = 'T' || t = 't' || t = ' ') && isTime (time.takeWhile isClockChar) &&
        (offset.isEmpty || isOffset offset))

/-- The characters of plain values. -/
def isPlainChar (c : Char) : Bool :=
  c.isAlphanum || c = '_' || c = '-' || c = '+' || c = '.' || c = ':'

/-- Whether a text is a value that needs no brackets or quotes. -/
def isPlain (cs : List Char) : Bool :=
  cs = "true".toList || cs = "false".toList || isInteger cs || isFloat cs || isMoment cs

/-- Drops a plain value. A date and a time of day may have one space between them. -/
def dropPlain? (cs : List Char) : Option (List Char) :=
  let word := cs.takeWhile isPlainChar
  let rest := cs.dropWhile isPlainChar
  if !isPlain word then none
  else match rest with
    | ' ' :: more =>
      if isMoment (word ++ ' ' :: more.takeWhile isPlainChar) then
        some (more.dropWhile isPlainChar)
      else some rest
    | rest => some rest

end BudgetNotes.Toml
