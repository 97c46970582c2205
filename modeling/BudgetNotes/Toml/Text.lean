import BudgetNotes.Text.Numeral

/-!
# Keys and strings of TOML

White space, comments and line ends, the four forms of strings, and keys.
Every reader takes the characters that are left and gives what it read and
what is left after it; nothing on bad syntax.
-/

namespace BudgetNotes.Toml

abbrev Path := List String

/-! ## White space and line ends -/

def isBlankChar (c : Char) : Bool := c = ' ' || c = '\t'

def skipBlank (cs : List Char) : List Char := cs.dropWhile isBlankChar

/-- Control characters other than the tab stand nowhere but in line ends. -/
def isControl (c : Char) : Bool := (c.toNat < 32 && c != '\t') || c.toNat = 127

/-- Drops a comment up to the end of its line. -/
def skipComment : List Char → List Char
  | '#' :: cs => cs.dropWhile fun c => !isControl c
  | cs => cs

/-- Takes one line end. -/
def takeNewline? : List Char → Option (List Char)
  | '\n' :: cs => some cs
  | '\r' :: '\n' :: cs => some cs
  | _ => none

/-- Takes blanks, a comment, and the end of the line or of the document. -/
def endLine? (cs : List Char) : Option (List Char) :=
  match skipComment (skipBlank cs) with
  | [] => some []
  | rest => takeNewline? rest

/-- Drops blanks, comments and line ends, as between the items of an array. -/
def skipLines : Nat → List Char → List Char
  | 0, cs => cs
  | fuel + 1, cs =>
    let rest := skipComment (skipBlank cs)
    match takeNewline? rest with
    | some rest => skipLines fuel rest
    | none => rest

/-! ## Strings -/

/-- The value of hexadecimal digits. -/
def hexNumber? (cs : List Char) : Option Nat :=
  cs.foldlM (fun n c => (Text.hexValue? c).map (n * 16 + ·)) 0

/-- The character with a code point, unless there is none. -/
def scalar? (n : Nat) : Option Char :=
  if n < 0xD800 || (0xE000 ≤ n && n < 0x110000) then some (Char.ofNat n) else none

/-- Takes one escape after its backslash. -/
def takeEscape? : List Char → Option (Char × List Char)
  | 'b' :: cs => some (Char.ofNat 8, cs)
  | 't' :: cs => some ('\t', cs)
  | 'n' :: cs => some ('\n', cs)
  | 'f' :: cs => some (Char.ofNat 12, cs)
  | 'r' :: cs => some ('\r', cs)
  | '"' :: cs => some ('"', cs)
  | '\\' :: cs => some ('\\', cs)
  | 'u' :: cs =>
    if cs.length < 4 then none
    else ((hexNumber? (cs.take 4)).bind scalar?).map fun c => (c, cs.drop 4)
  | 'U' :: cs =>
    if cs.length < 8 then none
    else ((hexNumber? (cs.take 8)).bind scalar?).map fun c => (c, cs.drop 8)
  | _ => none

def readBasic : Nat → List Char → Option (List Char × List Char)
  | 0, _ => none
  | _, [] => none
  | _, '"' :: cs => some ([], cs)
  | fuel + 1, '\\' :: cs => do
    let (c, rest) ← takeEscape? cs
    let (text, rest) ← readBasic fuel rest
    some (c :: text, rest)
  | fuel + 1, c :: cs =>
    if isControl c then none
    else (readBasic fuel cs).map fun (text, rest) => (c :: text, rest)

def readLiteral : List Char → Option (List Char × List Char)
  | [] => none
  | '\'' :: cs => some ([], cs)
  | c :: cs =>
    if isControl c then none
    else (readLiteral cs).map fun (text, rest) => (c :: text, rest)

/-- Takes the closing quotes of a string of several lines; up to two more belong to its text. -/
def takeClosing? (quote : Char) (cs : List Char) : Option (List Char × List Char) :=
  let count := ((cs.take 5).takeWhile (· = quote)).length
  if 3 ≤ count then some (List.replicate (count - 3) quote, cs.drop count) else none

/-- Drops blanks and line ends. -/
def skipNewlines : Nat → List Char → List Char
  | 0, cs => cs
  | fuel + 1, cs =>
    let rest := skipBlank cs
    match takeNewline? rest with
    | some rest => skipNewlines fuel rest
    | none => rest

/-- Reads a basic string of several lines. A backslash at the end of a line drops the line end and
all white space after it. -/
def readLongBasic : Nat → List Char → Option (List Char × List Char)
  | 0, _ => none
  | _, [] => none
  | fuel + 1, c :: cs =>
    match takeClosing? '"' (c :: cs) with
    | some closed => some closed
    | none =>
      if c = '\\' then
        match takeNewline? (skipBlank cs) with
        | some rest => readLongBasic fuel (skipNewlines rest.length rest)
        | none => do
          let (c, rest) ← takeEscape? cs
          let (text, rest) ← readLongBasic fuel rest
          some (c :: text, rest)
      else
        match takeNewline? (c :: cs) with
        | some rest => (readLongBasic fuel rest).map fun (text, rest) => ('\n' :: text, rest)
        | none =>
          if isControl c then none
          else (readLongBasic fuel cs).map fun (text, rest) => (c :: text, rest)

def readLongLiteral : Nat → List Char → Option (List Char × List Char)
  | 0, _ => none
  | _, [] => none
  | fuel + 1, c :: cs =>
    match takeClosing? '\'' (c :: cs) with
    | some closed => some closed
    | none =>
      match takeNewline? (c :: cs) with
      | some rest => (readLongLiteral fuel rest).map fun (text, rest) => ('\n' :: text, rest)
      | none =>
        if isControl c then none
        else (readLongLiteral fuel cs).map fun (text, rest) => (c :: text, rest)

/-- A line end right after the opening quotes is not part of the text. -/
def dropFirstNewline (cs : List Char) : List Char := (takeNewline? cs).getD cs

/-! ## Keys -/

/-- The characters of keys without quotes. -/
def isKeyChar (c : Char) : Bool := c.isAlphanum || c = '_' || c = '-'

/-- Reads one part of a key. -/
def readKeyPart : List Char → Option (String × List Char)
  | '"' :: cs => (readBasic (cs.length + 1) cs).map fun (text, rest) => (String.ofList text, rest)
  | '\'' :: cs => (readLiteral cs).map fun (text, rest) => (String.ofList text, rest)
  | cs =>
    match cs.takeWhile isKeyChar with
    | [] => none
    | key => some (String.ofList key, cs.dropWhile isKeyChar)

/-- Reads the parts of a key, joined by points; blanks around them are dropped. -/
def readKeyParts : Nat → List Char → Option (Path × List Char)
  | 0, _ => none
  | fuel + 1, cs => do
    let (part, rest) ← readKeyPart (skipBlank cs)
    match skipBlank rest with
    | '.' :: rest =>
      let (parts, rest) ← readKeyParts fuel rest
      some (part :: parts, rest)
    | rest => some ([part], rest)

/-- How many brackets may stand within each other, and how many parts a key may have. -/
def maxDepth : Nat := 79

def readKey (cs : List Char) : Option (Path × List Char) :=
  (readKeyParts (cs.length + 1) cs).filter (·.1.length ≤ maxDepth)

end BudgetNotes.Toml
