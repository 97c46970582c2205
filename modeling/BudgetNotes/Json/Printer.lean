import BudgetNotes.Json.Value

/-!
# Printing JSON

Values are printed on one line, or spread over lines with an indent of two
spaces. The members of an object are printed in the order of their keys.
Strings are escaped only where they must be: quotes, backslashes and control
characters; all other characters stand as they are.
-/

namespace BudgetNotes.Json

/-- How a value is laid out. -/
inductive Style where
  | oneLine
  | indented
deriving DecidableEq

/-- The break before an item at the given depth. -/
def Style.lineBreak (style : Style) (depth : Nat) : List Char :=
  match style with
  | .oneLine => []
  | .indented => '\n' :: List.replicate (2 * depth) ' '

/-- What stands between a key and its value. -/
def Style.colon : Style → List Char
  | .oneLine => [':']
  | .indented => [':', ' ']

/-- A character inside quotes. -/
def escapeChar (c : Char) : List Char :=
  if c = '"' then ['\\', '"']
  else if c = '\\' then ['\\', '\\']
  else if c = '\n' then ['\\', 'n']
  else if c = '\r' then ['\\', 'r']
  else if c = '\t' then ['\\', 't']
  else if c.toNat = 8 then ['\\', 'b']
  else if c.toNat = 12 then ['\\', 'f']
  else if c.toNat < 32 then
    ['\\', 'u', '0', '0', Nat.digitChar (c.toNat / 16), Nat.digitChar (c.toNat % 16)]
  else [c]

/-- A text in quotes. -/
def quoted (s : String) : List Char :=
  '"' :: s.toList.flatMap escapeChar ++ ['"']

/-- An integer in digits. -/
def intChars (n : Int) : List Char :=
  (if n < 0 then ['-'] else []) ++ Nat.toDigits 10 n.natAbs

mutual

/-- A value at the given depth. -/
def printAt (style : Style) (depth : Nat) : Json → List Char
  | null => "null".toList
  | bool true => "true".toList
  | bool false => "false".toList
  | int n => intChars n
  | float negative size => (if negative then ['-'] else []) ++ size.toChars
  | str text => quoted text
  | arr [] => ['[', ']']
  | arr (v :: rest) =>
    '[' :: style.lineBreak (depth + 1) ++ printAt style (depth + 1) v ++
      printItems style (depth + 1) rest ++ style.lineBreak depth ++ [']']
  | obj [] => ['\x7b', '\x7d']
  | obj ((key, v) :: rest) =>
    '\x7b' :: style.lineBreak (depth + 1) ++ quoted key ++ style.colon ++
      printAt style (depth + 1) v ++ printMembers style (depth + 1) rest ++
      style.lineBreak depth ++ ['\x7d']
  | malformed => "null".toList

/-- The items after the first. -/
def printItems (style : Style) (depth : Nat) : List Json → List Char
  | [] => []
  | v :: rest =>
    ',' :: style.lineBreak depth ++ printAt style depth v ++ printItems style depth rest

/-- The members after the first. -/
def printMembers (style : Style) (depth : Nat) : List (String × Json) → List Char
  | [] => []
  | (key, v) :: rest =>
    ',' :: style.lineBreak depth ++ quoted key ++ style.colon ++ printAt style depth v ++
      printMembers style depth rest

end

mutual

/-- The value with the members of every object in the order of their keys. -/
def sortKeys : Json → Json
  | arr items => arr (sortKeysItems items)
  | obj members => obj ((sortKeysMembers members).mergeSort fun a b => a.1 ≤ b.1)
  | v => v

/-- Sorts the keys of all items. -/
def sortKeysItems : List Json → List Json
  | [] => []
  | v :: rest => sortKeys v :: sortKeysItems rest

/-- Sorts the keys within all members. -/
def sortKeysMembers : List (String × Json) → List (String × Json)
  | [] => []
  | (key, v) :: rest => (key, sortKeys v) :: sortKeysMembers rest

end

/-- A value as text in the given style, keys sorted. -/
def print (style : Style) (v : Json) : String :=
  String.ofList (printAt style 0 v.sortKeys)

end BudgetNotes.Json
