import BudgetNotes.Toml.Plain

/-!
# Values of TOML

Texts and tables keep their content; any other value is checked only. The
members of an inline table have the full paths of their keys, and none of the
paths leads through another.
-/

namespace BudgetNotes.Toml

/-- A value: a text, a table given by the paths of its members, or anything else. -/
inductive Value where
  | text (content : String)
  | table (members : List (Path × Value))
  | other

/-- The alternative that a value names: a text names itself, and a table with a single member, an
empty table, names that member. -/
def Value.choice? : Value → Option String
  | text content => some content
  | table [([key], table [])] => some key
  | _ => none

/-- A text value and what is left after it. -/
def textValue (text : List Char × List Char) : Value × List Char :=
  (.text (String.ofList text.1), text.2)

mutual

/-- Reads a value; `depth` brackets may still be opened. -/
def readValue : Nat → Nat → List Char → Option (Value × List Char)
  | 0, _, _ => none
  | fuel + 1, depth, cs =>
    match cs with
    | '"' :: '"' :: '"' :: cs =>
      (readLongBasic (cs.length + 1) (dropFirstNewline cs)).map textValue
    | '"' :: cs => (readBasic (cs.length + 1) cs).map textValue
    | '\'' :: '\'' :: '\'' :: cs =>
      (readLongLiteral (cs.length + 1) (dropFirstNewline cs)).map textValue
    | '\'' :: cs => (readLiteral cs).map textValue
    | '[' :: cs => if depth = 0 then none else (readItems fuel (depth - 1) cs).map (.other, ·)
    | '\x7b' :: cs =>
      if depth = 0 then none
      else match skipBlank cs with
        | '\x7d' :: rest => some (.table [], rest)
        | rest => (readMembers fuel (depth - 1) [] rest).map fun (members, rest) =>
          (.table members, rest)
    | cs => (dropPlain? cs).map (.other, ·)

/-- Reads the items of an array and its closing bracket. -/
def readItems : Nat → Nat → List Char → Option (List Char)
  | 0, _, _ => none
  | fuel + 1, depth, cs =>
    match skipLines cs.length cs with
    | ']' :: rest => some rest
    | cs =>
      match readValue fuel depth cs with
      | none => none
      | some (_, rest) =>
        match skipLines rest.length rest with
        | ']' :: rest => some rest
        | ',' :: rest => readItems fuel depth rest
        | _ => none

/-- Reads the members of an inline table after those in `seen`, and its closing brace. -/
def readMembers : Nat → Nat → List (Path × Value) → List Char →
    Option (List (Path × Value) × List Char)
  | 0, _, _, _ => none
  | fuel + 1, depth, seen, cs =>
    match readKey cs with
    | some (key, '=' :: rest) =>
      if seen.any fun (other, _) => other.isPrefixOf key || key.isPrefixOf other then none
      else match readValue fuel depth (skipBlank rest) with
        | none => none
        | some (value, rest) =>
          match skipBlank rest with
          | '\x7d' :: rest => some ((key, value) :: seen, rest)
          | ',' :: rest => readMembers fuel depth ((key, value) :: seen) rest
          | _ => none
    | _ => none

end

end BudgetNotes.Toml
