import BudgetNotes.Decimal.Binary

/-!
# JSON values

A document as a value. The members of an object keep their order, and a key
may occur twice. An integer is a number that fits 64 bits, signed or
unsigned; every other number is binary floating point. What is well formed
but denotes nothing (a number beyond the floating point range, half a
surrogate pair, containers nested too deep) is `malformed`: harmless where a
value is skipped, an error where one is read.

A record is read from an object by its fields' names, or from an array by
their order. A name that is one of a few choices is read from a string, or
from an object that has it as the key of its only member.
-/

namespace BudgetNotes

/-- A JSON value. -/
inductive Json where
  | null
  | bool (value : Bool)
  | int (value : Int)
  | float (negative : Bool) (size : Binary64)
  | str (text : String)
  | arr (items : List Json)
  | obj (members : List (String × Json))
  | malformed

namespace Json

/-- The values of the members with a given key, in order. -/
def valuesAt (key : String) (members : List (String × Json)) : List Json :=
  members.filterMap fun (k, v) => if k = key then some v else none

/-- Decodes a member that must be there exactly once. -/
def required {α : Type} (members : List (String × Json)) (key : String)
    (decode : Json → Option α) : Option α :=
  match valuesAt key members with
  | [v] => decode v
  | _ => none

/-- Decodes a member that may be left out, for which `absent` stands, but not repeated. -/
def optional {α : Type} (members : List (String × Json)) (key : String) (absent : α)
    (decode : Json → Option α) : Option α :=
  match valuesAt key members with
  | [] => some absent
  | [v] => decode v
  | _ => none

/-- Decodes a value that may be null. -/
def nullable {α : Type} (decode : Json → Option α) : Json → Option (Option α)
  | null => some none
  | v => (decode v).map some

def asMembers? : Json → Option (List (String × Json))
  | obj members => some members
  | _ => none

/-- The members of a record. The items of an array stand for its first fields, in order; there may
be fewer of them than fields, but not more. -/
def asRecord? (fields : List String) : Json → Option (List (String × Json))
  | obj members => some members
  | arr items => if items.length ≤ fields.length then some (fields.zip items) else none
  | _ => none

/-- The text of a string. -/
def asText? : Json → Option String
  | str text => some text
  | _ => none

def isNull : Json → Bool
  | null => true
  | _ => false

/-- Whether a value holds nothing: null, or an object without members. -/
def isNothing : Json → Bool
  | null | obj [] => true
  | _ => false

/-- The name of a choice: a text, or the only key of an object, with an empty value to it. -/
def asName? (isEmpty : Json → Bool) : Json → Option String
  | str name => some name
  | obj [(name, v)] => if isEmpty v then some name else none
  | _ => none

/-- The value of a boolean. -/
def asBool? : Json → Option Bool
  | bool b => some b
  | _ => none

/-- The value of an integer. -/
def asInt? : Json → Option Int
  | int n => some n
  | _ => none

/-- The value of an integer that is not negative. -/
def asNat? : Json → Option Nat
  | int (.ofNat n) => some n
  | _ => none

/-- The decoded items of an array. -/
def asList? {α : Type} (decode : Json → Option α) : Json → Option (List α)
  | arr items => items.mapM decode
  | _ => none

mutual

/-- Whether every part of a value denotes something. -/
def wellFormed : Json → Bool
  | malformed => false
  | arr items => allWellFormed items
  | obj members => allMembersWellFormed members
  | _ => true

/-- Whether all items are well formed. -/
def allWellFormed : List Json → Bool
  | [] => true
  | v :: rest => wellFormed v && allWellFormed rest

/-- Whether the values of all members are well formed. -/
def allMembersWellFormed : List (String × Json) → Bool
  | [] => true
  | (_, v) :: rest => wellFormed v && allMembersWellFormed rest

end

end Json

end BudgetNotes
