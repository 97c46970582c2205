import BudgetNotes.Template.Codec

/-!
# Stored entries

A note's directives as they were stored by an earlier reading of the note. A
line that could not be read then is kept word for word and never changed; the
other entries are managed, and may be. The two are told apart by their form:
an unparsed entry is a record whose `type` is `error`.
-/

namespace BudgetNotes

/-- A stored directive line. -/
inductive Entry where
  | unparsed (line error : String)
  | managed (directive : Directive)
deriving DecidableEq

namespace Entry

/-- Whether the entry may be changed. -/
def isManaged : Entry → Bool
  | managed _ => true
  | unparsed .. => false

/-- The directive of a managed entry. -/
def directive? : Entry → Option Directive
  | managed d => some d
  | unparsed .. => none

/-- The line of an entry that could not be read. -/
def verbatimLine? : Entry → Option String
  | managed _ => none
  | unparsed line _ => some line

/-- The fields of an unparsed entry, in the order of an array. -/
def unparsedFields : List String := ["type", "line", "error"]

def unparsedOfMembers? (members : List (String × Json)) : Option Entry := do
  let _ ← Json.required members "type" fun v => (v.asName? Json.isNull).filter (· = "error")
  let line ← Json.required members "line" Json.asText?
  let error ← Json.optional members "error" "" Json.asText?
  some (unparsed line error)

/-- Reads an entry: as an unparsed one, or else as a directive. -/
def ofJson? (v : Json) : Option Entry :=
  if v.wellFormed then
    ((v.asRecord? unparsedFields).bind unparsedOfMembers?).or ((Directive.ofJson? v).map managed)
  else none

def toJson : Entry → Json
  | unparsed line error =>
    .obj [("type", .str "error"), ("line", .str line), ("error", .str error)]
  | managed d => d.toJson

end Entry

end BudgetNotes
