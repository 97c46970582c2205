import BudgetNotes.Draft.Codec
import BudgetNotes.Json.Printer
import BudgetNotes.Json.Reader
import BudgetNotes.Note.WriteBack

/-!
# Commands

The five commands, each from the content of a file to an answer. A request is
a JSON document, an object or an array of its parts in order; every part of it
may be left out. Drafts that do not compile are answered with their messages; a
request that cannot be read or carried out is an error.
-/

namespace BudgetNotes

/-- What a command answers. `ok` is false when the request was understood but its drafts have
problems. -/
structure CommandResult where
  ok : Bool
  text : String
  value : Json

/-- Why a command fails: what it was doing, and the cause where there is a wording for it. -/
structure CommandError where
  context : String
  cause : Option String
deriving DecidableEq

/-- The context with its cause. -/
def CommandError.message (e : CommandError) : String :=
  match e.cause with
  | none => e.context
  | some cause => e.context ++ ": " ++ cause

inductive Command where
  | compile
  | locate
  | drafts
  | apply
  | merge
deriving DecidableEq

namespace Command

def all : List Command := [compile, locate, drafts, apply, merge]

def name : Command → String
  | compile => "compile"
  | locate => "locate"
  | drafts => "drafts"
  | apply => "apply"
  | merge => "merge"

def ofName? (s : String) : Option Command := all.find? (·.name = s)

end Command

namespace CommandResult

/-- The answer to drafts with problems. -/
def ofProblems (problems : List LocatedProblem) : CommandResult :=
  let messages := problems.map LocatedProblem.message
  ⟨false, Text.joinLines messages, .arr (messages.map .str)⟩

/-- An answer whose text is its value. -/
def ofValue (value : Json) : CommandResult := ⟨true, value.print .indented, value⟩

/-- The answer of a note that was written. -/
def ofNote (note : String) : CommandResult := ⟨true, note, .obj [("note", .str note)]⟩

/-- The answer that lists positions. -/
def ofPositions (positions : List Nat) : CommandResult :=
  ⟨true, Text.joinLines (positions.map Text.numeral),
    .obj [("lineIndexes", .arr (positions.map fun (n : Nat) => .int n))]⟩

end CommandResult

/-! ## Requests -/

/-- Reads null, which stands for nothing. -/
def nullOnly? (v : Json) : Option Unit := if v.isNull then some () else none

def Replacement.ofMembers? (members : List (String × Json)) : Option Replacement := do
  let action ← Json.required members "action" (Json.asName? Json.isNull)
  match action with
  | "keep" => (Json.optional members "line" () nullOnly?).map fun _ => keep
  | "delete" => (Json.optional members "line" () nullOnly?).map fun _ => delete
  | "replace" => (Json.required members "line" Json.asText?).map replace
  | _ => none

/-- Reads a replacement: an object tagged by `action`, with the line of a replaced entry, or an
array of both. -/
def Replacement.ofJson? : Json → Option Replacement
  | .arr [action, line] => ofMembers? [("action", action), ("line", line)]
  | v => v.asMembers?.bind ofMembers?

def Addition.ofJson? (v : Json) : Option Addition := do
  let members ← v.asRecord? ["comment", "line"]
  let label ← Json.required members "comment" Json.asText?
  let line ← Json.required members "line" Json.asText?
  some ⟨label, line⟩

/-- Reads a list that may be left out. -/
def listMember? {α : Type} (members : List (String × Json)) (key : String)
    (decode : Json → Option α) : Option (List α) :=
  Json.optional members key [] (Json.asList? decode)

/-- A note and its stored entries. -/
structure NoteRequest where
  note : String
  entries : List Entry

def NoteRequest.ofJson? (v : Json) : Option NoteRequest := do
  let members ← v.asRecord? ["note", "entries"]
  let note ← textField? members "note"
  let entries ← listMember? members "entries" Entry.ofJson?
  some ⟨note, entries⟩

/-- Drafts for a note, and the text rendered for their directives. -/
structure ApplyRequest where
  note : String
  entries : List Entry
  drafts : List Draft
  rendered : String

def ApplyRequest.ofJson? (v : Json) : Option ApplyRequest := do
  let members ← v.asRecord? ["note", "entries", "drafts", "rendered"]
  let note ← textField? members "note"
  let entries ← listMember? members "entries" Entry.ofJson?
  let drafts ← listMember? members "drafts" Draft.ofJson?
  let rendered ← textField? members "rendered"
  some ⟨note, entries, drafts, rendered⟩

/-- A note and what to merge into it. -/
structure MergeRequest where
  note : String
  merge : Merge

def MergeRequest.ofJson? (v : Json) : Option MergeRequest := do
  let members ← v.asRecord? ["note", "entries", "comments", "replacements", "appended"]
  let note ← textField? members "note"
  let entries ← listMember? members "entries" Entry.ofJson?
  let labels ← listMember? members "comments" Json.asText?
  let replacements ← listMember? members "replacements" Replacement.ofJson?
  let additions ← listMember? members "appended" Addition.ofJson?
  some ⟨note, ⟨entries, labels, replacements, additions⟩⟩

def readRequest {α : Type} (what : String) (decode : Json → Option α) (content : String) :
    Except CommandError α :=
  match (Json.parse? content).bind decode with
  | some a => .ok a
  | none => .error ⟨"Invalid " ++ what ++ " JSON", none⟩

/-! ## The commands -/

namespace Command

/-- Compiles an array of drafts to an array of directives. -/
def runCompile (content : String) : Except CommandError CommandResult := do
  let drafts ← readRequest "drafts" (Json.asList? Draft.ofJson?) content
  let compilation := Compilation.ofDrafts drafts
  if compilation.isOk then .ok (.ofValue (.arr (compilation.directives.map Directive.toJson)))
  else .ok (.ofProblems compilation.problems)

/-- Loads drafts from a note; the draft of the entry at index i is named `newId i`. -/
def runDrafts (newId : Nat → String) (content : String) : Except CommandError CommandResult := do
  let request ← readRequest "note request" NoteRequest.ofJson? content
  .ok (.ofValue (.arr ((draftsOf newId request.note request.entries).map Draft.toJson)))

/-- Writes drafts back to a note. -/
def runApply (content : String) : Except CommandError CommandResult := do
  let request ← readRequest "apply request" ApplyRequest.ofJson? content
  match WriteBack.plan request.drafts request.entries with
  | .error (.invalid problems) => .ok (.ofProblems problems)
  | .error e => .error ⟨"Cannot apply drafts to this note", some e.message⟩
  | .ok plan =>
    match plan.finish request.note request.rendered with
    | .ok note => .ok (.ofNote note)
    | .error e => .error ⟨"Failed to reconcile note", some e.message⟩

/-- Merges replacements and added templates into a note. -/
def runMerge (content : String) : Except CommandError CommandResult := do
  let request ← readRequest "merge request" MergeRequest.ofJson? content
  match request.merge.into request.note with
  | .ok note => .ok (.ofNote note)
  | .error e => .error ⟨"Failed to reconcile note", some e.message⟩

/-- Runs a command on the content of a file. -/
def run (newId : Nat → String) : Command → String → Except CommandError CommandResult
  | compile, content => runCompile content
  | locate, note => .ok (.ofPositions (directivesIn note))
  | drafts, content => runDrafts newId content
  | apply, content => runApply content
  | merge, content => runMerge content

end Command

end BudgetNotes
