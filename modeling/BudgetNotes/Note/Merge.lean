import BudgetNotes.Entry
import BudgetNotes.Note.Labels
import BudgetNotes.Text.Numeral

/-!
# Merging directives into a note

A merge changes the blocks of a note that it is told to change and keeps
every other line. A block is a directive line with its label. The blocks are
paired with the stored entries by position; each entry has one replacement.
Labels are counted over managed entries only. Blocks without an entry, and
entries that could not be read, stay as they are. New templates are written
after everything else.

Main statement: `into_error_iff` (a merge fails only on a wrong number of
replacements).
-/

namespace BudgetNotes

/-- What to do with a stored entry's block. -/
inductive Replacement where
  /-- The label and the line stay as they are. -/
  | keep
  /-- The label and the line are removed. -/
  | delete
  /-- The entry's new label and this line are written; without a line, the label alone. -/
  | replace (line : String)
deriving DecidableEq

/-- A template that is added after the existing text. -/
structure Addition where
  label : String
  line : String
deriving DecidableEq

/-- What a merge writes: one replacement for each stored entry, one label for each managed entry,
and the templates to add. -/
structure Merge where
  entries : List Entry
  labels : List String
  replacements : List Replacement
  additions : List Addition
deriving DecidableEq

/-- A number of replacements that is not the number of stored entries. -/
structure CountMismatch where
  expected : Nat
  actual : Nat
deriving DecidableEq

def CountMismatch.message (e : CountMismatch) : String :=
  "Expected " ++ Text.numeral e.expected ++ " replacements (one per stored entry), got " ++
    Text.numeral e.actual

/-! ## Blocks -/

/-- The lines of a label; an empty label has none. -/
def labelLines (label : String) : List String :=
  if label.isEmpty then [] else Text.splitLines label

/-- A line, unless it is empty. -/
def lineIfAny (line : String) : List String :=
  if line.isEmpty then [] else [line]

/-- What becomes of an entry's block, whose lines are `kept`; `label` is the entry's new label. An
entry that could not be read is kept whatever its replacement. -/
def replaceBlock (kept : List String) (entry : Entry) (label : Option String) :
    Replacement → List String
  | .keep => kept
  | .delete => if entry.isManaged then [] else kept
  | .replace line =>
    if entry.isManaged then (label.map labelLines).getD [] ++ lineIfAny line else kept

/-- Walks over the directive lines that have an entry. `cursor` is the first line that is not yet
written, and `taken` counts the labels of the managed entries so far. -/
def mergeFrom (lines labels : List String) (cursor taken : Nat) :
    List (Nat × Entry × Replacement) → List String
  | [] => lines.drop cursor
  | (line, entry, replacement) :: rest =>
    let start := labelStart lines cursor line
    slice lines cursor start ++
      replaceBlock (slice lines start (line + 1)) entry labels[taken]? replacement ++
      mergeFrom lines labels (line + 1) (if entry.isManaged then taken + 1 else taken) rest

/-- Whether a note starts with text, so that it must not start with a blank line after a merge. -/
def startsWithText (lines : List String) : Bool := lines.head?.any (!Text.isBlank ·)

/-- The lines of a note after its entries' replacements. -/
def mergeLines (lines : List String) (entries : List (Entry × Replacement))
    (labels : List String) : List String :=
  let merged := mergeFrom lines labels 0 0 ((directivePositions lines).zip entries)
  if startsWithText lines then merged.dropWhile Text.isBlank else merged

/-! ## Additions -/

def Addition.toLines (addition : Addition) : List String :=
  labelLines addition.label ++ lineIfAny addition.line

/-- Puts an empty line between groups of lines. -/
def spaceOut : List (List String) → List String
  | [] => []
  | [group] => group
  | group :: groups => group ++ "" :: spaceOut groups

/-- Writes added templates after the lines of a note, an empty line between all of them. Blank
lines that end the note are separation enough. -/
def appendAdditions (lines : List String) (additions : List Addition) : List String :=
  match (additions.map Addition.toLines).filter (!·.isEmpty) with
  | [] => lines
  | groups =>
    let gap := if lines.getLast?.any (!Text.isBlank ·) then [""] else []
    lines ++ gap ++ spaceOut groups

/-! ## Notes -/

/-- The lines of a note that has no stored entries: trailing white space is dropped, and an empty
note has none. -/
def plainLines (note : String) : List String := labelLines (Text.trimEnd note)

namespace Merge

/-- The lines of a note after the merge's replacements. -/
def bodyLines (merge : Merge) (note : String) : List String :=
  if merge.entries.isEmpty then plainLines note
  else mergeLines (Text.splitLines note) (merge.entries.zip merge.replacements) merge.labels

/-- The note after the merge; trailing white space is dropped. -/
def into (merge : Merge) (note : String) : Except CountMismatch String :=
  if merge.replacements.length = merge.entries.length then
    let lines := appendAdditions (merge.bodyLines note) merge.additions
    .ok (Text.trimEnd (Text.joinLines lines))
  else .error ⟨merge.entries.length, merge.replacements.length⟩

end Merge

/-! ## Laws -/

/-- A merge fails only on a wrong number of replacements. -/
theorem Merge.into_error_iff (merge : Merge) (note : String) (e : CountMismatch) :
    merge.into note = .error e ↔
      merge.replacements.length ≠ merge.entries.length ∧
        e = ⟨merge.entries.length, merge.replacements.length⟩ := by
  rw [Merge.into]
  split
  next h => simp [h]
  next h => simp [h, eq_comm]

end BudgetNotes
