import BudgetNotes.Entry
import BudgetNotes.Text.Lines

/-!
# Directives and their labels

A directive line starts with `#template` or `#goal`, in any case and after
any white space. A line that is neither blank nor a directive can belong to
the label of the directive below it: the label is the run of such lines
directly above. Stored entries are paired with the directive lines by
position, in order.
-/

namespace BudgetNotes

/-! ## Lines -/

/-- Whether a text starts with a word in lower-case letters, upper case read as lower. -/
def startsWithWord : List Char → List Char → Bool
  | [], _ => true
  | _ :: _, [] => false
  | w :: word, c :: cs => c.toLower = w && startsWithWord word cs

/-- The words after the mark that make a line a directive. -/
def directiveWords : List (List Char) :=
  ["template".toList, "goal".toList]

/-- Whether a line starts with a directive's marker. -/
def isDirective (line : String) : Bool :=
  match line.toList.dropWhile Text.isSpace with
  | '#' :: rest => directiveWords.any (startsWithWord · rest)
  | _ => false

/-- Whether a line can belong to the label of the directive below it. -/
def isLabelLine (line : String) : Bool :=
  !isDirective line && !Text.isBlank line

/-! ## Positions -/

/-- Positions of the directive lines, the first line at `start`. -/
def directivePositionsFrom (start : Nat) : List String → List Nat
  | [] => []
  | line :: rest =>
    if isDirective line then start :: directivePositionsFrom (start + 1) rest
    else directivePositionsFrom (start + 1) rest

/-- Positions of the directive lines, in order. -/
def directivePositions (lines : List String) : List Nat := directivePositionsFrom 0 lines

def directivesIn (note : String) : List Nat := directivePositions (Text.splitLines note)

/-- Whether there is a directive line at a position. -/
def isDirectiveAt (lines : List String) (i : Nat) : Bool := lines[i]?.any isDirective

/-- The first line of the label above a line: walks up while lines can belong to a label, but not
above `floor`. Without a label it is the line itself. -/
def labelStart (lines : List String) (floor : Nat) : Nat → Nat
  | 0 => 0
  | line + 1 =>
    if floor ≤ line && lines[line]?.any isLabelLine then labelStart lines floor line
    else line + 1

/-- The lines from one position up to another, the other not among them. -/
def slice (lines : List String) (start stop : Nat) : List String := (lines.take stop).drop start

/-- The label above a line. -/
def labelAbove (lines : List String) (line : Nat) : String :=
  Text.joinLines (slice lines (labelStart lines 0 line) line)

/-- The label of every managed entry that has a directive line, in order. -/
def entryLabels (note : String) (entries : List Entry) : List String :=
  let lines := Text.splitLines note
  (((directivePositions lines).zip entries).filter fun (_, entry) => entry.isManaged).map
    fun (line, _) => labelAbove lines line

end BudgetNotes
