import BudgetNotes.Draft.Compile
import BudgetNotes.Note.Labels
import BudgetNotes.Note.Merge

/-!
# Writing drafts back

Drafts are loaded from a note, edited, and written back to it. Planning
compiles all drafts and gives every stored entry a slot: it is kept if it
could not be read, edited if a draft points at it, and removed otherwise.
Drafts that point at no entry are added after them. The directives go to the
renderer in the order of the slots, and its lines come back to the slots that
asked for them.

The renderer answers a batch of directives with a text, one line for each.
Dealing hands the lines to those that asked for one, in order; whoever comes
after the last line gets none, and lines that are left over are dropped.
-/

namespace BudgetNotes

/-! ## Loading -/

/-- Drafts for the managed entries among `entries`, the first of them at `index`, each with the
next of the labels. -/
def draftsFrom (newId : Nat → String) (index : Nat) : List Entry → List String → List Draft
  | [], _ => []
  | entry :: rest, labels =>
    match entry.directive? with
    | none => draftsFrom newId (index + 1) rest labels
    | some d =>
      { Draft.ofDirective (newId index) d with
        sourceIndex := some index
        label := labels.head?.getD "" } :: draftsFrom newId (index + 1) rest labels.tail

/-- Editable drafts for every managed entry of a note, labelled with what the note says above its
line. The draft of the entry at index i is named `newId i`. -/
def draftsOf (newId : Nat → String) (note : String) (stored : List Entry) : List Draft :=
  draftsFrom newId 0 stored (entryLabels note stored)

/-! ## Planning -/

/-- A compiled draft: its directive and the label to write above it. -/
structure Piece where
  directive : Directive
  label : String
deriving DecidableEq

/-- What happens to one place of the note. -/
inductive Slot where
  /-- The stored entry at an index could not be read and stays. -/
  | kept (index : Nat)
  /-- A stored entry that no draft points at goes. -/
  | removed
  /-- A stored entry is written anew. -/
  | edited (piece : Piece)
  /-- A template is written after all others. -/
  | added (piece : Piece)
deriving DecidableEq

/-- Why drafts cannot be written back. -/
inductive WriteBackError where
  | invalid (problems : List LocatedProblem)
  | noEditableEntry (position index : Nat)
  | claimedTwice (index : Nat)
  | rendererFailed (message : String)
  | wrongCount (cause : CountMismatch)
deriving DecidableEq

def WriteBackError.message : WriteBackError → String
  | invalid problems =>
    Text.numeral problems.length ++ " template error(s); fix them before applying"
  | noEditableEntry position index =>
    "Template " ++ Text.numeral position ++ ": stored entry " ++ Text.numeral index ++
      " is not an editable template"
  | claimedTwice index =>
    "Stored entry " ++ Text.numeral index ++ " is claimed by more than one template"
  | rendererFailed message => "Renderer failed: " ++ message
  | wrongCount cause => cause.message

/-- A label without the blank lines around it. White space that starts its first line of text is
part of it. -/
def trimLabel (label : String) : String :=
  String.ofList ((Text.trimEndChars label.toList).dropWhile
    fun c => c = '\n' || c = '\r')

/-- A draft with the directive it was compiled to. -/
abbrev CompiledDraft := Draft × Directive

def pieceOf (draft : CompiledDraft) : Piece := ⟨draft.2, trimLabel draft.1.label⟩

/-- Whether a stored entry may be edited. -/
def isEditable (stored : List Entry) (index : Nat) : Bool :=
  stored[index]?.any Entry.isManaged

/-- What is wrong with the first draft that points at no editable entry, or at one that an earlier
draft points at. `position` is the position of the first draft, `seen` what the drafts before it
point at. -/
def sourceConflict? (stored : List Entry) (position : Nat) (seen : List Nat) :
    List Draft → Option WriteBackError
  | [] => none
  | draft :: rest =>
    match draft.sourceIndex with
    | none => sourceConflict? stored (position + 1) seen rest
    | some source =>
      if !isEditable stored source then some (.noEditableEntry position source)
      else if seen.contains source then some (.claimedTwice source)
      else sourceConflict? stored (position + 1) (source :: seen) rest

/-- The slot of the stored entry at `index`. -/
def slotOf (drafts : List CompiledDraft) (entry : Entry) (index : Nat) : Slot :=
  if !entry.isManaged then .kept index
  else match drafts.find? (·.1.sourceIndex = some index) with
    | some draft => .edited (pieceOf draft)
    | none => .removed

/-- The slots of the stored entries, the first of them at `index`. -/
def storedSlotsFrom (drafts : List CompiledDraft) (index : Nat) : List Entry → List Slot
  | [] => []
  | entry :: rest => slotOf drafts entry index :: storedSlotsFrom drafts (index + 1) rest

/-- The slots of drafts that point at no entry. -/
def addedSlots (drafts : List CompiledDraft) : List Slot :=
  (drafts.filter (·.1.sourceIndex.isNone)).map fun draft => .added (pieceOf draft)

/-- Compiled drafts, laid out against the stored entries. -/
structure WriteBack where
  stored : List Entry
  slots : List Slot
deriving DecidableEq

/-- Compiles drafts and lays them out. Nothing is planned unless every draft compiles and every
entry is claimed at most once. -/
def WriteBack.plan (drafts : List Draft) (stored : List Entry) :
    Except WriteBackError WriteBack :=
  let compilation := Compilation.ofDrafts drafts
  if !compilation.isOk then .error (.invalid compilation.problems)
  else match sourceConflict? stored 1 [] drafts with
    | some e => .error e
    | none =>
      let compiled := drafts.zip compilation.directives
      .ok ⟨stored, storedSlotsFrom compiled 0 stored ++ addedSlots compiled⟩

/-! ## Rendered lines -/

/-- Hands out lines in order to the members of a list that want one. -/
def dealLines {α : Type} (wants : α → Bool) : List α → List String → List (α × Option String)
  | [], _ => []
  | a :: rest, lines =>
    if wants a then (a, lines.head?) :: dealLines wants rest lines.tail
    else (a, none) :: dealLines wants rest lines

/-- The line written for a stored entry: its own if it could not be read, else the rendered line,
empty when there is none. -/
def Entry.writtenLine (entry : Entry) (rendered : Option String) : String :=
  match entry with
  | .unparsed line _ => line
  | .managed _ => rendered.getD ""

/-- One line for each stored entry out of a rendered text. -/
def writtenLines (entries : List Entry) (rendered : String) : List String :=
  (dealLines Entry.isManaged entries (Text.splitLines rendered)).map fun (entry, line) =>
    entry.writtenLine line

/-! ## Writing -/

namespace Slot

/-- The directive and label of a slot that is rendered. -/
def piece? : Slot → Option Piece
  | kept _ => none
  | removed => none
  | edited piece => some piece
  | added piece => some piece

/-- The entry that a slot writes; a removed one writes none. -/
def writes? (stored : List Entry) : Slot → Option Entry
  | kept index => stored[index]?
  | removed => none
  | edited piece => some (.managed piece.directive)
  | added piece => some (.managed piece.directive)

/-- Whether a slot takes a line. -/
def takesLine : Slot → Bool
  | removed => false
  | _ => true

/-- The label written for the managed entry of a slot. -/
def label? : Slot → Option String
  | kept _ => none
  | removed => some ""
  | edited piece => some piece.label
  | added _ => none

/-- What a slot does to its stored entry, given its line. -/
def replacement? (line : String) : Slot → Option Replacement
  | kept _ => some .keep
  | removed => some .delete
  | edited _ => some (.replace line)
  | added _ => none

/-- The template that a slot adds, given its line. -/
def addition? (line : String) : Slot → Option Addition
  | added piece => some ⟨piece.label, line⟩
  | _ => none

end Slot

/-- A renderer answers a batch of directives with a text, or fails with a message. -/
abbrev Renderer := List Directive → Except String String

namespace WriteBack

/-- The directives for the renderer, in the order of the note. -/
def batch (plan : WriteBack) : List Directive :=
  (plan.slots.filterMap Slot.piece?).map Piece.directive

/-- The entries that are written, in the order of the slots. -/
def written (plan : WriteBack) : List Entry :=
  plan.slots.filterMap (Slot.writes? plan.stored)

/-- The slots with the lines of the entries that are written; a slot without a line has an empty
one. -/
def renderedSlots (plan : WriteBack) (rendered : String) : List (Slot × String) :=
  (dealLines Slot.takesLine plan.slots (writtenLines plan.written rendered)).map
    fun (slot, line) => (slot, line.getD "")

/-- The merge that writes a rendered text. -/
def toMerge (plan : WriteBack) (rendered : String) : Merge where
  entries := plan.stored
  labels := plan.slots.filterMap Slot.label?
  replacements := (plan.renderedSlots rendered).filterMap fun (slot, line) => slot.replacement? line
  additions := (plan.renderedSlots rendered).filterMap fun (slot, line) => slot.addition? line

/-- Writes a rendered text into a note. -/
def finish (plan : WriteBack) (note rendered : String) : Except CountMismatch String :=
  (plan.toMerge rendered).into note

/-- Renders the directives and writes them into a note. Without directives there is nothing to
render. -/
def run (plan : WriteBack) (note : String) (renderer : Renderer) :
    Except WriteBackError String :=
  match if plan.batch.isEmpty then .ok "" else renderer plan.batch with
  | .error message => .error (.rendererFailed message)
  | .ok rendered => (plan.finish note rendered).mapError .wrongCount

end WriteBack

end BudgetNotes
