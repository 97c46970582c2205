import BudgetNotes.Text.Lines
import BudgetNotes.Text.Lowercase

/-!
# Kinds of templates

The eleven kinds of goal templates, their names, the marker their lines are
written with, and which of them take a priority.

Main statement: `ofText_name` (every kind is read back from its name).
-/

namespace BudgetNotes

/-- The marker of a directive line: `#template` or `#goal`. -/
inductive Marker where
  | template
  | goal
deriving DecidableEq

namespace Marker

/-- The word of a marker in a stored directive. -/
def name : Marker → String
  | template => "template"
  | goal => "goal"

def ofName? (s : String) : Option Marker :=
  [template, goal].find? (·.name = s)

end Marker

/-- What a template asks of a category's budget. -/
inductive TemplateKind where
  | simple
  | percentage
  | periodic
  | saveBy
  | spend
  | schedule
  | average
  | copy
  | remainder
  | limit
  | goal
deriving DecidableEq

/-- A name that belongs to no kind. -/
structure UnknownKind where
  text : String
deriving DecidableEq

def UnknownKind.message (e : UnknownKind) : String :=
  "Unknown template kind: '" ++ e.text ++ "'"

namespace TemplateKind

/-- All kinds, in the order of the form. -/
def all : List TemplateKind :=
  [simple, percentage, periodic, saveBy, spend, schedule, average, copy, remainder, limit, goal]

/-- The word of a kind in a stored template. -/
def name : TemplateKind → String
  | simple => "simple"
  | percentage => "percentage"
  | periodic => "periodic"
  | saveBy => "by"
  | spend => "spend"
  | schedule => "schedule"
  | average => "average"
  | copy => "copy"
  | remainder => "remainder"
  | limit => "limit"
  | goal => "goal"

def ofName? (s : String) : Option TemplateKind :=
  all.find? (·.name = s)

/-- Reads a kind as it is typed, in any case and with white space around it. -/
def ofText (s : String) : Except UnknownKind TemplateKind :=
  match ofName? (Text.lowercase (Text.trim s)) with
  | some kind => .ok kind
  | none => .error ⟨s⟩

/-- Goals have a marker of their own. -/
def marker : TemplateKind → Marker
  | goal => .goal
  | _ => .template

/-- Goals, remainders and limits have no priority. -/
def hasPriority : TemplateKind → Bool
  | goal | remainder | limit => false
  | _ => true

/-- No kind is left out of the list. -/
theorem mem_all (kind : TemplateKind) : kind ∈ all := by
  cases kind <;> decide

theorem ofName?_name (kind : TemplateKind) : ofName? kind.name = some kind := by
  cases kind <;> decide

/-- A name is its own lower case and has no white space around it. -/
theorem lowercase_trim_name (kind : TemplateKind) :
    Text.lowercase (Text.trim kind.name) = kind.name := by
  cases kind <;> decide +kernel

/-- Every kind is read back from its name. -/
theorem ofText_name (kind : TemplateKind) : ofText kind.name = .ok kind := by
  rw [ofText, lowercase_trim_name, ofName?_name]

end TemplateKind

end BudgetNotes
