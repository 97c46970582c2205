import BudgetNotes.Draft.Basic
import BudgetNotes.Template.Codec

/-!
# Drafts as JSON

A draft is an object tagged by `type` with its kind's name. Only `type` and
`id` have to be there: a field that is left out is blank, a switch that is
left out is off. Every field of the kind is written. A limit may also be read
from an array, and the kind by its place among all kinds.
-/

namespace BudgetNotes

/-- Reads what was typed in a field; one that is left out is blank. -/
def textField? (members : List (String × Json)) (key : String) : Option String :=
  Json.optional members key "" Json.asText?

/-- Reads a switch; one that is left out is off. -/
def switchField? (members : List (String × Json)) (key : String) : Option Bool :=
  Json.optional members key false Json.asBool?

namespace LimitForm

/-- The fields, in the order of an array. -/
def fields : List String := ["amount", "period", "hold", "start"]

/-- Reads the fields of a limit from the members of an object. -/
def ofMembers? (members : List (String × Json)) : Option LimitForm := do
  let amount ← textField? members "amount"
  let period ← textField? members "period"
  let hold ← switchField? members "hold"
  let start ← textField? members "start"
  some ⟨amount, period, hold, start⟩

/-- Reads a limit from an object or from an array. -/
def ofJson? (v : Json) : Option LimitForm := (v.asRecord? fields).bind ofMembers?

/-- A limit is written with all its fields, in the order of an array. -/
def toMembers (form : LimitForm) : List (String × Json) :=
  [("amount", .str form.amount), ("period", .str form.period), ("hold", .bool form.hold),
    ("start", .str form.start)]

end LimitForm

namespace LimitToggle

/-- Reads the switch of a limit beside the limit, which is blank if it is left out. -/
def ofMembers? (members : List (String × Json)) : Option LimitToggle := do
  let enabled ← switchField? members "useLimit"
  let form ← Json.optional members "limit" LimitForm.blank LimitForm.ofJson?
  some ⟨enabled, form⟩

/-- What was typed for a limit is kept while the limit is off. -/
def toMembers (toggle : LimitToggle) : List (String × Json) :=
  [("useLimit", .bool toggle.enabled), ("limit", .obj toggle.form.toMembers)]

end LimitToggle

namespace TargetForm

/-- Reads the fields of a target, which stand beside the kind. -/
def ofMembers? (members : List (String × Json)) : Option TargetForm := do
  let amount ← textField? members "amount"
  let month ← textField? members "month"
  let fromMonth ← textField? members "from"
  let repeatAmount ← textField? members "repeatAmount"
  let repeatUnit ← textField? members "repeatUnit"
  some ⟨amount, month, fromMonth, repeatAmount, repeatUnit⟩

/-- A target is written with all its fields, also those its kind does not use. -/
def toMembers (form : TargetForm) : List (String × Json) :=
  [("amount", .str form.amount), ("month", .str form.month), ("from", .str form.fromMonth),
    ("repeatAmount", .str form.repeatAmount), ("repeatUnit", .str form.repeatUnit)]

end TargetForm

namespace Form

/-- Reads the fields of a kind. Members that the kind does not have are ignored. -/
def ofKindMembers? (members : List (String × Json)) : TemplateKind → Option Form
  | .simple => do
    let monthly ← textField? members "monthly"
    let lim ← LimitToggle.ofMembers? members
    some (simple monthly lim)
  | .percentage => do
    let percent ← textField? members "percent"
    let category ← textField? members "category"
    let previous ← switchField? members "previous"
    some (percentage percent category previous)
  | .periodic => do
    let amount ← textField? members "amount"
    let starting ← textField? members "starting"
    let repeatAmount ← textField? members "repeatAmount"
    let repeatUnit ← textField? members "repeatUnit"
    let lim ← LimitToggle.ofMembers? members
    some (periodic amount starting repeatAmount repeatUnit lim)
  | .saveBy => (TargetForm.ofMembers? members).map saveBy
  | .spend => (TargetForm.ofMembers? members).map spend
  | .schedule => do
    let name ← textField? members "name"
    let adjustment ← textField? members "adjustment"
    let full ← switchField? members "full"
    some (schedule name adjustment full)
  | .average => (textField? members "numMonths").map average
  | .copy => (textField? members "lookBack").map copy
  | .remainder => do
    let weight ← textField? members "weight"
    let lim ← LimitToggle.ofMembers? members
    some (remainder weight lim)
  | .limit => (LimitForm.ofMembers? members).map limit
  | .goal => (textField? members "amount").map goal

/-- Reads a form whose kind is told by its tag. -/
def ofMembers? (members : List (String × Json)) : Option Form := do
  let kind ← Json.required members "type" TemplateKind.ofTag?
  ofKindMembers? members kind

/-- The fields of a form, as they were typed. -/
def bodyMembers : Form → List (String × Json)
  | simple monthly lim => ("monthly", .str monthly) :: lim.toMembers
  | percentage percent category previous =>
    [("percent", .str percent), ("category", .str category), ("previous", .bool previous)]
  | periodic amount starting repeatAmount repeatUnit lim =>
    [("amount", .str amount), ("starting", .str starting), ("repeatAmount", .str repeatAmount),
      ("repeatUnit", .str repeatUnit)] ++ lim.toMembers
  | saveBy target => target.toMembers
  | spend target => target.toMembers
  | schedule name adjustment full =>
    [("name", .str name), ("adjustment", .str adjustment), ("full", .bool full)]
  | average n => [("numMonths", .str n)]
  | copy n => [("lookBack", .str n)]
  | remainder weight lim => ("weight", .str weight) :: lim.toMembers
  | limit form => form.toMembers
  | goal amount => [("amount", .str amount)]

/-- The tag of the kind comes before the fields. -/
def toMembers (form : Form) : List (String × Json) :=
  ("type", .str form.kind.name) :: form.bodyMembers

/-- A form by itself, outside of a draft. -/
def toJson (form : Form) : Json := .obj form.toMembers

end Form

namespace Draft

/-- Reads a draft, whose form stands among its own members. -/
def ofMembers? (members : List (String × Json)) : Option Draft := do
  let id ← Json.required members "id" Json.asText?
  let sourceIndex ← Json.optional members "sourceIndex" none (Json.nullable Json.asNat?)
  let label ← textField? members "label"
  let priority ← textField? members "priority"
  let form ← Form.ofMembers? members
  some ⟨id, sourceIndex, label, priority, form⟩

/-- Reads a draft. What it holds beside its members has to denote something, too. -/
def ofJson? (v : Json) : Option Draft :=
  if v.wellFormed then v.asMembers?.bind ofMembers? else none

/-- All of a draft but its name. A missing position is written as null. -/
def contentMembers (draft : Draft) : List (String × Json) :=
  ("sourceIndex", (draft.sourceIndex.map fun n => Json.int n).getD .null) ::
    ("label", .str draft.label) :: ("priority", .str draft.priority) :: draft.form.toMembers

/-- A draft is named first. -/
def toJson (draft : Draft) : Json := .obj (("id", .str draft.id) :: draft.contentMembers)

end Draft

end BudgetNotes
