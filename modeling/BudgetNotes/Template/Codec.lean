import BudgetNotes.Json.Value
import BudgetNotes.Template.Basic

/-!
# Stored templates

Templates and directives as JSON values. A template is an object tagged by
`type` with its kind's name; a directive has the template's members beside
its marker and its priority. Amounts are written as strings so that no place
is lost, and read from strings or numbers. Optional parts are left out when
there are none; the priority is always written. Unknown members are ignored.

Other forms are read, too, but never written: the parts of a template as
arrays, a choice as the key of an object, and the kind by its place among all
kinds.
-/

namespace BudgetNotes

/-- Reads a decimal from its text, or from a number in the fewest digits that read back. -/
def Decimal.ofJson? : Json → Option Decimal
  | .str text => (ofText text).toOption
  | .int n => ofInt? n
  | .float negative size =>
    (readChars ((if negative then ['-'] else []) ++ size.toChars)).toOption
  | _ => none

/-- A decimal is stored as its text, with all its places. -/
def Decimal.toJson (x : Decimal) : Json := .str x.toText

/-- Reads an amount; its number of places is not checked. -/
def Money.ofJson? (v : Json) : Option Money := (Decimal.ofJson? v).map Money.mk

/-- An amount is stored with the places it was written with. -/
def Money.toJson (m : Money) : Json := .str m.toStored

/-- Reads a day from its text, in the form that is stored. -/
def Date.ofJson? (v : Json) : Option Date := v.asText?.bind ofStored?

/-- A day is stored as its text. -/
def Date.toJson (d : Date) : Json := .str d.toText

/-- Reads a month from a text like one that is typed. -/
def BudgetMonth.ofJson? (v : Json) : Option BudgetMonth :=
  v.asText?.bind fun s => (ofText s).toOption

/-- A month is stored as its text. -/
def BudgetMonth.toJson (m : BudgetMonth) : Json := .str m.toText

/-- Reads a count below 2^32. -/
def countOfJson? (v : Json) : Option UInt32 :=
  v.asNat?.bind fun n => if n < 4294967296 then some (UInt32.ofNat n) else none

/-- A count is stored as an integer. -/
def countToJson (n : UInt32) : Json := .int n.toNat

/-- Reads a priority, a signed number of 32 bits. -/
def priorityOfJson? (v : Json) : Option Int32 :=
  v.asInt?.bind fun n =>
    if -2147483648 ≤ n ∧ n < 2147483648 then some (Int32.ofInt n) else none

/-- A priority is stored as an integer. -/
def priorityToJson (p : Int32) : Json := .int p.toInt

/-- Reads a choice by its word. -/
def choiceOfJson? {α : Type} (ofWord? : String → Option α) (v : Json) : Option α :=
  (v.asName? Json.isNothing).bind ofWord?

/-- Reads the marker of a directive. -/
def Marker.ofJson? (v : Json) : Option Marker := (v.asName? Json.isNull).bind ofName?

/-- Reads the tag of a kind: its name, or its place among all kinds. -/
def TemplateKind.ofTag? : Json → Option TemplateKind
  | .str name => ofName? name
  | .int (.ofNat place) => all[place]?
  | _ => none

/-- The member of a value that may be missing, if it is there. -/
def optionalMember {α : Type} (key : String) (encode : α → Json) :
    Option α → List (String × Json)
  | none => []
  | some a => [(key, encode a)]

/-- Reads an optional member that is left out or null when there is none. -/
def optionalOfMembers? {α : Type} (members : List (String × Json)) (key : String)
    (decode : Json → Option α) : Option (Option α) :=
  Json.optional members key none (Json.nullable decode)

/-! ## Parts -/

namespace SpendingLimit

/-- The fields, in the order of an array. -/
def fields : List String := ["amount", "hold", "period", "start"]

/-- Reads the parts of a limit. One that does not say so is not held. -/
def ofMembers? (members : List (String × Json)) : Option SpendingLimit := do
  let amount ← Json.required members "amount" Money.ofJson?
  let hold ← Json.optional members "hold" false Json.asBool?
  let period ← Json.required members "period" (choiceOfJson? LimitPeriod.ofWord?)
  let start ← optionalOfMembers? members "start" Date.ofJson?
  some ⟨amount, hold, period, start⟩

/-- Reads a limit from an object or from an array. -/
def ofJson? (v : Json) : Option SpendingLimit := (v.asRecord? fields).bind ofMembers?

/-- A limit is written without a start if it has none. -/
def toMembers (spec : SpendingLimit) : List (String × Json) :=
  [("amount", spec.amount.toJson), ("hold", .bool spec.hold), ("period", .str spec.period.word)] ++
    optionalMember "start" Date.toJson spec.start

/-- A limit that is part of a template is an object. -/
def toJson (spec : SpendingLimit) : Json := .obj spec.toMembers

end SpendingLimit

/-- Reads the interval of a periodic template. -/
def Interval.ofJson? (v : Json) : Option Interval := do
  let members ← v.asRecord? ["period", "amount"]
  let period ← Json.required members "period" (choiceOfJson? PeriodUnit.ofWord?)
  let amount ← Json.required members "amount" countOfJson?
  some ⟨period, amount⟩

/-- An interval is stored as an object of its unit and its count. -/
def Interval.toJson (spec : Interval) : Json :=
  .obj [("period", .str spec.period.word), ("amount", countToJson spec.amount)]

/-- Reads how often a target repeats. -/
def Recurrence.ofJson? (v : Json) : Option Recurrence := do
  let members ← v.asRecord? ["unit", "every"]
  let unit ← Json.required members "unit" (choiceOfJson? RepeatUnit.ofWord?)
  let every ← Json.required members "every" countOfJson?
  some ⟨unit, every⟩

/-- A recurrence is stored as an object of its unit and its count. -/
def Recurrence.toJson (spec : Recurrence) : Json :=
  .obj [("unit", .str spec.unit.word), ("every", countToJson spec.every)]

/-! ## Templates -/

namespace Template

/-- Reads the parts of a kind. Members that the kind does not have are ignored. -/
def ofKindMembers? (members : List (String × Json)) : TemplateKind → Option Template
  | .simple => do
    let monthly ← Json.required members "monthly" Money.ofJson?
    let lim ← optionalOfMembers? members "limit" SpendingLimit.ofJson?
    some (simple monthly lim)
  | .percentage => do
    let percent ← Json.required members "percent" Decimal.ofJson?
    let category ← Json.required members "category" Json.asText?
    let previous ← Json.optional members "previous" false Json.asBool?
    some (percentage percent category previous)
  | .periodic => do
    let amount ← Json.required members "amount" Money.ofJson?
    let period ← Json.optional members "period" Interval.monthly Interval.ofJson?
    let starting ← Json.required members "starting" Date.ofJson?
    let lim ← optionalOfMembers? members "limit" SpendingLimit.ofJson?
    some (periodic amount period starting lim)
  | .saveBy => do
    let amount ← Json.required members "amount" Money.ofJson?
    let month ← Json.required members "month" BudgetMonth.ofJson?
    let recurrence ← optionalOfMembers? members "repeat" Recurrence.ofJson?
    some (saveBy amount month recurrence)
  | .spend => do
    let amount ← Json.required members "amount" Money.ofJson?
    let month ← Json.required members "month" BudgetMonth.ofJson?
    let fromMonth ← optionalOfMembers? members "from" BudgetMonth.ofJson?
    let recurrence ← optionalOfMembers? members "repeat" Recurrence.ofJson?
    some (spend amount month fromMonth recurrence)
  | .schedule => do
    let name ← Json.required members "name" Json.asText?
    let adjustment ← optionalOfMembers? members "adjustment" Decimal.ofJson?
    let full ← Json.optional members "full" false Json.asBool?
    some (schedule name adjustment full)
  | .average => (Json.required members "numMonths" countOfJson?).map average
  | .copy => (Json.required members "lookBack" countOfJson?).map copy
  | .remainder => do
    let weight ← Json.required members "weight" Decimal.ofJson?
    let lim ← optionalOfMembers? members "limit" SpendingLimit.ofJson?
    some (remainder weight lim)
  | .limit => (SpendingLimit.ofMembers? members).map limit
  | .goal => (Json.required members "amount" Money.ofJson?).map goal

/-- Reads a template whose kind is told by its tag. -/
def ofMembers? (members : List (String × Json)) : Option Template := do
  let kind ← Json.required members "type" TemplateKind.ofTag?
  ofKindMembers? members kind

/-- Reads a template by itself, outside of a directive. -/
def ofJson? (v : Json) : Option Template := v.asMembers?.bind ofMembers?

/-- The parts of a template. A limit that is the whole template is not an object of its own. -/
def bodyMembers : Template → List (String × Json)
  | simple monthly lim =>
    ("monthly", monthly.toJson) :: optionalMember "limit" SpendingLimit.toJson lim
  | percentage percent category previous =>
    [("percent", percent.toJson), ("category", .str category), ("previous", .bool previous)]
  | periodic amount period starting lim =>
    [("amount", amount.toJson), ("period", period.toJson), ("starting", starting.toJson)] ++
      optionalMember "limit" SpendingLimit.toJson lim
  | saveBy amount month recurrence =>
    [("amount", amount.toJson), ("month", month.toJson)] ++
      optionalMember "repeat" Recurrence.toJson recurrence
  | spend amount month fromMonth recurrence =>
    [("amount", amount.toJson), ("month", month.toJson)] ++
      optionalMember "from" BudgetMonth.toJson fromMonth ++
      optionalMember "repeat" Recurrence.toJson recurrence
  | schedule name adjustment full =>
    ("name", .str name) :: optionalMember "adjustment" Decimal.toJson adjustment ++
      [("full", .bool full)]
  | average n => [("numMonths", countToJson n)]
  | copy n => [("lookBack", countToJson n)]
  | remainder weight lim =>
    ("weight", weight.toJson) :: optionalMember "limit" SpendingLimit.toJson lim
  | limit spec => spec.toMembers
  | goal amount => [("amount", amount.toJson)]

/-- The tag of the kind comes before the parts. -/
def toMembers (t : Template) : List (String × Json) :=
  ("type", .str t.kind.name) :: t.bodyMembers

end Template

/-! ## Directives -/

namespace Directive

/-- Reads a directive from an object's members. Nothing checks that marker and priority fit the
kind. -/
def ofMembers? (members : List (String × Json)) : Option Directive := do
  let marker ← Json.required members "directive" Marker.ofJson?
  let priority ← optionalOfMembers? members "priority" priorityOfJson?
  let template ← Template.ofMembers? members
  some ⟨marker, priority, template⟩

/-- Reads a directive from an object. -/
def ofJson? (v : Json) : Option Directive := v.asMembers?.bind ofMembers?

/-- A directive is an object. Its marker and priority stand before its template. -/
def toJson (d : Directive) : Json :=
  .obj (("directive", .str d.marker.name) ::
    ("priority", (d.priority.map priorityToJson).getD .null) :: d.template.toMembers)

end Directive

end BudgetNotes
