import BudgetNotes.Proofs.Json.KeyOrder
import BudgetNotes.Proofs.Storage.Entries

/-!
# Stored values in any order

Drafts and entries are read by the keys of their members, and so are the parts
in them. It does not matter in which order the members stand, at any depth.

Each reader of members is shown to see no more of them than sorting keeps
(`SortsTo`), part by part as it is defined.

Main statements: `Draft.ignoresOrder_ofJson?` and `Entry.ignoresOrder_ofJson?`.
-/

namespace BudgetNotes

open Json

variable {a b : List (String × Json)}

/-! ## Drafts -/

namespace Json.SortsTo

/-- A text is read the same from sorted members. -/
theorem textField? (h : SortsTo a b) (key : String) :
    textField? b key = BudgetNotes.textField? a key :=
  h.optional ignoresOrder_asText? key ""

/-- So is a switch. -/
theorem switchField? (h : SortsTo a b) (key : String) :
    switchField? b key = BudgetNotes.switchField? a key :=
  h.optional ignoresOrder_asBool? key false

/-- So is a member that may be left out or null. -/
theorem optionalOfMembers? (h : SortsTo a b) {α : Type} {decode : Json → Option α}
    (hdecode : IgnoresOrder decode) (key : String) :
    optionalOfMembers? b key decode = BudgetNotes.optionalOfMembers? a key decode :=
  h.optional hdecode.nullable key none

end Json.SortsTo

/-- The fields of a limit are read the same from sorted members. -/
theorem LimitForm.ofMembers?_of_sortsTo (h : SortsTo a b) : ofMembers? b = ofMembers? a := by
  simp only [ofMembers?, h.textField?, h.switchField?]

/-- A limit is read in any order, as an object and as an array. -/
theorem LimitForm.ignoresOrder_ofJson? : IgnoresOrder ofJson? :=
  ignoresOrder_of_record fields fun _ _ => ofMembers?_of_sortsTo

/-- A limit and its switch are read the same from sorted members. -/
theorem LimitToggle.ofMembers?_of_sortsTo (h : SortsTo a b) : ofMembers? b = ofMembers? a := by
  simp only [ofMembers?, h.switchField?, h.optional LimitForm.ignoresOrder_ofJson?]

/-- A target is read the same from sorted members. -/
theorem TargetForm.ofMembers?_of_sortsTo (h : SortsTo a b) : ofMembers? b = ofMembers? a := by
  simp only [ofMembers?, h.textField?]

/-- The fields of every kind are read the same from sorted members. -/
theorem Form.ofKindMembers?_of_sortsTo (h : SortsTo a b) (kind : TemplateKind) :
    ofKindMembers? b kind = ofKindMembers? a kind := by
  cases kind <;> simp only [ofKindMembers?, h.textField?, h.switchField?,
    LimitForm.ofMembers?_of_sortsTo h, LimitToggle.ofMembers?_of_sortsTo h,
    TargetForm.ofMembers?_of_sortsTo h]

/-- The tag of a kind is a text or a number, and neither has members. -/
theorem TemplateKind.ignoresOrder_ofTag? : IgnoresOrder ofTag? := by
  intro v
  cases v <;> rfl

/-- A form is read the same from sorted members: its kind, then the fields of that kind. -/
theorem Form.ofMembers?_of_sortsTo (h : SortsTo a b) : ofMembers? b = ofMembers? a := by
  simp only [ofMembers?, h.required TemplateKind.ignoresOrder_ofTag?, ofKindMembers?_of_sortsTo h]

/-- A draft is read the same from sorted members. -/
theorem Draft.ofMembers?_of_sortsTo (h : SortsTo a b) : ofMembers? b = ofMembers? a := by
  simp only [ofMembers?, h.required ignoresOrder_asText?, h.optional ignoresOrder_asNat?.nullable,
    h.textField?, Form.ofMembers?_of_sortsTo h]

/-- **The order of a draft's members does not matter.** -/
theorem Draft.ignoresOrder_ofJson? : IgnoresOrder ofJson? := by
  intro v
  have hmembers : v.sortKeys.asMembers?.bind ofMembers? = v.asMembers?.bind ofMembers? :=
    ignoresOrder_of_members (fun _ _ => ofMembers?_of_sortsTo) v
  unfold ofJson?
  rw [wellFormed_sortKeys, hmembers]

/-! ## Templates -/

/-- A number is read from a text or a number. -/
theorem Decimal.ignoresOrder_ofJson? : IgnoresOrder ofJson? := by
  intro v
  cases v <;> rfl

/-- So is an amount. -/
theorem Money.ignoresOrder_ofJson? : IgnoresOrder ofJson? :=
  Decimal.ignoresOrder_ofJson?.map _

/-- A day is read from a text. -/
theorem Date.ignoresOrder_ofJson? : IgnoresOrder ofJson? :=
  ignoresOrder_asText?.bind _

/-- So is a month. -/
theorem BudgetMonth.ignoresOrder_ofJson? : IgnoresOrder ofJson? :=
  ignoresOrder_asText?.bind _

/-- A count is read from a number. -/
theorem ignoresOrder_countOfJson? : IgnoresOrder countOfJson? :=
  ignoresOrder_asNat?.bind _

/-- So is a priority. -/
theorem ignoresOrder_priorityOfJson? : IgnoresOrder priorityOfJson? :=
  ignoresOrder_asInt?.bind _

/-- A choice is read from a text, or from an object with one member. -/
theorem ignoresOrder_choiceOfJson? {α : Type} (ofWord? : String → Option α) :
    IgnoresOrder (choiceOfJson? ofWord?) :=
  (ignoresOrder_asName? isNothing_sortKeys).bind _

/-- So is the marker of a directive. -/
theorem Marker.ignoresOrder_ofJson? : IgnoresOrder ofJson? :=
  (ignoresOrder_asName? isNull_sortKeys).bind _

/-- The members of a spending limit are read the same when sorted. -/
theorem SpendingLimit.ofMembers?_of_sortsTo (h : SortsTo a b) : ofMembers? b = ofMembers? a := by
  simp only [ofMembers?, h.required Money.ignoresOrder_ofJson?, h.optional ignoresOrder_asBool?,
    h.required (ignoresOrder_choiceOfJson? _), h.optionalOfMembers? Date.ignoresOrder_ofJson?]

/-- A spending limit is read in any order, as an object and as an array. -/
theorem SpendingLimit.ignoresOrder_ofJson? : IgnoresOrder ofJson? :=
  ignoresOrder_of_record fields fun _ _ => ofMembers?_of_sortsTo

/-- So is the interval of a periodic template. -/
theorem Interval.ignoresOrder_ofJson? : IgnoresOrder ofJson? :=
  ignoresOrder_of_record _ fun _ _ h => by
    simp only [h.required (ignoresOrder_choiceOfJson? _), h.required ignoresOrder_countOfJson?]

/-- So is the interval at which a target repeats. -/
theorem Recurrence.ignoresOrder_ofJson? : IgnoresOrder ofJson? :=
  ignoresOrder_of_record _ fun _ _ h => by
    simp only [h.required (ignoresOrder_choiceOfJson? _), h.required ignoresOrder_countOfJson?]

/-- The members of every kind are read the same when sorted. -/
theorem Template.ofKindMembers?_of_sortsTo (h : SortsTo a b) (kind : TemplateKind) :
    ofKindMembers? b kind = ofKindMembers? a kind := by
  cases kind <;> simp only [ofKindMembers?, h.required Money.ignoresOrder_ofJson?,
    h.required Decimal.ignoresOrder_ofJson?, h.required ignoresOrder_asText?,
    h.required Date.ignoresOrder_ofJson?, h.required BudgetMonth.ignoresOrder_ofJson?,
    h.required ignoresOrder_countOfJson?, h.optional ignoresOrder_asBool?,
    h.optional Interval.ignoresOrder_ofJson?,
    h.optionalOfMembers? SpendingLimit.ignoresOrder_ofJson?,
    h.optionalOfMembers? Recurrence.ignoresOrder_ofJson?,
    h.optionalOfMembers? BudgetMonth.ignoresOrder_ofJson?,
    h.optionalOfMembers? Decimal.ignoresOrder_ofJson?, SpendingLimit.ofMembers?_of_sortsTo h]

/-- A template is read the same from sorted members: its kind, then the members of that kind. -/
theorem Template.ofMembers?_of_sortsTo (h : SortsTo a b) : ofMembers? b = ofMembers? a := by
  simp only [ofMembers?, h.required TemplateKind.ignoresOrder_ofTag?, ofKindMembers?_of_sortsTo h]

/-! ## Entries -/

/-- A directive is read the same from sorted members. -/
theorem Directive.ofMembers?_of_sortsTo (h : SortsTo a b) : ofMembers? b = ofMembers? a := by
  simp only [ofMembers?, h.required Marker.ignoresOrder_ofJson?,
    h.optionalOfMembers? ignoresOrder_priorityOfJson?, Template.ofMembers?_of_sortsTo h]

/-- So is a line that could not be read. -/
theorem Entry.unparsedOfMembers?_of_sortsTo (h : SortsTo a b) :
    unparsedOfMembers? b = unparsedOfMembers? a := by
  simp only [unparsedOfMembers?, h.required ((ignoresOrder_asName? isNull_sortKeys).filter _),
    h.required ignoresOrder_asText?, h.optional ignoresOrder_asText?]

/-- **The order of an entry's members does not matter.** -/
theorem Entry.ignoresOrder_ofJson? : IgnoresOrder ofJson? := by
  intro v
  have hunparsed : (v.sortKeys.asRecord? unparsedFields).bind unparsedOfMembers? =
      (v.asRecord? unparsedFields).bind unparsedOfMembers? :=
    ignoresOrder_of_record unparsedFields (fun _ _ => unparsedOfMembers?_of_sortsTo) v
  have hdirective : Directive.ofJson? v.sortKeys = Directive.ofJson? v :=
    ignoresOrder_of_members (fun _ _ => Directive.ofMembers?_of_sortsTo) v
  unfold ofJson?
  rw [wellFormed_sortKeys, hunparsed, hdirective]

end BudgetNotes
