import BudgetNotes.Entry
import BudgetNotes.Proofs.Storage.Drafts
import BudgetNotes.Proofs.Storage.Templates

/-!
# Storage loses nothing

An entry is read back as what it was: a directive as a directive with the same
marker, priority and template, and a line that could not be read as that line,
word for word. The two are told apart by their `type`, which is the name of a
kind or `error`, and no kind has that name. Numbers keep their value, and
everything else is the same.

> `Directive.ofMembers?_toMembers`, `Entry.ofJson?_toJson`: what exactly is read back.

Main statement: `Entry.readBack`.
-/

namespace BudgetNotes

/-! ## Directives -/

namespace Directive

/-- A directive as it is read back. -/
def settled (d : Directive) : Directive :=
  { d with template := d.template.settled }

/-- It is the same directive, numbers compared by value. -/
theorem equiv_settled (d : Directive) : Directive.Equiv d.settled d := by
  unfold Directive.Equiv normalize settled
  rw [Template.normalize_settled]

/-- The members of a directive. -/
def toMembers (d : Directive) : List (String × Json) :=
  ("directive", .str d.marker.name) ::
    ("priority", (d.priority.map priorityToJson).getD .null) :: d.template.toMembers

/-- Each of the directive's own members is there once. -/
theorem valuesAt_toMembers (d : Directive) :
    Json.valuesAt "directive" d.toMembers = [.str d.marker.name] ∧
    Json.valuesAt "priority" d.toMembers = [(d.priority.map priorityToJson).getD .null] ∧
    Json.valuesAt "type" d.toMembers = [.str d.template.kind.name] := by
  refine ⟨?_, ?_, ?_⟩ <;>
    simp (disch := decide) [toMembers, Template.toMembers, Template.valuesAt_bodyMembers]

/-- **A directive is read back** from its members, with its numbers settled. -/
theorem ofMembers?_toMembers {d : Directive} (h : d.template.Storable) :
    ofMembers? d.toMembers = some d.settled := by
  obtain ⟨hmarker, hpriority, _⟩ := d.valuesAt_toMembers
  have hmarkerRead : Json.required d.toMembers "directive" Marker.ofJson? = some d.marker :=
    (Json.required_of_valuesAt hmarker _).trans d.marker.ofName?_name
  have hpriorityRead : optionalOfMembers? d.toMembers "priority" priorityOfJson? =
      some d.priority := by
    unfold optionalOfMembers?
    rw [Json.optional_of_valuesAt hpriority]
    cases d.priority with
    | none => rfl
    | some p => exact congrArg (Option.map some) (priorityOfJson?_priorityToJson p)
  have htemplate : Template.ofMembers? d.toMembers = some d.template.settled := by
    refine Template.ofMembers?_of_sameBut h ?_
    exact ((Json.SameBut.refl _ d.template.toMembers).cons (by decide) _).cons (by decide) _
  unfold ofMembers?
  rw [hmarkerRead, hpriorityRead, htemplate]
  rfl

theorem wellFormed_toJson (d : Directive) : d.toJson.wellFormed = true := by
  have hpriority : ((d.priority.map priorityToJson).getD .null).wellFormed = true := by
    cases d.priority with
    | none => rfl
    | some p => rfl
  simp only [toJson, Template.toMembers, Json.wellFormed, Json.allMembersWellFormed,
    Template.wellFormed_bodyMembers, hpriority, Bool.and_self]

end Directive

/-! ## Entries -/

namespace Entry

/-- An entry as it is read back. -/
def settled : Entry → Entry
  | unparsed line error => unparsed line error
  | managed d => managed d.settled

/-- Whether two entries are of one variant and equal, numbers compared by value. -/
def Equiv : Entry → Entry → Prop
  | unparsed line error, unparsed line' error' => line = line' ∧ error = error'
  | managed d, managed d' => Directive.Equiv d d'
  | _, _ => False

theorem equiv_settled (entry : Entry) : Equiv entry.settled entry := by
  cases entry with
  | unparsed line error => exact ⟨rfl, rfl⟩
  | managed d => exact d.equiv_settled

/-- Whether the entry is unparsed, or the years of its months have four digits. -/
def Storable : Entry → Prop
  | unparsed .. => True
  | managed d => d.template.Storable

/-- No kind is named as what could not be read. -/
theorem unparsedOfMembers?_directive (d : Directive) : unparsedOfMembers? d.toMembers = none := by
  obtain ⟨_, _, htype⟩ := d.valuesAt_toMembers
  have hnone : Json.required d.toMembers "type"
      (fun v => (v.asName? Json.isNull).filter (· = "error")) = none := by
    rw [Json.required_of_valuesAt htype]
    cases d.template.kind <;> decide
  unfold unparsedOfMembers?
  rw [hnone]
  rfl

theorem wellFormed_toJson (entry : Entry) : entry.toJson.wellFormed = true := by
  cases entry with
  | unparsed line error => rfl
  | managed d => exact d.wellFormed_toJson

theorem ofJson?_obj {members : List (String × Json)} (h : (Json.obj members).wellFormed = true) :
    ofJson? (.obj members) =
      (unparsedOfMembers? members).or ((Directive.ofMembers? members).map managed) := by
  unfold ofJson?
  rw [if_pos h]
  rfl

/-- **An entry is read back**, and as its own variant. -/
theorem ofJson?_toJson {entry : Entry} (h : entry.Storable) :
    ofJson? entry.toJson = some entry.settled := by
  have hwellFormed := entry.wellFormed_toJson
  cases entry with
  | unparsed line error =>
    have hread : unparsedOfMembers? [("type", .str "error"), ("line", .str line),
        ("error", .str error)] = some (unparsed line error) := by
      simp [unparsedOfMembers?, Json.required, Json.optional, Json.asName?, Json.asText?,
        Option.filter]
    exact (ofJson?_obj hwellFormed).trans (by rw [hread]; rfl)
  | managed d =>
    have hread : ofJson? (.obj d.toMembers) = _ := ofJson?_obj hwellFormed
    rw [unparsedOfMembers?_directive, Directive.ofMembers?_toMembers h] at hread
    exact hread

/-- What is read can be stored. -/
theorem storable_of_ofJson? {v : Json} {entry : Entry} (h : ofJson? v = some entry) :
    entry.Storable := by
  cases entry with
  | unparsed line error => trivial
  | managed d =>
    unfold ofJson? at h
    split at h
    next =>
      rcases Option.or_eq_some_iff.mp h with hunparsed | ⟨_, h⟩
      · -- what is read as unparsed is no directive
        obtain ⟨members, _, hunparsed⟩ := Option.bind_eq_some_iff.mp hunparsed
        obtain ⟨_, _, hunparsed⟩ := Option.bind_eq_some_iff.mp hunparsed
        obtain ⟨_, _, hunparsed⟩ := Option.bind_eq_some_iff.mp hunparsed
        obtain ⟨_, _, hunparsed⟩ := Option.bind_eq_some_iff.mp hunparsed
        cases hunparsed
      · obtain ⟨d', hd, heq⟩ := Option.map_eq_some_iff.mp h
        cases heq
        obtain ⟨members, _, hd⟩ := Option.bind_eq_some_iff.mp hd
        obtain ⟨marker, _, hd⟩ := Option.bind_eq_some_iff.mp hd
        obtain ⟨priority, _, hd⟩ := Option.bind_eq_some_iff.mp hd
        obtain ⟨template, htemplate, hd⟩ := Option.bind_eq_some_iff.mp hd
        cases hd
        exact Template.storable_of_ofMembers? htemplate
    next => cases h

/-- **Storage loses nothing.** Every entry that was read, and every other entry whose months storage
can tell, is read back from what it is stored as: as an equal entry of its variant, numbers compared
by value. Every draft is read back as it was. -/
theorem readBack :
    (∀ v entry, ofJson? v = some entry → entry.Storable) ∧
    (∀ entry : Entry, entry.Storable → ∃ entry', ofJson? entry.toJson = some entry' ∧
      Equiv entry' entry ∧ entry'.isManaged = entry.isManaged) ∧
    ∀ draft : Draft, Draft.ofJson? draft.toJson = some draft := by
  refine ⟨fun v entry => storable_of_ofJson?, fun entry hentry => ?_, Draft.ofJson?_toJson⟩
  refine ⟨entry.settled, ofJson?_toJson hentry, entry.equiv_settled, ?_⟩
  cases entry with
  | unparsed line error => rfl
  | managed d => rfl

end Entry

end BudgetNotes
