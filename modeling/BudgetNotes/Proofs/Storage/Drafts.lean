import BudgetNotes.Draft.Codec
import BudgetNotes.Proofs.Json.Members

/-!
# Stored drafts

A draft has texts and switches only, and every field of its kind is written.
So a draft is read back just as it was, with whatever was typed into it. The
members of its form stand beside those of the draft, and neither has a key of
the other's (`Form.valuesAt_bodyMembers`).

Main statement: `Draft.ofJson?_toJson`.
-/

namespace BudgetNotes

/-- The keys that are not the form's own. -/
def draftKeys : List String := ["id", "sourceIndex", "label", "priority", "type"]

section

variable {members written : List (String × Json)}

/-! ## What is not looked at -/

theorem textField?_congr (h : Json.SameBut draftKeys members written) {key : String}
    (hkey : key ∉ draftKeys) : textField? members key = textField? written key := by
  unfold textField? Json.optional
  rw [h key hkey]

theorem switchField?_congr (h : Json.SameBut draftKeys members written) {key : String}
    (hkey : key ∉ draftKeys) : switchField? members key = switchField? written key := by
  unfold switchField? Json.optional
  rw [h key hkey]

/-- A form is read from its own members. -/
theorem Form.ofKindMembers?_congr (h : Json.SameBut draftKeys members written)
    (kind : TemplateKind) : ofKindMembers? members kind = ofKindMembers? written kind := by
  have hlimit : LimitForm.ofMembers? members = LimitForm.ofMembers? written := by
    simp (disch := decide) only [LimitForm.ofMembers?, textField?_congr h, switchField?_congr h]
  have htoggle : LimitToggle.ofMembers? members = LimitToggle.ofMembers? written := by
    unfold LimitToggle.ofMembers? Json.optional
    rw [switchField?_congr h (by decide), h "limit" (by decide)]
  have htarget : TargetForm.ofMembers? members = TargetForm.ofMembers? written := by
    simp (disch := decide) only [TargetForm.ofMembers?, textField?_congr h]
  cases kind <;>
    simp (disch := decide) only [ofKindMembers?, textField?_congr h, switchField?_congr h, hlimit,
      htoggle, htarget]

/-! ## Forms -/

theorem LimitForm.ofMembers?_toMembers (form : LimitForm) :
    ofMembers? form.toMembers = some form := by
  simp [ofMembers?, toMembers, textField?, switchField?, Json.optional, Json.asText?, Json.asBool?]

/-- A limit that can be switched off is read back, whatever stands before it. -/
theorem LimitToggle.ofMembers?_append (others : List (String × Json)) (toggle : LimitToggle)
    (huse : Json.valuesAt "useLimit" others = []) (hlimit : Json.valuesAt "limit" others = []) :
    ofMembers? (others ++ toggle.toMembers) = some toggle := by
  have hform : LimitForm.ofJson? (.obj toggle.form.toMembers) = some toggle.form :=
    toggle.form.ofMembers?_toMembers
  simp [ofMembers?, toMembers, switchField?, Json.optional, Json.asBool?, huse, hlimit, hform]

theorem TargetForm.ofMembers?_toMembers (form : TargetForm) :
    ofMembers? form.toMembers = some form := by
  simp [ofMembers?, toMembers, textField?, Json.optional, Json.asText?]

namespace Form

/-- A form is read back from its body. -/
theorem ofKindMembers?_bodyMembers (form : Form) :
    ofKindMembers? form.bodyMembers form.kind = some form := by
  cases form with
  | simple monthly lim =>
    have hlim : LimitToggle.ofMembers? (simple monthly lim).bodyMembers = some lim :=
      lim.ofMembers?_append [("monthly", .str monthly)] rfl rfl
    rw [kind, ofKindMembers?, hlim]
    simp [bodyMembers, LimitToggle.toMembers, textField?, Json.optional, Json.asText?]
  | periodic amount starting repeatAmount repeatUnit lim =>
    have hlim : LimitToggle.ofMembers?
        (periodic amount starting repeatAmount repeatUnit lim).bodyMembers = some lim :=
      lim.ofMembers?_append [("amount", .str amount), ("starting", .str starting),
        ("repeatAmount", .str repeatAmount), ("repeatUnit", .str repeatUnit)] rfl rfl
    rw [kind, ofKindMembers?, hlim]
    simp [bodyMembers, LimitToggle.toMembers, textField?, Json.optional, Json.asText?]
  | remainder weight lim =>
    have hlim : LimitToggle.ofMembers? (remainder weight lim).bodyMembers = some lim :=
      lim.ofMembers?_append [("weight", .str weight)] rfl rfl
    rw [kind, ofKindMembers?, hlim]
    simp [bodyMembers, LimitToggle.toMembers, textField?, Json.optional, Json.asText?]
  | saveBy target | spend target =>
    rw [kind, ofKindMembers?, bodyMembers, target.ofMembers?_toMembers]
    rfl
  | limit form =>
    rw [kind, ofKindMembers?, bodyMembers, form.ofMembers?_toMembers]
    rfl
  | percentage percent category previous =>
    simp [kind, ofKindMembers?, bodyMembers, textField?, switchField?, Json.optional, Json.asText?,
      Json.asBool?]
  | schedule name adjustment full =>
    simp [kind, ofKindMembers?, bodyMembers, textField?, switchField?, Json.optional, Json.asText?,
      Json.asBool?]
  | average n | copy n | goal n =>
    simp [kind, ofKindMembers?, bodyMembers, textField?, Json.optional, Json.asText?]

/-- A form has none of the draft's keys among its own. -/
theorem valuesAt_bodyMembers {key : String} (h : key ∈ draftKeys) (form : Form) :
    Json.valuesAt key form.bodyMembers = [] := by
  simp only [draftKeys, List.mem_cons, List.not_mem_nil, or_false] at h
  rcases h with rfl | rfl | rfl | rfl | rfl <;> cases form <;>
    simp [bodyMembers, LimitForm.toMembers, LimitToggle.toMembers, TargetForm.toMembers]

end Form

/-! ## Drafts -/

namespace Draft

/-- All members of a draft. -/
def toMembers (draft : Draft) : List (String × Json) :=
  ("id", .str draft.id) :: draft.contentMembers

/-- Only the form's members have other keys than the draft's. -/
theorem sameBut_toMembers (draft : Draft) :
    Json.SameBut draftKeys draft.toMembers draft.form.bodyMembers := by
  have htype := (Json.SameBut.refl draftKeys draft.form.bodyMembers).cons
    (show "type" ∈ draftKeys by decide) (.str draft.form.kind.name)
  have hpriority := htype.cons (show "priority" ∈ draftKeys by decide) (.str draft.priority)
  have hlabel := hpriority.cons (show "label" ∈ draftKeys by decide) (.str draft.label)
  exact (hlabel.cons (by decide) _).cons (by decide) _

/-- Each of the draft's own members is there once. -/
theorem valuesAt_toMembers (draft : Draft) :
    Json.valuesAt "id" draft.toMembers = [.str draft.id] ∧
    Json.valuesAt "sourceIndex" draft.toMembers =
      [(draft.sourceIndex.map fun n => Json.int n).getD .null] ∧
    Json.valuesAt "label" draft.toMembers = [.str draft.label] ∧
    Json.valuesAt "priority" draft.toMembers = [.str draft.priority] ∧
    Json.valuesAt "type" draft.toMembers = [.str draft.form.kind.name] := by
  refine ⟨?_, ?_, ?_, ?_, ?_⟩ <;>
    simp (disch := decide) [toMembers, contentMembers, Form.toMembers, Form.valuesAt_bodyMembers]

theorem ofMembers?_toMembers (draft : Draft) : ofMembers? draft.toMembers = some draft := by
  obtain ⟨hid, hsource, hlabel, hpriority, htype⟩ := draft.valuesAt_toMembers
  have hidRead : Json.required draft.toMembers "id" Json.asText? = some draft.id :=
    Json.required_of_valuesAt hid Json.asText?
  have hlabelRead : textField? draft.toMembers "label" = some draft.label :=
    Json.optional_of_valuesAt hlabel "" Json.asText?
  have hpriorityRead : textField? draft.toMembers "priority" = some draft.priority :=
    Json.optional_of_valuesAt hpriority "" Json.asText?
  have hsourceRead : Json.optional draft.toMembers "sourceIndex" none
      (Json.nullable Json.asNat?) = some draft.sourceIndex := by
    rw [Json.optional_of_valuesAt hsource]
    cases draft.sourceIndex with
    | none => rfl
    | some n => rfl
  have hkind : Json.required draft.toMembers "type" TemplateKind.ofTag? = some draft.form.kind :=
    (Json.required_of_valuesAt htype _).trans draft.form.kind.ofName?_name
  have hform : Form.ofMembers? draft.toMembers = some draft.form := by
    unfold Form.ofMembers?
    rw [hkind]
    exact (Form.ofKindMembers?_congr draft.sameBut_toMembers _).trans
      draft.form.ofKindMembers?_bodyMembers
  unfold ofMembers?
  rw [hidRead, hsourceRead, hlabelRead, hpriorityRead, hform]
  rfl

theorem wellFormed_toJson (draft : Draft) : draft.toJson.wellFormed = true := by
  have hbody : Json.allMembersWellFormed draft.form.bodyMembers = true := by
    cases draft.form <;>
      simp [Form.bodyMembers, LimitForm.toMembers, LimitToggle.toMembers, TargetForm.toMembers,
        Json.allMembersWellFormed, Json.wellFormed]
  have hsource : ((draft.sourceIndex.map fun n => Json.int n).getD .null).wellFormed = true := by
    cases draft.sourceIndex with
    | none => rfl
    | some n => rfl
  simp only [toJson, contentMembers, Form.toMembers, Json.allMembersWellFormed, Json.wellFormed,
    hbody, hsource, Bool.and_self]

/-- **A draft is read back as it was.** -/
theorem ofJson?_toJson (draft : Draft) : ofJson? draft.toJson = some draft := by
  unfold ofJson?
  rw [if_pos draft.wellFormed_toJson]
  exact draft.ofMembers?_toMembers

end Draft

end

end BudgetNotes
