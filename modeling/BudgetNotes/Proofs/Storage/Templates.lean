import BudgetNotes.Proofs.Json.Members
import BudgetNotes.Proofs.Storage.Values

/-!
# Stored templates

A template is read back from the members it is stored as, also where the
members of its directive stand among them: none of these has a key of the
template's own. Storage tells a month by four digits of its year, and what is
read has no other months (`Template.Storable`), so nothing that was read is
lost.

Main statements: `Template.ofMembers?_of_sameBut` and
`Template.storable_of_ofMembers?`.
-/

namespace BudgetNotes

/-- The keys that are not the template's own. -/
def headerKeys : List String := ["directive", "priority", "type"]

/-! ## Parts -/

/-- A limit as it is read back. -/
def SpendingLimit.settled (spec : SpendingLimit) : SpendingLimit :=
  { spec with amount := spec.amount.settled }

@[simp] theorem SpendingLimit.normalize_settled (spec : SpendingLimit) :
    spec.settled.normalize = spec.normalize := by
  unfold settled normalize
  rw [Money.normalize_settled]

theorem SpendingLimit.ofMembers?_of_sameBut {members : List (String × Json)}
    (spec : SpendingLimit) (h : Json.SameBut headerKeys members spec.toMembers) :
    ofMembers? members = some spec.settled := by
  have hamount : Json.required members "amount" Money.ofJson? = some spec.amount.settled :=
    h.required spec.amount.toJson (by decide) (by simp [toMembers]) spec.amount.ofJson?_toJson
  have hhold : Json.optional members "hold" false Json.asBool? = some spec.hold :=
    h.optional (.bool spec.hold) (by decide) (by simp [toMembers]) rfl
  have hperiod : Json.required members "period" (choiceOfJson? LimitPeriod.ofWord?) =
      some spec.period :=
    h.required (.str spec.period.word) (by decide) (by simp [toMembers]) spec.period.ofWord?_word
  have hstart : optionalOfMembers? members "start" Date.ofJson? = some (spec.start.map id) :=
    Json.optionalOfMembers?_of_valuesAt ((h "start" (by decide)).trans (by simp [toMembers]))
      (fun d => by simp [Date.toJson]) fun d _ => d.ofJson?_toJson
  unfold ofMembers?
  rw [hamount, hhold, hperiod, hstart, Option.map_id]
  rfl

@[simp] theorem SpendingLimit.ofJson?_toJson (spec : SpendingLimit) :
    ofJson? spec.toJson = some spec.settled :=
  ofMembers?_of_sameBut spec (.refl headerKeys spec.toMembers)

@[simp] theorem Interval.ofJson?_toJson (spec : Interval) : ofJson? spec.toJson = some spec := by
  simp [ofJson?, toJson, Json.asRecord?, Json.required, choiceOfJson?, Json.asName?]

@[simp] theorem Recurrence.ofJson?_toJson (spec : Recurrence) :
    ofJson? spec.toJson = some spec := by
  simp [ofJson?, toJson, Json.asRecord?, Json.required, choiceOfJson?, Json.asName?]

/-! ## Templates -/

namespace Template

/-- A template as it is read back. -/
def settled : Template → Template
  | simple monthly lim => simple monthly.settled (lim.map SpendingLimit.settled)
  | percentage percent category previous => percentage percent.settled category previous
  | periodic amount period starting lim =>
    periodic amount.settled period starting (lim.map SpendingLimit.settled)
  | saveBy amount month recurrence => saveBy amount.settled month recurrence
  | spend amount month fromMonth recurrence => spend amount.settled month fromMonth recurrence
  | schedule name adjustment full => schedule name (adjustment.map Decimal.settled) full
  | average n => average n
  | copy n => copy n
  | remainder weight lim => remainder weight.settled (lim.map SpendingLimit.settled)
  | limit spec => limit spec.settled
  | goal amount => goal amount.settled

/-- It is the same template, numbers compared by value. -/
theorem normalize_settled (t : Template) : t.settled.normalize = t.normalize := by
  have hlimit : SpendingLimit.normalize ∘ SpendingLimit.settled = SpendingLimit.normalize :=
    funext SpendingLimit.normalize_settled
  have hdecimal : Decimal.normalize ∘ Decimal.settled = Decimal.normalize :=
    funext Decimal.normalize_settled
  cases t <;> simp [settled, normalize, hlimit, hdecimal]

/-- Whether the years of its months have four digits. -/
def Storable : Template → Prop
  | saveBy _ month _ => FourDigitYear month.year
  | spend _ month fromMonth _ =>
    FourDigitYear month.year ∧ ∀ m ∈ fromMonth, FourDigitYear m.year
  | _ => True

section

variable {members : List (String × Json)}

/-- A limit among the members is read back. -/
theorem optionalLimit_of_valuesAt (lim : Option SpendingLimit)
    (h : Json.valuesAt "limit" members = (lim.map SpendingLimit.toJson).toList) :
    optionalOfMembers? members "limit" SpendingLimit.ofJson? =
      some (lim.map SpendingLimit.settled) :=
  Json.optionalOfMembers?_of_valuesAt h (fun spec => by simp [SpendingLimit.toJson])
    fun spec _ => spec.ofJson?_toJson

/-- How often a target repeats, among the members, is read back. -/
theorem optionalRecurrence_of_valuesAt (recurrence : Option Recurrence)
    (h : Json.valuesAt "repeat" members = (recurrence.map Recurrence.toJson).toList) :
    optionalOfMembers? members "repeat" Recurrence.ofJson? = some recurrence := by
  have hread := Json.optionalOfMembers?_of_valuesAt h (fun spec => by simp [Recurrence.toJson])
    (f := id) fun spec _ => spec.ofJson?_toJson
  rwa [Option.map_id] at hread

/-- A template is read back from its body. -/
theorem ofKindMembers?_of_sameBut {t : Template} (ht : t.Storable)
    (h : Json.SameBut headerKeys members t.bodyMembers) :
    ofKindMembers? members t.kind = some t.settled := by
  cases t with
  | simple monthly lim =>
    have hmonthly : Json.required members "monthly" Money.ofJson? = some monthly.settled :=
      h.required monthly.toJson (by decide) (by simp [bodyMembers]) monthly.ofJson?_toJson
    have hlim :=
      optionalLimit_of_valuesAt lim ((h "limit" (by decide)).trans (by simp [bodyMembers]))
    rw [kind, ofKindMembers?, hmonthly, hlim]
    rfl
  | percentage percent category previous =>
    have hpercent : Json.required members "percent" Decimal.ofJson? = some percent.settled :=
      h.required percent.toJson (by decide) (by simp [bodyMembers]) percent.ofJson?_toJson
    have hcategory : Json.required members "category" Json.asText? = some category :=
      h.required (.str category) (by decide) (by simp [bodyMembers]) rfl
    have hprevious : Json.optional members "previous" false Json.asBool? = some previous :=
      h.optional (.bool previous) (by decide) (by simp [bodyMembers]) rfl
    rw [kind, ofKindMembers?, hpercent, hcategory, hprevious]
    rfl
  | periodic amount period starting lim =>
    have hamount : Json.required members "amount" Money.ofJson? = some amount.settled :=
      h.required amount.toJson (by decide) (by simp [bodyMembers]) amount.ofJson?_toJson
    have hperiod : Json.optional members "period" Interval.monthly Interval.ofJson? = some period :=
      h.optional period.toJson (by decide) (by simp [bodyMembers]) period.ofJson?_toJson
    have hstarting : Json.required members "starting" Date.ofJson? = some starting :=
      h.required starting.toJson (by decide) (by simp [bodyMembers]) starting.ofJson?_toJson
    have hlim :=
      optionalLimit_of_valuesAt lim ((h "limit" (by decide)).trans (by simp [bodyMembers]))
    rw [kind, ofKindMembers?, hamount, hperiod, hstarting, hlim]
    rfl
  | saveBy amount month recurrence =>
    have hamount : Json.required members "amount" Money.ofJson? = some amount.settled :=
      h.required amount.toJson (by decide) (by simp [bodyMembers]) amount.ofJson?_toJson
    have hmonth : Json.required members "month" BudgetMonth.ofJson? = some month :=
      h.required month.toJson (by decide) (by simp [bodyMembers]) (BudgetMonth.ofJson?_toJson ht)
    have hrecurrence := optionalRecurrence_of_valuesAt recurrence
      ((h "repeat" (by decide)).trans (by simp [bodyMembers]))
    rw [kind, ofKindMembers?, hamount, hmonth, hrecurrence]
    rfl
  | spend amount month fromMonth recurrence =>
    have hamount : Json.required members "amount" Money.ofJson? = some amount.settled :=
      h.required amount.toJson (by decide) (by simp [bodyMembers]) amount.ofJson?_toJson
    have hmonth : Json.required members "month" BudgetMonth.ofJson? = some month :=
      h.required month.toJson (by decide) (by simp [bodyMembers])
        (BudgetMonth.ofJson?_toJson ht.1)
    have hfrom : optionalOfMembers? members "from" BudgetMonth.ofJson? =
        some (fromMonth.map id) :=
      Json.optionalOfMembers?_of_valuesAt
        ((h "from" (by decide)).trans (by simp [bodyMembers]))
        (fun m => by simp [BudgetMonth.toJson]) fun m hm => BudgetMonth.ofJson?_toJson (ht.2 m hm)
    have hrecurrence := optionalRecurrence_of_valuesAt recurrence
      ((h "repeat" (by decide)).trans (by simp [bodyMembers]))
    rw [kind, ofKindMembers?, hamount, hmonth, hfrom, hrecurrence, Option.map_id]
    rfl
  | schedule name adjustment full =>
    have hname : Json.required members "name" Json.asText? = some name :=
      h.required (.str name) (by decide) (by simp [bodyMembers]) rfl
    have hadjustment : optionalOfMembers? members "adjustment" Decimal.ofJson? =
        some (adjustment.map Decimal.settled) :=
      Json.optionalOfMembers?_of_valuesAt
        ((h "adjustment" (by decide)).trans (by simp [bodyMembers]))
        (fun x => by simp [Decimal.toJson]) fun x _ => x.ofJson?_toJson
    have hfull : Json.optional members "full" false Json.asBool? = some full :=
      h.optional (.bool full) (by decide) (by simp [bodyMembers]) rfl
    rw [kind, ofKindMembers?, hname, hadjustment, hfull]
    rfl
  | average n =>
    have hcount : Json.required members "numMonths" countOfJson? = some n :=
      h.required (countToJson n) (by decide) (by simp [bodyMembers]) (countOfJson?_countToJson n)
    rw [kind, ofKindMembers?, hcount]
    rfl
  | copy n =>
    have hcount : Json.required members "lookBack" countOfJson? = some n :=
      h.required (countToJson n) (by decide) (by simp [bodyMembers]) (countOfJson?_countToJson n)
    rw [kind, ofKindMembers?, hcount]
    rfl
  | remainder weight lim =>
    have hweight : Json.required members "weight" Decimal.ofJson? = some weight.settled :=
      h.required weight.toJson (by decide) (by simp [bodyMembers]) weight.ofJson?_toJson
    have hlim :=
      optionalLimit_of_valuesAt lim ((h "limit" (by decide)).trans (by simp [bodyMembers]))
    rw [kind, ofKindMembers?, hweight, hlim]
    rfl
  | limit spec =>
    rw [kind, ofKindMembers?, SpendingLimit.ofMembers?_of_sameBut spec h]
    rfl
  | goal amount =>
    have hamount : Json.required members "amount" Money.ofJson? = some amount.settled :=
      h.required amount.toJson (by decide) (by simp [bodyMembers]) amount.ofJson?_toJson
    rw [kind, ofKindMembers?, hamount]
    rfl

/-- A template has none of the header's keys among its own. -/
theorem valuesAt_bodyMembers {key : String} (h : key ∈ headerKeys) (t : Template) :
    Json.valuesAt key t.bodyMembers = [] := by
  simp only [headerKeys, List.mem_cons, List.not_mem_nil, or_false] at h
  rcases h with rfl | rfl | rfl <;> cases t <;> simp [bodyMembers, SpendingLimit.toMembers]

/-- **A template is read back from its members**, whatever else its directive has. -/
theorem ofMembers?_of_sameBut {t : Template} (ht : t.Storable)
    (h : Json.SameBut ["directive", "priority"] members t.toMembers) :
    ofMembers? members = some t.settled := by
  have hbody : Json.SameBut headerKeys members t.bodyMembers := by
    intro key hkey
    have hne : "type" ≠ key := by
      rintro rfl
      exact hkey (by decide)
    have hother : key ∉ ["directive", "priority"] :=
      fun hmem => hkey (List.mem_append_left ["type"] hmem)
    rw [h key hother, toMembers, Json.valuesAt_cons, if_neg hne]
  have htype : Json.required members "type" TemplateKind.ofTag? = some t.kind := by
    refine h.required (.str t.kind.name) (by decide) ?_ t.kind.ofName?_name
    rw [toMembers, Json.valuesAt_cons, if_pos rfl, valuesAt_bodyMembers (by decide)]
  unfold ofMembers?
  rw [htype]
  exact ofKindMembers?_of_sameBut ht hbody

/-- What a template is stored as denotes something throughout. -/
theorem wellFormed_bodyMembers (t : Template) :
    Json.allMembersWellFormed t.bodyMembers = true := by
  have hdate (d : Date) : d.toJson.wellFormed = true := rfl
  have hmonth (m : BudgetMonth) : m.toJson.wellFormed = true := rfl
  have hdecimal (x : Decimal) : x.toJson.wellFormed = true := rfl
  have hmoney (m : Money) : m.toJson.wellFormed = true := rfl
  have hcount (n : UInt32) : (countToJson n).wellFormed = true := rfl
  have hinterval (spec : Interval) : spec.toJson.wellFormed = true := rfl
  have hrecurrence (spec : Recurrence) : spec.toJson.wellFormed = true := rfl
  have hspec (spec : SpendingLimit) : Json.allMembersWellFormed spec.toMembers = true := by
    rw [SpendingLimit.toMembers, Json.allMembersWellFormed_append,
      Json.allMembersWellFormed_optionalMember hdate]
    rfl
  have hlimit (spec : SpendingLimit) : spec.toJson.wellFormed = true := hspec spec
  cases t <;>
    simp [bodyMembers, Json.allMembersWellFormed, Json.wellFormed,
      Json.allMembersWellFormed_append, Json.allMembersWellFormed_optionalMember, hdate, hmonth,
      hdecimal, hmoney, hcount, hinterval, hrecurrence, hlimit, hspec]

/-! ## What is read -/

theorem storable_of_ofKindMembers? {kind : TemplateKind} {t : Template}
    (h : ofKindMembers? members kind = some t) : t.Storable := by
  cases kind with
  | saveBy =>
    obtain ⟨amount, _, h⟩ := Option.bind_eq_some_iff.mp h
    obtain ⟨month, hmonth, h⟩ := Option.bind_eq_some_iff.mp h
    obtain ⟨recurrence, _, h⟩ := Option.bind_eq_some_iff.mp h
    cases h
    obtain ⟨v, hv⟩ := Json.exists_of_required hmonth
    exact BudgetMonth.fourDigitYear_of_ofJson? hv
  | spend =>
    obtain ⟨amount, _, h⟩ := Option.bind_eq_some_iff.mp h
    obtain ⟨month, hmonth, h⟩ := Option.bind_eq_some_iff.mp h
    obtain ⟨fromMonth, hfrom, h⟩ := Option.bind_eq_some_iff.mp h
    obtain ⟨recurrence, _, h⟩ := Option.bind_eq_some_iff.mp h
    cases h
    obtain ⟨v, hv⟩ := Json.exists_of_required hmonth
    refine ⟨BudgetMonth.fourDigitYear_of_ofJson? hv, fun m hm => ?_⟩
    obtain ⟨w, hw⟩ := Json.exists_of_optionalOfMembers? hfrom hm
    exact BudgetMonth.fourDigitYear_of_ofJson? hw
  | average | copy | limit | goal =>
    -- the others have no month
    rw [ofKindMembers?, Option.map_eq_some_iff] at h
    obtain ⟨_, _, rfl⟩ := h
    trivial
  | simple | remainder =>
    simp only [ofKindMembers?, Option.bind_eq_bind, Option.bind_eq_some_iff] at h
    obtain ⟨_, _, _, _, h⟩ := h
    cases h
    trivial
  | percentage | schedule =>
    simp only [ofKindMembers?, Option.bind_eq_bind, Option.bind_eq_some_iff] at h
    obtain ⟨_, _, _, _, _, _, h⟩ := h
    cases h
    trivial
  | periodic =>
    simp only [ofKindMembers?, Option.bind_eq_bind, Option.bind_eq_some_iff] at h
    obtain ⟨_, _, _, _, _, _, _, _, h⟩ := h
    cases h
    trivial

/-- **What is read can be stored.** -/
theorem storable_of_ofMembers? {t : Template} (h : ofMembers? members = some t) : t.Storable := by
  obtain ⟨kind, _, h⟩ := Option.bind_eq_some_iff.mp h
  exact storable_of_ofKindMembers? h

end

end Template

end BudgetNotes
