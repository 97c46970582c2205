import BudgetNotes.Template.Codec

/-!
# Members of objects

Reading an object looks at the values of some keys, and at nothing else
(`SameBut`: two lists of members that agree except at some keys). So a member
that was written is read back if its key was written once, whatever stands
around it; and an optional one that was left out is read as missing. A list is
read item by item.

Main statements: `required_of_valuesAt` and `optionalOfMembers?_of_valuesAt`.
-/

namespace BudgetNotes

namespace Json

variable {α : Type} {key : String} {v : Json} {members : List (String × Json)}

/-! ## Values of a key -/

/-- No key has a value in an empty object. -/
@[simp] theorem valuesAt_nil (key : String) : valuesAt key [] = [] := rfl

/-- The first member gives its value to its own key and to no other. -/
@[simp] theorem valuesAt_cons (key k : String) (v : Json) (rest : List (String × Json)) :
    valuesAt key ((k, v) :: rest) =
      if k = key then v :: valuesAt key rest else valuesAt key rest := by
  unfold valuesAt
  by_cases h : k = key
  · rw [if_pos h]
    exact List.filterMap_cons_some (if_pos h)
  · rw [if_neg h]
    exact List.filterMap_cons_none (if_neg h)

/-- The values of a key come in the order of the members. -/
@[simp] theorem valuesAt_append (key : String) (a b : List (String × Json)) :
    valuesAt key (a ++ b) = valuesAt key a ++ valuesAt key b :=
  List.filterMap_append

/-- A member that may be missing has at most one value, at its own key. -/
@[simp] theorem valuesAt_optionalMember (key k : String) (encode : α → Json) (o : Option α) :
    valuesAt key (optionalMember k encode o) = if k = key then (o.map encode).toList else [] := by
  cases o with
  | none => exact (ite_self []).symm
  | some a => exact valuesAt_cons key k (encode a) []

/-! ## Reading a member -/

/-- A member that is there once is decoded, whatever stands around it. -/
theorem required_of_valuesAt (h : valuesAt key members = [v]) (decode : Json → Option α) :
    required members key decode = decode v := by
  unfold required
  rw [h]

/-- The same for a member that may be missing. -/
theorem optional_of_valuesAt (h : valuesAt key members = [v]) (absent : α)
    (decode : Json → Option α) : optional members key absent decode = decode v := by
  unfold optional
  rw [h]

/-- A member that is missing is read as what stands for that. -/
theorem optional_of_absent (h : valuesAt key members = []) (absent : α)
    (decode : Json → Option α) : optional members key absent decode = some absent := by
  unfold optional
  rw [h]

/-- Only null is read as none, before a value is decoded. -/
theorem nullable_of_ne_null (h : v ≠ null) (decode : Json → Option α) :
    nullable decode v = (decode v).map some := by
  cases v with
  | null => exact absurd rfl h
  | _ => rfl

/-- An optional member is read back: as missing if it was left out, else as what its value is read
as. -/
theorem optionalOfMembers?_of_valuesAt {β : Type} {encode : α → Json} {o : Option α}
    (h : valuesAt key members = (o.map encode).toList) (hnull : ∀ a, encode a ≠ null)
    {decode : Json → Option β} {f : α → β} (hdecode : ∀ a ∈ o, decode (encode a) = some (f a)) :
    optionalOfMembers? members key decode = some (o.map f) := by
  unfold optionalOfMembers?
  cases o with
  | none => exact optional_of_absent h none _
  | some a =>
    rw [optional_of_valuesAt h, nullable_of_ne_null (hnull a), hdecode a rfl]
    rfl

/-- What was read of a member was decoded from some value. -/
theorem exists_of_required {decode : Json → Option α} {a : α}
    (h : required members key decode = some a) : ∃ v, decode v = some a := by
  unfold required at h
  split at h
  next v _ => exact ⟨v, h⟩
  next => cases h

/-- The same for what was read of a member that may be missing. -/
theorem exists_of_optionalOfMembers? {decode : Json → Option α} {o : Option α}
    (h : optionalOfMembers? members key decode = some o) {a : α} (ha : a ∈ o) :
    ∃ v, decode v = some a := by
  unfold optionalOfMembers? optional at h
  split at h
  next =>
    cases h
    cases ha
  next v _ =>
    unfold nullable at h
    split at h
    next =>
      cases h
      cases ha
    next =>
      obtain ⟨b, hb, rfl⟩ := Option.map_eq_some_iff.mp h
      cases ha
      exact ⟨v, hb⟩
  next => cases h

/-! ## What is not looked at -/

/-- Two lists of members have the same values at all keys but some. -/
def SameBut (keys : List String) (a b : List (String × Json)) : Prop :=
  ∀ key, key ∉ keys → valuesAt key a = valuesAt key b

namespace SameBut

variable {keys : List String} {written : List (String × Json)}

/-- Members agree with themselves at every key. -/
theorem refl (keys : List String) (members : List (String × Json)) : SameBut keys members members :=
  fun _ _ => rfl

/-- A member more does not matter at other keys. -/
theorem cons {k : String} (hk : k ∈ keys) (h : SameBut keys members written) (v : Json) :
    SameBut keys ((k, v) :: members) written := by
  intro key hkey
  have hne : k ≠ key := fun heq => hkey (heq ▸ hk)
  rw [valuesAt_cons, if_neg hne, h key hkey]

/-- A member that was written is read back. -/
theorem required (h : SameBut keys members written) (v : Json) (hkey : key ∉ keys)
    (hwritten : valuesAt key written = [v]) {decode : Json → Option α} {a : α}
    (hdecode : decode v = some a) : Json.required members key decode = some a := by
  rw [required_of_valuesAt ((h key hkey).trans hwritten), hdecode]

/-- The same for a member that may be missing. -/
theorem optional (h : SameBut keys members written) (v : Json) (hkey : key ∉ keys)
    (hwritten : valuesAt key written = [v]) {absent : α} {decode : Json → Option α} {a : α}
    (hdecode : decode v = some a) : Json.optional members key absent decode = some a := by
  rw [optional_of_valuesAt ((h key hkey).trans hwritten), hdecode]

end SameBut

/-! ## Values that denote something -/

/-- Members denote something if those of both lists do. -/
theorem allMembersWellFormed_append (a b : List (String × Json)) :
    allMembersWellFormed (a ++ b) = (allMembersWellFormed a && allMembersWellFormed b) := by
  induction a with
  | nil => rfl
  | cons m a ih =>
    rw [List.cons_append, allMembersWellFormed, allMembersWellFormed, ih, Bool.and_assoc]

/-- A member that may be missing denotes something if its values do. -/
theorem allMembersWellFormed_optionalMember {encode : α → Json}
    (h : ∀ a, (encode a).wellFormed = true) (k : String) (o : Option α) :
    allMembersWellFormed (optionalMember k encode o) = true := by
  cases o with
  | none => rfl
  | some a =>
    rw [optionalMember, allMembersWellFormed, h a]
    rfl

/-! ## Lists of values -/

variable {β : Type}

/-- A list is read back if each of its items is. -/
theorem asList?_map {encode : α → Json} {decode : Json → Option β} {g : α → β} {l : List α}
    (h : ∀ a ∈ l, decode (encode a) = some (g a)) :
    asList? decode (.arr (l.map encode)) = some (l.map g) := by
  show (l.map encode).mapM decode = some (l.map g)
  induction l with
  | nil => rfl
  | cons a l ih =>
    obtain ⟨ha, hl⟩ := List.forall_mem_cons.mp h
    rw [List.map_cons, List.mapM_cons, ha, ih hl]
    rfl

/-- A list is read from an array, item by item. -/
theorem exists_of_asList? {decode : Json → Option α} {l : List α}
    (h : asList? decode v = some l) :
    ∃ items, v = .arr items ∧ items.length = l.length := by
  cases v with
  | arr items =>
    refine ⟨items, rfl, ?_⟩
    replace h : items.mapM decode = some l := h
    induction items generalizing l with
    | nil =>
      cases h
      rfl
    | cons item items ih =>
      rw [List.mapM_cons] at h
      obtain ⟨a, _, h⟩ := Option.bind_eq_some_iff.mp h
      obtain ⟨rest, hrest, h⟩ := Option.bind_eq_some_iff.mp h
      cases h
      rw [List.length_cons, List.length_cons, ih hrest]
  | _ => cases h

end Json

end BudgetNotes
