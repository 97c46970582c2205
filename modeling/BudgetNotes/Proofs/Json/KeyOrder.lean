import BudgetNotes.Json.Printer
import BudgetNotes.Proofs.Json.Members

/-!
# The order of members

Values are printed with the members of every object in the order of their keys.
The order is stable, so the values of a key stay in their order, and an object
is read by the values of its keys alone. So what was printed is read as if its
members stood where they were:

> `valuesAt_sortedMembers`: a key has the same values, sorted themselves.

That is all that a reader of members can see (`SortsTo`), so a reader that does
not look at the order of members (`IgnoresOrder`) is made of such readers,
member by member.

Main statements: `valuesAt_sortedMembers`, `sortKeys_sortKeys` and the laws of
`IgnoresOrder`.
-/

namespace BudgetNotes.Json

/-- The members of an object in the order of their keys, and so within them. -/
def sortedMembers (members : List (String × Json)) : List (String × Json) :=
  (sortKeysMembers members).mergeSort fun a b => a.1 ≤ b.1

/-- Sorting an object sorts its members. -/
theorem sortKeys_obj (members : List (String × Json)) :
    (obj members).sortKeys = obj (sortedMembers members) := by
  rw [sortKeys]
  rfl

/-- The items of an array stay where they are. -/
theorem sortKeysItems_eq_map (items : List Json) : sortKeysItems items = items.map sortKeys := by
  induction items with
  | nil => rfl
  | cons v items ih => rw [sortKeysItems, ih, List.map_cons]

/-- Sorting within the members moves none of them. -/
theorem sortKeysMembers_eq_map (members : List (String × Json)) :
    sortKeysMembers members = members.map fun m => (m.1, m.2.sortKeys) := by
  induction members with
  | nil => rfl
  | cons m members ih => rw [sortKeysMembers, ih, List.map_cons]

/-- No member is lost. -/
theorem length_sortedMembers (members : List (String × Json)) :
    (sortedMembers members).length = members.length := by
  rw [sortedMembers, List.length_mergeSort, sortKeysMembers_eq_map, List.length_map]

/-! ## Sorting by keys -/

/-- The order of keys is transitive, as the sort asks for. -/
theorem keyLe_trans (a b c : String × Json) (hab : decide (a.1 ≤ b.1) = true)
    (hbc : decide (b.1 ≤ c.1) = true) : decide (a.1 ≤ c.1) = true :=
  decide_eq_true (String.le_trans (of_decide_eq_true hab) (of_decide_eq_true hbc))

/-- Any two keys are in order. -/
theorem keyLe_total (a b : String × Json) : (decide (a.1 ≤ b.1) || decide (b.1 ≤ a.1)) = true := by
  rw [Bool.or_eq_true, decide_eq_true_eq, decide_eq_true_eq]
  exact String.le_total a.1 b.1

/-- The values of a key are those of the members that have it. -/
theorem valuesAt_eq_filter (key : String) (members : List (String × Json)) :
    valuesAt key members = (members.filter fun m => m.1 = key).map Prod.snd := by
  induction members with
  | nil => rfl
  | cons m members ih =>
    obtain ⟨k, v⟩ := m
    rw [valuesAt_cons, ih, List.filter_cons]
    by_cases hk : k = key <;> simp [hk]

/-- Members with the same key stay in their order. -/
theorem filter_key_mergeSort (key : String) (members : List (String × Json)) :
    (members.mergeSort fun a b => a.1 ≤ b.1).filter (fun m => m.1 = key) =
      members.filter fun m => m.1 = key := by
  have hsame : (members.filter fun m => m.1 = key).Pairwise
      fun a b => decide (a.1 ≤ b.1) = true := by
    refine List.pairwise_of_forall_mem_list fun a ha b hb => ?_
    have hab : a.1 = b.1 := by
      rw [of_decide_eq_true (List.mem_filter.mp ha).2, of_decide_eq_true (List.mem_filter.mp hb).2]
    exact decide_eq_true (hab ▸ String.le_refl a.1)
  -- they are in order before, so they stand among the sorted members in that order
  have hsub := (List.sublist_mergeSort keyLe_trans keyLe_total hsame List.filter_sublist).filter
    fun m => decide (m.1 = key)
  rw [List.filter_filter] at hsub
  simp only [Bool.and_self] at hsub
  exact (hsub.eq_of_length (((List.mergeSort_perm members _).filter _).length_eq).symm).symm

/-- Sorting within the members sorts the values of a key. -/
theorem valuesAt_sortKeysMembers (key : String) (members : List (String × Json)) :
    valuesAt key (sortKeysMembers members) = (valuesAt key members).map sortKeys := by
  induction members with
  | nil => rfl
  | cons m members ih =>
    obtain ⟨k, v⟩ := m
    rw [sortKeysMembers, valuesAt_cons, valuesAt_cons, ih]
    split <;> rfl

/-- A key has the same values among sorted members, in the same order. -/
theorem valuesAt_sortedMembers (key : String) (members : List (String × Json)) :
    valuesAt key (sortedMembers members) = (valuesAt key members).map sortKeys := by
  rw [valuesAt_eq_filter, sortedMembers, filter_key_mergeSort, ← valuesAt_eq_filter,
    valuesAt_sortKeysMembers]

mutual

/-- Sorted members are sorted. -/
theorem sortKeys_sortKeys : ∀ v : Json, v.sortKeys.sortKeys = v.sortKeys
  | null | bool _ | int _ | float .. | str _ | malformed => rfl
  | arr items => by
    rw [sortKeys, sortKeys, sortKeysItems_sortKeysItems items]
  | obj members => by
    have hkeys : ∀ l : List (String × Json),
        sortKeysMembers (l.mergeSort fun a b => a.1 ≤ b.1) =
          (sortKeysMembers l).mergeSort fun a b => a.1 ≤ b.1 := by
      intro l
      rw [sortKeysMembers_eq_map, sortKeysMembers_eq_map]
      exact List.map_mergeSort fun a _ b _ => rfl
    rw [sortKeys, sortKeys, hkeys, sortKeysMembers_sortKeysMembers members,
      List.mergeSort_of_pairwise (List.pairwise_mergeSort keyLe_trans keyLe_total _)]

/-- Sorted items are sorted. -/
theorem sortKeysItems_sortKeysItems : ∀ items : List Json,
    sortKeysItems (sortKeysItems items) = sortKeysItems items
  | [] => rfl
  | v :: items => by
    rw [sortKeysItems, sortKeysItems, sortKeys_sortKeys v, sortKeysItems_sortKeysItems items]

/-- What was sorted within the members is sorted. -/
theorem sortKeysMembers_sortKeysMembers : ∀ members : List (String × Json),
    sortKeysMembers (sortKeysMembers members) = sortKeysMembers members
  | [] => rfl
  | (key, v) :: members => by
    rw [sortKeysMembers, sortKeysMembers, sortKeys_sortKeys v,
      sortKeysMembers_sortKeysMembers members]

end

/-! ## Values that denote something -/

/-- The members denote something each by itself, so their order does not count. -/
theorem allMembersWellFormed_eq_all (members : List (String × Json)) :
    allMembersWellFormed members = members.all fun m => m.2.wellFormed := by
  induction members with
  | nil => rfl
  | cons m members ih => rw [allMembersWellFormed, ih, List.all_cons]

mutual

/-- Sorting neither mends nor breaks a value. -/
theorem wellFormed_sortKeys : ∀ v : Json, v.sortKeys.wellFormed = v.wellFormed
  | null | bool _ | int _ | float .. | str _ | malformed => rfl
  | arr items => by
    rw [sortKeys, wellFormed, wellFormed, allWellFormed_sortKeysItems items]
  | obj members => by
    have hperm : (sortedMembers members).Perm (sortKeysMembers members) :=
      List.mergeSort_perm _ _
    rw [sortKeys_obj, wellFormed, wellFormed, allMembersWellFormed_eq_all, hperm.all_eq,
      ← allMembersWellFormed_eq_all, allMembersWellFormed_sortKeysMembers members]

/-- Nor does it mend or break an item. -/
theorem allWellFormed_sortKeysItems : ∀ items : List Json,
    allWellFormed (sortKeysItems items) = allWellFormed items
  | [] => rfl
  | v :: items => by
    rw [sortKeysItems, allWellFormed, allWellFormed, wellFormed_sortKeys v,
      allWellFormed_sortKeysItems items]

/-- Nor a member. -/
theorem allMembersWellFormed_sortKeysMembers : ∀ members : List (String × Json),
    allMembersWellFormed (sortKeysMembers members) = allMembersWellFormed members
  | [] => rfl
  | (key, v) :: members => by
    rw [sortKeysMembers, allMembersWellFormed, allMembersWellFormed, wellFormed_sortKeys v,
      allMembersWellFormed_sortKeysMembers members]

end

/-! ## Readers of members -/

variable {α β : Type} {a b : List (String × Json)}

/-- Every key has the same values in both lists of members, those of `b` with their own members in
order. -/
def SortsTo (a b : List (String × Json)) : Prop :=
  ∀ key, valuesAt key b = (valuesAt key a).map sortKeys

/-- The members of an object have the same values after sorting. -/
theorem sortsTo_sortedMembers (members : List (String × Json)) :
    SortsTo members (sortedMembers members) :=
  fun key => valuesAt_sortedMembers key members

/-- The items of an array stay with their fields. -/
theorem sortsTo_zip (fields : List String) (items : List Json) :
    SortsTo (fields.zip items) (fields.zip (sortKeysItems items)) := by
  have hzip : fields.zip (sortKeysItems items) = sortKeysMembers (fields.zip items) := by
    rw [sortKeysItems_eq_map, sortKeysMembers_eq_map, List.zip_map_right]
    rfl
  intro key
  rw [hzip, valuesAt_sortKeysMembers]

/-- Whether a value is read the same with its members in the order of their keys. -/
def IgnoresOrder (decode : Json → Option α) : Prop := ∀ v : Json, decode v.sortKeys = decode v

namespace SortsTo

/-- A required member is read the same. -/
theorem required (h : SortsTo a b) {decode : Json → Option α} (hdecode : IgnoresOrder decode)
    (key : String) : required b key decode = Json.required a key decode := by
  unfold Json.required
  rw [h key]
  match valuesAt key a with
  | [] => rfl
  | [v] => exact hdecode v
  | _ :: _ :: _ => rfl

/-- So is a member that may be left out. -/
theorem optional (h : SortsTo a b) {decode : Json → Option α} (hdecode : IgnoresOrder decode)
    (key : String) (absent : α) :
    optional b key absent decode = Json.optional a key absent decode := by
  unfold Json.optional
  rw [h key]
  match valuesAt key a with
  | [] => rfl
  | [v] => exact hdecode v
  | _ :: _ :: _ => rfl

end SortsTo

/-! ## Readers of values -/

namespace IgnoresOrder

/-- Values that differ in the order of members alone are read the same. -/
theorem eq_of_sortKeys_eq {decode : Json → Option α} (h : IgnoresOrder decode) {v v' : Json}
    (heq : v.sortKeys = v'.sortKeys) : decode v = decode v' := by
  rw [← h v, heq, h v']

/-- What is done with a value that was read does not look at the order again. -/
@[simp] theorem bind {decode : Json → Option α} (h : IgnoresOrder decode) (f : α → Option β) :
    IgnoresOrder fun v => (decode v).bind f := by
  intro v
  show (decode v.sortKeys).bind f = _
  rw [h v]

@[simp] theorem map {decode : Json → Option α} (h : IgnoresOrder decode) (f : α → β) :
    IgnoresOrder fun v => (decode v).map f := by
  intro v
  show (decode v.sortKeys).map f = _
  rw [h v]

@[simp] theorem filter {decode : Json → Option α} (h : IgnoresOrder decode) (p : α → Bool) :
    IgnoresOrder fun v => (decode v).filter p := by
  intro v
  show (decode v.sortKeys).filter p = _
  rw [h v]

/-- Null has no members. -/
@[simp] theorem nullable {decode : Json → Option α} (h : IgnoresOrder decode) :
    IgnoresOrder (nullable decode) := by
  intro v
  cases v with
  | null => rfl
  | _ => exact congrArg (Option.map some) (h _)

/-- A list is read item by item. -/
@[simp] theorem asList? {decode : Json → Option α} (h : IgnoresOrder decode) :
    IgnoresOrder (asList? decode) := by
  intro v
  cases v with
  | arr items =>
    have hdecode : decode ∘ sortKeys = decode := funext h
    show (sortKeysItems items).mapM decode = items.mapM decode
    rw [sortKeysItems_eq_map, List.mapM_map, hdecode]
  | _ => rfl

end IgnoresOrder

@[simp] theorem ignoresOrder_asText? : IgnoresOrder asText? := by
  intro v
  cases v <;> rfl

@[simp] theorem ignoresOrder_asBool? : IgnoresOrder asBool? := by
  intro v
  cases v <;> rfl

@[simp] theorem ignoresOrder_asInt? : IgnoresOrder asInt? := by
  intro v
  cases v <;> rfl

@[simp] theorem ignoresOrder_asNat? : IgnoresOrder asNat? := by
  intro v
  cases v <;> rfl

@[simp] theorem isNull_sortKeys (v : Json) : v.sortKeys.isNull = v.isNull := by
  cases v <;> rfl

/-- An object without members has none when sorted, and only then. -/
@[simp] theorem isNothing_sortKeys (v : Json) : v.sortKeys.isNothing = v.isNothing := by
  cases v with
  | obj members =>
    have hlength := length_sortedMembers members
    rw [sortKeys_obj]
    cases members with
    | nil => rw [List.length_eq_zero_iff.mp hlength]
    | cons m members =>
      obtain ⟨m', members', hsorted⟩ := List.exists_cons_of_length_eq_add_one hlength
      rw [hsorted]
      rfl
  | _ => rfl

/-- A single member has nowhere to go, so the name of a choice is read the same. -/
@[simp] theorem ignoresOrder_asName? {isEmpty : Json → Bool}
    (h : ∀ v : Json, isEmpty v.sortKeys = isEmpty v) : IgnoresOrder (asName? isEmpty) := by
  intro v
  cases v with
  | obj members =>
    have hlength := length_sortedMembers members
    rw [sortKeys_obj]
    match members with
    | [] => rw [List.length_eq_zero_iff.mp hlength]
    | [(name, v)] =>
      have hsingle : sortedMembers [(name, v)] = [(name, v.sortKeys)] := List.mergeSort_singleton _
      rw [hsingle, asName?, asName?, h v]
    | m :: m' :: members =>
      obtain ⟨n, rest, hsorted⟩ := List.exists_cons_of_length_eq_add_one hlength
      rw [hsorted] at hlength ⊢
      obtain ⟨n', rest', hrest⟩ :=
        List.exists_cons_of_length_eq_add_one (Nat.succ.inj hlength)
      rw [hrest]
      rfl
  | _ => rfl

/-- A reader of members by their keys is a reader of objects. -/
theorem ignoresOrder_of_members {read : List (String × Json) → Option α}
    (h : ∀ a b, SortsTo a b → read b = read a) : IgnoresOrder fun v => v.asMembers?.bind read := by
  intro v
  cases v with
  | obj members =>
    rw [sortKeys_obj]
    exact h members _ (sortsTo_sortedMembers members)
  | _ => rfl

/-- And a reader of records. -/
theorem ignoresOrder_of_record (fields : List String) {read : List (String × Json) → Option α}
    (h : ∀ a b, SortsTo a b → read b = read a) :
    IgnoresOrder fun v => (v.asRecord? fields).bind read := by
  intro v
  cases v with
  | obj members =>
    rw [sortKeys_obj]
    exact h members _ (sortsTo_sortedMembers members)
  | arr items =>
    have hlength : (sortKeysItems items).length = items.length := by
      rw [sortKeysItems_eq_map, List.length_map]
    show (if (sortKeysItems items).length ≤ fields.length then
        some (fields.zip (sortKeysItems items)) else none).bind read =
      (if items.length ≤ fields.length then some (fields.zip items) else none).bind read
    rw [hlength]
    split
    next => exact h (fields.zip items) _ (sortsTo_zip fields items)
    next => rfl
  | _ => rfl

end BudgetNotes.Json
