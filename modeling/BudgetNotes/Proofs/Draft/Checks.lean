import BudgetNotes.Draft.Check

/-!
# What checks do

A check is known by its value and its problems, so two checks with the same
value, or none, and the same problems are the same check (`Check.ext`). What a
function does that checks its input is said exactly by the values it accepts
and the problem it reports of every other input (`Check.Exact`).

Of a single check two things are said. It *gives* a value with some property if
it succeeds with one, and it *ensures* a property of whatever it succeeds with.
Both pass through all ways to combine checks.

Main statements: `Check.ext`, `Check.Exact.congr`, and for the combinations
`Check.gives_map2` and `Check.Ensures.map2`.
-/

namespace BudgetNotes.Check

variable {ι α β γ : Type}

/-! ## Values -/

@[simp] theorem value?_ok (v : α) : (ok v).value? = some v := rfl

@[simp] theorem value?_failed (p : Problem) (ps : List Problem) :
    (failed p ps : Check α).value? = none := rfl

/-- A check that has a value is that value. -/
theorem value?_eq_some_iff {a : Check α} {v : α} : a.value? = some v ↔ a = .ok v := by
  cases a <;> simp

section

variable (a : Check α) (b : Check β)

/-- A pair has a value if both parts do. -/
@[simp] theorem value?_both :
    (both a b).value? = a.value?.bind fun x => b.value?.bind fun y => some (x, y) := by
  cases a <;> cases b <;> rfl

@[simp] theorem value?_map2 (f : α → β → γ) :
    (map2 f a b).value? = a.value?.bind fun x => b.value?.bind fun y => some (f x y) := by
  cases a <;> cases b <;> rfl

/-- A problem that is added leaves no value. -/
@[simp] theorem value?_addProblem (p : Problem) : (a.addProblem p : Check β).value? = none := by
  cases a <;> rfl

/-- Checks after one another can be grouped either way. -/
theorem andThen_assoc (f : α → Check β) (g : β → Check γ) :
    (a.andThen f).andThen g = a.andThen fun x => (f x).andThen g := by
  cases a <;> rfl

@[simp] theorem andThen_ok : a.andThen .ok = a := by
  cases a <;> rfl

/-- What the last value is turned into can be done inside. -/
theorem map_andThen (f : α → Check β) (g : β → γ) :
    (a.andThen f).map g = a.andThen fun x => (f x).map g := by
  cases a <;> rfl

end

/-- Checks that succeed with the same value, or fail with the same problems, are the same. -/
theorem ext {a b : Check α} (hok : ∀ v, a = .ok v ↔ b = .ok v)
    (hproblems : a.problems = b.problems) : a = b := by
  cases a with
  | ok v => exact ((hok v).mp rfl).symm
  | failed p ps =>
    cases b with
    | ok v => exact (hok v).mpr rfl
    | failed q qs =>
      obtain ⟨rfl, rfl⟩ := List.cons.inj hproblems
      rfl

/-! ## What a check gives -/

/-- The check succeeds, with a value that satisfies `p`. -/
def Gives (check : Check α) (p : α → Prop) : Prop := ∃ a, check = .ok a ∧ p a

@[simp] theorem gives_ok {a : α} {p : α → Prop} : (ok a).Gives p ↔ p a := by
  constructor
  · rintro ⟨b, hb, h⟩
    cases hb
    exact h
  · intro h
    exact ⟨a, rfl, h⟩

@[simp] theorem gives_failed {q : Problem} {qs : List Problem} {p : α → Prop} :
    (failed q qs).Gives p ↔ False := by
  refine ⟨?_, False.elim⟩
  rintro ⟨a, ha, _⟩
  cases ha

/-- Properties that are the same are given alike. -/
theorem gives_congr {a : Check α} {p q : α → Prop} (h : ∀ x, p x ↔ q x) :
    a.Gives p ↔ a.Gives q :=
  exists_congr fun x => and_congr_right fun _ => h x

/-- What does not depend on the value can be said apart. -/
theorem gives_and_right {a : Check α} {p : α → Prop} {q : Prop} :
    (a.Gives fun x => p x ∧ q) ↔ a.Gives p ∧ q := by
  cases a with
  | ok a => rw [gives_ok, gives_ok]
  | failed q' qs => rw [gives_failed, gives_failed, false_and]

/-- A problem that is added leaves nothing to give. -/
@[simp] theorem gives_addProblem {a : Check α} {q : Problem} {p : β → Prop} :
    (a.addProblem q).Gives p ↔ False := by
  cases a with
  | ok a => exact gives_failed
  | failed q' qs => exact gives_failed

@[simp] theorem gives_map {f : α → β} {a : Check α} {p : β → Prop} :
    (a.map f).Gives p ↔ a.Gives fun x => p (f x) := by
  cases a with
  | ok a => rw [map, gives_ok, gives_ok]
  | failed q qs => rw [map, gives_failed, gives_failed]

/-- A pair is given if both parts are. -/
@[simp] theorem gives_both {a : Check α} {b : Check β} {p : α × β → Prop} :
    (both a b).Gives p ↔ a.Gives fun x => b.Gives fun y => p (x, y) := by
  cases a with
  | ok a =>
    cases b with
    | ok b => rw [both, gives_ok, gives_ok, gives_ok]
    | failed q qs => rw [both, gives_ok, gives_failed, gives_failed]
  | failed q qs => rw [both, gives_failed, gives_failed]

@[simp] theorem gives_map2 {f : α → β → γ} {a : Check α} {b : Check β} {p : γ → Prop} :
    (map2 f a b).Gives p ↔ a.Gives fun x => b.Gives fun y => p (f x y) := by
  rw [map2, gives_map, gives_both]

/-- A further check gives what it gives for the value of the first. -/
@[simp] theorem gives_andThen {a : Check α} {next : α → Check β} {p : β → Prop} :
    (a.andThen next).Gives p ↔ a.Gives fun x => (next x).Gives p := by
  cases a with
  | ok a => rw [andThen, gives_ok]
  | failed q qs => rw [andThen, gives_failed, gives_failed]

/-- To give one value is to be it. -/
theorem gives_eq_iff {a : Check α} {v : α} : a.Gives (· = v) ↔ a = .ok v := by
  constructor
  · rintro ⟨_, ha, rfl⟩
    exact ha
  · intro ha
    exact ⟨v, ha, rfl⟩

/-- A value that is turned into another was there before. -/
theorem map_eq_ok_iff {f : α → β} {a : Check α} {v : β} :
    a.map f = .ok v ↔ ∃ x, a = .ok x ∧ f x = v :=
  gives_eq_iff.symm.trans gives_map

/-- A further check succeeds on the value of the first. -/
theorem andThen_eq_ok_iff {a : Check α} {next : α → Check β} {v : β} :
    a.andThen next = .ok v ↔ ∃ x, a = .ok x ∧ next x = .ok v := by
  rw [← gives_eq_iff, gives_andThen]
  exact exists_congr fun x => and_congr_right fun _ => gives_eq_iff

/-! ## What a check ensures -/

/-- Every value that the check gives satisfies `p`. -/
def Ensures (check : Check α) (p : α → Prop) : Prop := ∀ v, check = .ok v → p v

section

variable {p : α → Prop} {q : β → Prop} {r : γ → Prop} {a : Check α} {b : Check β}

theorem ensures_ok {v : α} (h : p v) : (ok v).Ensures p := by
  intro w hw
  cases hw
  exact h

/-- Nothing has to be known of a value. -/
theorem ensures_true (a : Check α) : a.Ensures fun _ => True := fun _ _ => trivial

theorem ensures_fail {problem : Problem} : (fail problem).Ensures p := by
  intro v hv
  cases hv

theorem Ensures.map (ha : a.Ensures p) {f : α → β} (h : ∀ v, p v → q (f v)) :
    (a.map f).Ensures q := by
  intro w hw
  obtain ⟨v, hv, rfl⟩ := map_eq_ok_iff.mp hw
  exact h v (ha v hv)

theorem Ensures.both (ha : a.Ensures p) (hb : b.Ensures q) :
    (both a b).Ensures fun v => p v.1 ∧ q v.2 := by
  intro w hw
  cases a with
  | ok v =>
    cases b with
    | ok v' =>
      cases hw
      exact ⟨ha v rfl, hb v' rfl⟩
    | failed problem more => cases hw
  | failed problem more => cases hw

/-- Two values are put together with what is known of both. -/
theorem Ensures.map2 (ha : a.Ensures p) (hb : b.Ensures q) {f : α → β → γ}
    (h : ∀ v w, p v → q w → r (f v w)) : (map2 f a b).Ensures r :=
  (ha.both hb).map fun v hv => h v.1 v.2 hv.1 hv.2

/-- A further check may use what the first ensures. -/
theorem Ensures.andThen (ha : a.Ensures p) {next : α → Check β}
    (h : ∀ v, p v → (next v).Ensures q) : (a.andThen next).Ensures q := by
  intro w hw
  obtain ⟨v, hv, hnext⟩ := andThen_eq_ok_iff.mp hw
  exact h v (ha v hv) w hnext

theorem ensures_addProblem {problem : Problem} : (a.addProblem problem : Check β).Ensures q := by
  intro v hv
  cases a with
  | ok _ => cases hv
  | failed first more => cases hv

end

/-! ## What a function does that checks its input -/

/-- The values that are accepted are those that stand in `means` to the input, and the problems of
an input are the one there is with it. -/
structure Exact (check : ι → Check α) (means : ι → α → Prop) (problem? : ι → Option Problem) :
    Prop where
  ok_iff : ∀ i v, check i = .ok v ↔ means i v
  problems : ∀ i, (check i).problems = (problem? i).toList

/-- Nothing is wrong with an input that is taken as it is. -/
theorem exact_ok : Exact (ok : α → Check α) Eq fun _ => none where
  ok_iff i v := by rw [ok.injEq]
  problems _ := rfl

namespace Exact

variable {check : ι → Check α} {means means' : ι → α → Prop} {problem? : ι → Option Problem}

/-- Inputs of which the same is said, with the same problem, are checked alike. -/
theorem congr (h : Exact check means problem?) {i j : ι} (hmeans : ∀ v, means i v ↔ means j v)
    (hproblem : problem? i = problem? j) : check i = check j := by
  refine ext (fun v => ?_) ?_
  · rw [h.ok_iff, h.ok_iff, hmeans]
  · rw [h.problems, h.problems, hproblem]

/-- What is accepted may be said in other words. -/
theorem congr_means (h : Exact check means problem?) (hmeans : ∀ i v, means i v ↔ means' i v) :
    Exact check means' problem? :=
  ⟨fun i v => (h.ok_iff i v).trans (hmeans i v), h.problems⟩

/-- A value that is turned into another is accepted where it was. -/
theorem map (h : Exact check means problem?) (f : α → β) :
    Exact (fun i => (check i).map f) (fun i w => ∃ v, means i v ∧ f v = w) problem? where
  ok_iff i _ := map_eq_ok_iff.trans (exists_congr fun v => and_congr_left' (h.ok_iff i v))
  problems i := (problems_map f (check i)).trans (h.problems i)

/-- What is given is one of the values that are accepted. -/
theorem gives (h : Exact check means problem?) {i : ι} {p : α → Prop} :
    (check i).Gives p ↔ ∃ v, means i v ∧ p v :=
  exists_congr fun v => and_congr_left' (h.ok_iff i v)

/-- All that is known of a value is that it is accepted. -/
theorem ensures (h : Exact check means problem?) (i : ι) : (check i).Ensures (means i) :=
  fun v => (h.ok_iff i v).mp

end Exact

end BudgetNotes.Check
