import BudgetNotes.Proofs.Draft.Checks
import BudgetNotes.Proofs.Draft.Requirements

/-!
# What the readers of fields do

A field is asked for in some format, and has to be filled in or may be left
out (`Requirement`). What is wrong with a text follows from that
(`Requirement.problem?`), and a text with nothing wrong says one value.

A reader does no more and no less (`Field.Reads`): it accepts the values that
the text says, without the white space around it, and reports the one problem
there is otherwise. All that is proved of a reader elsewhere follows from this.

Main statements: one for each reader of fields, from `Field.reads_decimal` to
`Field.reads_optionalChoice`.
-/

namespace BudgetNotes

/-! ## What texts say -/

/-- White space around a number does not count. -/
theorem Decimal.ofTyped_trim (s : String) : ofTyped (Text.trim s) = ofTyped s := by
  unfold ofTyped Text.trim
  rw [String.toList_ofList, Text.trimChars_idem]

namespace Format

/-- A text says a value if the decimal that is read of it is that value. -/
def MeansNumber {α : Type} (is : Decimal → α → Prop) (s : String) (a : α) : Prop :=
  ∃ x, Decimal.ofTyped s = .ok x ∧ is x a

/-- So a text says the same number without it. -/
theorem meansNumber_trim {α : Type} {is : Decimal → α → Prop} {s : String} {a : α} :
    MeansNumber is (Text.trim s) a ↔ MeansNumber is s a := by
  unfold MeansNumber
  rw [Decimal.ofTyped_trim]

/-- An amount has no more than two places. -/
def IsAmount (x : Decimal) (m : Money) : Prop := m.amount = x ∧ Money.Fits x

/-- A priority is an integer of 32 bits. -/
def IsPriority (x : Decimal) (p : Int32) : Prop := x.toInt? = some p.toInt

/-- A count is an integer from 1 up and below 2^32. -/
def IsCount (x : Decimal) (c : UInt32) : Prop := x.toInt? = some (c.toNat : Int) ∧ 1 ≤ c

/-- Every integer of 32 bits is a priority. -/
theorem isPriority_iff {x : Decimal} {p : Int32} :
    IsPriority x p ↔
      ∃ n, x.toInt? = some n ∧ (-2147483648 ≤ n ∧ n ≤ 2147483647) ∧ Int32.ofInt n = p := by
  unfold IsPriority
  constructor
  · intro hint
    have hlow := Int32.le_toInt p
    have hhigh := Int32.toInt_lt p
    exact ⟨p.toInt, hint, ⟨by omega, by omega⟩, Int32.ofInt_toInt p⟩
  · rintro ⟨n, hint, ⟨hlow, hhigh⟩, rfl⟩
    rw [Int32.toInt_ofInt_of_le (by omega) (by omega)]
    exact hint

/-- Every positive integer of 32 bits is a count. -/
theorem isCount_iff {x : Decimal} {c : UInt32} :
    IsCount x c ↔
      ∃ n, x.toInt? = some n ∧ (1 ≤ n ∧ n ≤ 4294967295) ∧ UInt32.ofNat n.toNat = c := by
  unfold IsCount
  rw [UInt32.le_iff_toNat_le]
  constructor
  · rintro ⟨hint, hone⟩
    have hlt := c.toNat_lt
    have hone : 1 ≤ c.toNat := hone
    refine ⟨c.toNat, hint, ⟨by omega, by omega⟩, ?_⟩
    rw [Int.toNat_natCast, UInt32.ofNat_toNat]
  · rintro ⟨n, hint, ⟨hone, hhigh⟩, rfl⟩
    have hlt : n.toNat < UInt32.size := by
      show n.toNat < 4294967296
      omega
    rw [UInt32.toNat_ofNat_of_lt' hlt, Int.toNat_of_nonneg (by omega)]
    refine ⟨hint, ?_⟩
    show 1 ≤ n.toNat
    omega

end Format

/-! ## Choices -/

/-- A word is read if, in lower case, it is allowed. -/
def Chooses {α : Type} (read : String → Except UnknownChoice α) (allowed : List String) : Prop :=
  ∀ s, (read s).isOk = decide (Text.lowercase (Text.trim s) ∈ allowed)

/-- A word is looked up in lower case, and found if it is that of a choice. -/
theorem chooses_chooseByWord {α : Type} (type : String) (choices : List α) (word : α → String) :
    Chooses (chooseByWord type choices word) (choices.map word) := by
  intro s
  unfold chooseByWord
  simp only [List.mem_map]
  cases hfind : choices.find? (word · = Text.lowercase (Text.trim s)) with
  | some choice =>
    have hword : word choice = Text.lowercase (Text.trim s) := by
      simpa using List.find?_some hfind
    exact (decide_eq_true ⟨choice, List.mem_of_find?_eq_some hfind, hword⟩).symm
  | none =>
    refine (decide_eq_false ?_).symm
    rintro ⟨choice, hmem, hword⟩
    exact List.find?_eq_none.mp hfind choice hmem (decide_eq_true hword)

theorem LimitPeriod.chooses : Chooses ofText choices := chooses_chooseByWord _ _ _

theorem PeriodUnit.chooses : Chooses ofText choices := chooses_chooseByWord _ _ _

theorem RepeatUnit.chooses : Chooses ofText choices := chooses_chooseByWord _ _ _

namespace Field

open Check Format Requirement

/-! ## Texts that are there -/

/-- What is there of a text is all but the white space around it. -/
theorem present?_eq_some_iff {raw s : String} :
    present? raw = some s ↔ Text.isBlank raw = false ∧ Text.trim raw = s := by
  unfold present?
  cases Text.isBlank raw with
  | true => simp
  | false => simp

/-- Only of a blank text nothing is there. -/
theorem present?_eq_none_iff {raw : String} : present? raw = none ↔ Text.isBlank raw = true := by
  unfold present?
  cases Text.isBlank raw with
  | true => simp
  | false => simp

theorem isSome_present? (raw : String) : (present? raw).isSome = !Text.isBlank raw := by
  unfold present?
  cases Text.isBlank raw with
  | true => rfl
  | false => rfl

theorem present?_trim (raw : String) : present? (Text.trim raw) = present? raw := by
  unfold present?
  rw [Text.isBlank_trim, Text.trim_idem]

/-- The text is there and says the value. Of a field that may be left out, `Option.Rel` says that a
missing text is no value. -/
def Filled {α : Type} (means : String → α → Prop) (text : Option String) (a : α) : Prop :=
  ∃ s ∈ text, means s a

/-- A value that was read of a field was said by its text. -/
theorem filled_of_rel {α : Type} {means : String → α → Prop} {text : Option String} {v : Option α}
    (h : Option.Rel means text v) {a : α} (ha : a ∈ v) : Filled means text a := by
  cases h with
  | none => cases ha
  | some hmeans =>
    rw [← Option.mem_some.mp ha]
    exact ⟨_, rfl, hmeans⟩

/-- A field has a value exactly when it is not blank. -/
theorem isSome_of_rel {α : Type} {means : String → α → Prop} {raw : String} {v : Option α}
    (h : Option.Rel means (present? raw) v) : v.isSome = !Text.isBlank raw := by
  rw [← isSome_present?]
  generalize present? raw = text at h
  cases h with
  | none => rfl
  | some _ => rfl

/-! ## What a reader does -/

variable {α β : Type}

/-- A reader of a field accepts what its text says, and reports what is wrong with it. -/
def Reads (check : String → Check β) (means : Option String → β → Prop) (r : Requirement) : Prop :=
  Exact check (fun raw => means (present? raw)) r.problem?

/-- No reader looks at the white space around a text. -/
theorem Reads.trim {check : String → Check β} {means : Option String → β → Prop} {r : Requirement}
    (h : Reads check means r) (raw : String) : check (Text.trim raw) = check raw :=
  h.congr (fun v => by rw [present?_trim]) (r.problem?_trim raw)

/-- A field that may be left out is none exactly when it is blank. -/
theorem Reads.eq_none_iff {check : String → Check (Option α)} {means : String → α → Prop}
    {r : Requirement} (h : Reads check (Option.Rel means) r) {raw : String} :
    check raw = .ok none ↔ Text.isBlank raw = true := by
  rw [h.ok_iff, ← present?_eq_none_iff]
  cases present? raw with
  | none => exact iff_of_true .none rfl
  | some s => exact iff_of_false (fun h => nomatch h) (fun h => nomatch h)

section

variable {is : Decimal → α → Prop} {r : Requirement} {raw : String}
  (hblank : Text.isBlank raw = false)
include hblank

/-- A number that is insisted on is the number of the text, with white space around it or not. -/
theorem Reads.number_iff {check : String → Check α} (h : Reads check (Filled (MeansNumber is)) r)
    {a : α} : check raw = .ok a ↔ MeansNumber is raw a := by
  rw [h.ok_iff, present?_eq_some_iff.mpr ⟨hblank, rfl⟩, ← meansNumber_trim]
  simp [Filled]

/-- The same for a number that may be left out. -/
theorem Reads.some_number_iff {check : String → Check (Option α)}
    (h : Reads check (Option.Rel (MeansNumber is)) r) {a : α} :
    check raw = .ok (some a) ↔ MeansNumber is raw a := by
  rw [h.ok_iff, present?_eq_some_iff.mpr ⟨hblank, rfl⟩, Option.rel_some_some, meansNumber_trim]

end

variable {field : Field} {format : Format} {read : String → Check α} {means : String → α → Prop}

/-- A field that may be left out is none or what its text is read as. -/
theorem reads_optional (h : Exact read means fun s => format.problem? field s) :
    Reads (optional read) (Option.Rel means) (may field format) where
  ok_iff raw v := by
    unfold optional
    cases hpresent : present? raw with
    | none =>
      cases v with
      | none => exact iff_of_true rfl .none
      | some a => exact iff_of_false (fun h => nomatch h) (fun h => nomatch h)
    | some s =>
      show (read s).map some = .ok v ↔ _
      rw [map_eq_ok_iff]
      cases v with
      | none =>
        refine iff_of_false ?_ (fun h => nomatch h)
        rintro ⟨_, _, ⟨⟩⟩
      | some a => simp [h.ok_iff]
  problems raw := by
    unfold optional present? Requirement.problem?
    cases Text.isBlank raw with
    | true => rfl
    | false => exact (problems_map some _).trans (h.problems (Text.trim raw))

/-- A field that is insisted on is what its text is read as. -/
theorem reads_require (h : Exact read means fun s => format.problem? field s) :
    Reads (fun raw => field.require (optional read raw)) (Filled means) (must field format) where
  ok_iff raw a := by
    unfold require
    rw [andThen_eq_ok_iff]
    constructor
    · rintro ⟨v, hv, ha⟩
      cases v with
      | none => cases ha
      | some b =>
        cases ha
        have hrel := ((reads_optional h).ok_iff raw _).mp hv
        cases hpresent : present? raw with
        | none =>
          rw [hpresent] at hrel
          cases hrel
        | some s =>
          rw [hpresent, Option.rel_some_some] at hrel
          exact ⟨s, rfl, hrel⟩
    · rintro ⟨s, hs, ha⟩
      refine ⟨some a, ((reads_optional h).ok_iff raw _).mpr ?_, rfl⟩
      rw [Option.mem_def.mp hs]
      exact .some ha
  problems raw := by
    unfold require optional present? Requirement.problem?
    cases Text.isBlank raw with
    | true => rfl
    | false =>
      show (((read (Text.trim raw)).map some).andThen _).problems = _
      rw [must, if_neg Bool.false_ne_true, ← h.problems]
      cases read (Text.trim raw) with
      | ok a => rfl
      | failed p ps => rfl

/-- A further check of the value can be made after the field was read, unless it is blank. -/
theorem optional_andThen (next : α → Check β) (raw : String) :
    optional (fun s => (read s).andThen next) raw = (optional read raw).andThen fun
      | none => .ok none
      | some a => (next a).map some := by
  unfold optional
  cases present? raw with
  | none => rfl
  | some s =>
    show ((read s).andThen next).map some = ((read s).map some).andThen _
    cases read s with
    | ok a => rfl
    | failed p ps => rfl

/-- What a value is turned into can be done after the field was read. -/
theorem optional_map (f : α → β) (raw : String) :
    optional (fun s => (read s).map f) raw = (optional read raw).map (Option.map f) := by
  unfold optional
  cases present? raw with
  | none => rfl
  | some s =>
    show ((read s).map f).map some = ((read s).map some).map _
    cases read s with
    | ok a => rfl
    | failed p ps => rfl

/-- The same holds for a value that was insisted on. -/
theorem require_optional_andThen (next : α → Check β) (raw : String) :
    (field.require (optional read raw)).andThen next =
      field.require (optional (fun s => (read s).andThen next) raw) := by
  unfold require
  rw [optional_andThen, andThen_assoc, andThen_assoc]
  congr 1
  funext v
  cases v with
  | none => rfl
  | some a =>
    show next a = ((next a).map some).andThen _
    cases next a with
    | ok b => rfl
    | failed p ps => rfl

/-! ## Numbers -/

/-- A number is told as such, or judged by its decimal. -/
theorem exact_number_andThen {next : Decimal → Check α} {is : Decimal → α → Prop}
    {judge : Decimal → Option Problem} (h : Exact next is judge) :
    Exact (fun s => (field.number s).andThen next) (MeansNumber is)
      (numberProblem? field judge) where
  ok_iff s a := by
    unfold number MeansNumber
    cases Decimal.ofTyped s with
    | ok x =>
      show next x = .ok a ↔ _
      simp [h.ok_iff]
    | error e =>
      refine iff_of_false (fun h => nomatch h) ?_
      rintro ⟨x, hx, _⟩
      cases hx
  problems s := by
    unfold number numberProblem?
    cases Decimal.ofTyped s with
    | ok x => exact h.problems x
    | error e => rfl

variable (field)

/-- A decimal with too many places is refused, not rounded. -/
theorem exact_cents :
    Exact field.cents IsAmount fun x => Problem.unless (.tooPrecise field) (Money.Fits x) where
  ok_iff x m := by
    rw [IsAmount, ← Money.ofDecimal?_eq_some_iff]
    unfold cents
    cases Money.ofDecimal? x with
    | some m' => simp
    | none => exact iff_of_false (fun h => nomatch h) (fun h => nomatch h)
  problems x := by
    unfold cents Money.ofDecimal? Problem.unless
    by_cases hfits : Money.Fits x
    · rw [if_pos hfits, decide_eq_true hfits]
      rfl
    · rw [if_neg hfits, decide_eq_false hfits]
      rfl

/-- A fraction and an integer out of range are refused alike. -/
theorem exact_wholeIn (low high : Int) :
    Exact (field.wholeIn low high) (fun x n => x.toInt? = some n ∧ low ≤ n ∧ n ≤ high)
      (wholeProblem? field low high) where
  ok_iff x n := by
    unfold wholeIn
    cases x.toInt? with
    | none =>
      refine iff_of_false (fun h => nomatch h) ?_
      rintro ⟨⟨⟩, _⟩
    | some m =>
      simp only [Option.some.injEq]
      by_cases hrange : low ≤ m ∧ m ≤ high
      · rw [if_pos hrange, Check.ok.injEq]
        constructor
        · rintro rfl
          exact ⟨rfl, hrange⟩
        · exact And.left
      · rw [if_neg hrange]
        refine iff_of_false (fun h => nomatch h) ?_
        rintro ⟨rfl, h⟩
        exact hrange h
  problems x := by
    unfold wholeIn wholeProblem? Problem.unless
    cases x.toInt? with
    | none => rfl
    | some n =>
      simp only [Option.any_some, decide_eq_true_eq]
      split
      next => rfl
      next => rfl

/-- A number in the range of a priority is not changed by its type. -/
theorem exact_priority :
    Exact (fun x => (field.wholeIn (-2147483648) 2147483647 x).map Int32.ofInt) IsPriority
      (wholeProblem? field (-2147483648) 2147483647) := by
  refine ((field.exact_wholeIn _ _).map Int32.ofInt).congr_means fun x p => ?_
  simp only [isPriority_iff, and_assoc]

/-- A count is zero, which is told apart, or too large, or none of both. -/
theorem exact_count :
    Exact (fun x => (field.wholeIn 0 4294967295 x).andThen field.positive) IsCount
      (countProblem? field) where
  ok_iff x c := by
    rw [andThen_eq_ok_iff, isCount_iff]
    refine exists_congr fun n => ?_
    rw [(field.exact_wholeIn _ _).ok_iff, positive, and_assoc]
    refine and_congr_right fun _ => ?_
    split
    next hzero =>
      refine iff_of_false (fun h => nomatch h.2) ?_
      rintro ⟨⟨hone, _⟩, _⟩
      omega
    next hzero =>
      rw [Check.ok.injEq]
      refine and_congr_left fun _ => ?_
      omega
  problems x := by
    unfold wholeIn countProblem? wholeProblem? Problem.unless
    cases x.toInt? with
    | none => rfl
    | some n =>
      simp only [Option.some.injEq, Option.any_some, decide_eq_true_eq]
      by_cases hzero : n = 0
      · rw [if_pos (by omega), if_pos hzero, hzero]
        rfl
      · have hpositive : field.positive n = .ok (UInt32.ofNat n.toNat) := if_neg hzero
        rw [if_neg hzero]
        by_cases hrange : 1 ≤ n ∧ n ≤ 4294967295
        · rw [if_pos hrange, if_pos (by omega), andThen, hpositive]
          rfl
        · rw [if_neg hrange, if_neg (by omega)]
          rfl

/-- A number by itself is only read. -/
theorem exact_number :
    Exact field.number (MeansNumber Eq) fun s => Format.decimal.problem? field s := by
  have h : Exact (fun s => (field.number s).andThen .ok) (MeansNumber Eq)
      (numberProblem? field fun _ => none) := exact_number_andThen exact_ok
  simp only [andThen_ok] at h
  exact h

theorem reads_optionalDecimal :
    Reads field.optionalDecimal (Option.Rel (MeansNumber Eq)) (may field .decimal) :=
  reads_optional field.exact_number

theorem reads_decimal : Reads field.decimal (Filled (MeansNumber Eq)) (must field .decimal) :=
  reads_require field.exact_number

/-- The places of an amount are counted after it was insisted on, which makes no difference. -/
theorem reads_money : Reads field.money (Filled (MeansNumber IsAmount)) (must field .amount) := by
  have hsame : field.money = fun raw =>
      field.require (optional (fun s => (field.number s).andThen field.cents) raw) :=
    funext fun raw => require_optional_andThen field.cents raw
  rw [hsame]
  exact reads_require (exact_number_andThen field.exact_cents)

theorem reads_optionalPriority :
    Reads field.optionalPriority (Option.Rel (MeansNumber IsPriority)) (may field .priority) := by
  unfold optionalPriority
  simp only [map_andThen]
  exact reads_optional (exact_number_andThen field.exact_priority)

theorem exact_count_text :
    Exact (fun s => ((field.number s).andThen (field.wholeIn 0 4294967295)).andThen field.positive)
      (MeansNumber IsCount) fun s => Format.count.problem? field s := by
  simp only [andThen_assoc]
  exact exact_number_andThen field.exact_count

theorem reads_optionalCount :
    Reads field.optionalCount (Option.Rel (MeansNumber IsCount)) (may field .count) :=
  reads_optional field.exact_count_text

theorem reads_count : Reads field.count (Filled (MeansNumber IsCount)) (must field .count) :=
  reads_require field.exact_count_text

/-! ## Texts, dates, months and choices -/

/-- A text is whatever is there. -/
theorem reads_text : Reads field.text (Filled Eq) (must field .text) where
  ok_iff raw s := by
    unfold text require
    cases present? raw with
    | none =>
      refine iff_of_false (fun h => nomatch h) ?_
      rintro ⟨_, ⟨⟩, _⟩
    | some s' =>
      show Check.ok s' = .ok s ↔ _
      simp [Filled]
  problems raw := by
    unfold text require present? Requirement.problem?
    cases Text.isBlank raw with
    | true => rfl
    | false => rfl

/-- A day that does not exist is refused like a text that is no date. -/
theorem exact_date :
    Exact (fun s => match Date.ofIso? s with
      | some d => .ok d
      | none => .fail (.invalidDate field))
      (fun s d => Date.ofIso? s = some d) fun s => Format.date.problem? field s where
  ok_iff s d := by
    cases Date.ofIso? s with
    | some d' => simp
    | none => exact iff_of_false (fun h => nomatch h) (fun h => nomatch h)
  problems s := by
    unfold Format.problem?
    cases Date.ofIso? s with
    | some d => rfl
    | none => rfl

theorem reads_optionalDate :
    Reads field.optionalDate (Option.Rel fun s d => Date.ofIso? s = some d) (may field .date) :=
  reads_optional field.exact_date

theorem reads_date :
    Reads field.date (Filled fun s d => Date.ofIso? s = some d) (must field .date) :=
  reads_require field.exact_date

/-- Whatever a text is refused for, one problem is told. -/
theorem exact_ofExcept {ε : Type} {check : String → Check α} {read : String → Except ε α}
    {p : Problem} (hok : ∀ s a, read s = .ok a → check s = .ok a)
    (herror : ∀ s e, read s = .error e → check s = .fail p) :
    Exact check (fun s a => read s = .ok a) fun s => p.unless (read s).isOk where
  ok_iff s a := by
    cases h : read s with
    | ok b => rw [hok s b h, Check.ok.injEq, Except.ok.injEq]
    | error e =>
      rw [herror s e h]
      exact iff_of_false (fun h => nomatch h) (fun h => nomatch h)
  problems s := by
    cases h : read s with
    | ok b => rw [hok s b h]; rfl
    | error e => rw [herror s e h]; rfl

theorem exact_month :
    Exact (fun s => match BudgetMonth.ofText s with
      | .ok m => .ok m
      | .error _ => .fail (.invalidMonth field))
      (fun s m => BudgetMonth.ofText s = .ok m) fun s => Format.month.problem? field s :=
  exact_ofExcept (fun s m h => by simp only [h]) fun s e h => by simp only [h]

theorem reads_optionalMonth :
    Reads field.optionalMonth (Option.Rel fun s m => BudgetMonth.ofText s = .ok m)
      (may field .month) :=
  reads_optional field.exact_month

theorem reads_budgetMonth :
    Reads field.budgetMonth (Filled fun s m => BudgetMonth.ofText s = .ok m)
      (must field .month) :=
  reads_require field.exact_month

/-- A word that is none of the choices is told with all of them. -/
theorem reads_optionalChoice {read : String → Except UnknownChoice α} {allowed : List String}
    (h : Chooses read allowed) :
    Reads (field.optionalChoice read allowed) (Option.Rel fun s a => read s = .ok a)
      (may field (.choice allowed)) := by
  have hproblem : (fun s => (Format.choice allowed).problem? field s) =
      fun s => Problem.unless (.invalidChoice field allowed) (read s).isOk := by
    funext s
    rw [h s]
    rfl
  refine reads_optional ?_
  rw [hproblem]
  exact exact_ofExcept (fun s a h => by simp only [h]) fun s e h => by simp only [h]

end Field

end BudgetNotes
