import BudgetNotes.Json.Reader

/-!
# Every reading takes characters

What is left after a value was read is shorter than what was there before. So an
array has no more items than its text has characters.

> `LeavesFewer`: how many characters are left at most.

The bound is passed on from reader to reader, each of which starts with what
another left. Values, items and members read each other; for them it is an
induction on the bound of steps.

Main statement: `length_le_of_parse?`.
-/

namespace BudgetNotes.Json

/-- Whether a reading leaves fewer than so many characters, if it reads anything. -/
def LeavesFewer {α : Type} (n : Nat) (read : Option (α × List Char)) : Prop :=
  ∀ a rest, read = some (a, rest) → rest.length < n

section

variable {α β γ : Type} {m n : Nat}

/-- A reading that fails leaves nothing to count. -/
theorem leavesFewer_none : LeavesFewer n (none : Option (α × List Char)) :=
  fun _ _ h => nomatch h

/-- A reading that succeeds leaves the characters it names. -/
theorem leavesFewer_some {a : α} {rest : List Char} (h : rest.length < n) :
    LeavesFewer n (some (a, rest)) := by
  intro b other hread
  cases hread
  exact h

/-- A bound may be loosened. -/
theorem LeavesFewer.mono {read : Option (α × List Char)} (h : LeavesFewer m read) (hle : m ≤ n) :
    LeavesFewer n read :=
  fun a rest hread => Nat.lt_of_lt_of_le (h a rest hread) hle

/-- What is read next starts with what is left. -/
theorem LeavesFewer.bind {read : Option (α × List Char)} (h : LeavesFewer m read)
    {f : α × List Char → Option (β × List Char)}
    (hf : ∀ a rest, rest.length < m → LeavesFewer n (f (a, rest))) :
    LeavesFewer n (read.bind f) := by
  intro b rest hread
  obtain ⟨⟨a, left⟩, ha, hb⟩ := Option.bind_eq_some_iff.mp hread
  exact hf a left (h a left ha) b rest hb

/-- What takes no characters does not matter. -/
theorem leavesFewer_bind {o : Option γ} {f : γ → Option (α × List Char)}
    (hf : ∀ c, LeavesFewer n (f c)) : LeavesFewer n (o.bind f) := by
  intro a rest hread
  obtain ⟨c, _, hc⟩ := Option.bind_eq_some_iff.mp hread
  exact hf c a rest hc

/-- What a value is turned into does not matter. -/
theorem LeavesFewer.map {read : Option (α × List Char)} (h : LeavesFewer n read)
    {f : α × List Char → β × List Char} (hf : ∀ a rest, (f (a, rest)).2 = rest) :
    LeavesFewer n (read.map f) := by
  intro b rest hread
  obtain ⟨⟨a, left⟩, ha, hb⟩ := Option.map_eq_some_iff.mp hread
  have hrest := hf a left
  rw [hb] at hrest
  have hlt := h a left ha
  rwa [← hrest] at hlt

end

/-- White space that is skipped adds nothing. -/
theorem length_skipGap_le (cs : List Char) : (skipGap cs).length ≤ cs.length :=
  (List.dropWhile_sublist _).length_le

/-- A character after white space is taken with it. -/
theorem length_lt_of_skipGap_eq {cs rest : List Char} {c : Char} (h : skipGap cs = c :: rest) :
    rest.length < cs.length := by
  have hle := length_skipGap_le cs
  rw [h] at hle
  exact hle

/-! ## Numbers -/

/-- At least one digit is taken. -/
theorem leavesFewer_takeDigits? (cs : List Char) : LeavesFewer cs.length (takeDigits? cs) := by
  have hparts : cs.takeWhile Char.isDigit ++ cs.dropWhile Char.isDigit = cs :=
    List.takeWhile_append_dropWhile
  unfold takeDigits?
  split
  next => exact leavesFewer_none
  next hne =>
    refine leavesFewer_some ?_
    have hpos := List.length_pos_iff.mpr fun hnil => hne hnil
    have hlength := congrArg List.length hparts
    rw [List.length_append] at hlength
    omega

/-- Places may be missing, so that the bound is one looser. -/
theorem leavesFewer_takePlaces? (cs : List Char) :
    LeavesFewer (cs.length + 1) (takePlaces? cs) := by
  unfold takePlaces?
  split
  next cs =>
    refine (leavesFewer_takeDigits? cs).mono ?_
    rw [List.length_cons]
    omega
  next => exact leavesFewer_some (Nat.lt_succ_self _)

/-- The same holds for an exponent. -/
theorem leavesFewer_takeExponent? (cs : List Char) :
    LeavesFewer (cs.length + 1) (takeExponent? cs) := by
  unfold takeExponent?
  split
  next c cs =>
    split
    next =>
      have hdigits : ∀ digits : List Char, digits.length ≤ cs.length →
          LeavesFewer ((c :: cs).length + 1) (takeDigits? digits) := fun digits hle =>
        (leavesFewer_takeDigits? digits).mono (by rw [List.length_cons]; omega)
      split
      next digits => exact (hdigits digits (Nat.le_succ _)).map fun _ _ => rfl
      next digits => exact (hdigits digits (Nat.le_succ _)).map fun _ _ => rfl
      next => exact (hdigits cs (Nat.le_refl _)).map fun _ _ => rfl
    next => exact leavesFewer_some (Nat.lt_succ_self _)
  next => exact leavesFewer_some (Nat.lt_succ_self _)

/-- A number has a digit in front, whatever follows. -/
theorem leavesFewer_readNumber (negative : Bool) (cs : List Char) :
    LeavesFewer cs.length (readNumber negative cs) := by
  unfold readNumber
  refine (leavesFewer_takeDigits? cs).bind fun whole rest hwhole => ?_
  dsimp only
  split
  next => exact leavesFewer_none
  next =>
    refine (leavesFewer_takePlaces? rest).bind fun places rest hplaces => ?_
    refine (leavesFewer_takeExponent? rest).bind fun exponent rest hexponent => ?_
    dsimp only
    split <;> exact leavesFewer_some (by omega)

/-! ## Texts -/

/-- A text takes at least the quote that ends it. -/
theorem leavesFewer_readUnits (cs : List Char) : LeavesFewer cs.length (readUnits cs) := by
  fun_induction readUnits cs with
  | case1 => exact leavesFewer_none
  | case2 cs => exact leavesFewer_some (Nat.lt_succ_self _)
  | case3 a b c d cs ih =>
    refine leavesFewer_bind fun _ => leavesFewer_bind fun _ => leavesFewer_bind fun _ =>
      leavesFewer_bind fun _ => ih.bind fun units rest hrest => leavesFewer_some ?_
    simp only [List.length_cons]
    omega
  | case4 c cs hnot ih =>
    refine leavesFewer_bind fun _ => ih.bind fun units rest hrest => leavesFewer_some ?_
    simp only [List.length_cons]
    omega
  | case5 => exact leavesFewer_none
  | case6 c cs _ _ _ _ ih =>
    refine ih.bind fun units rest hrest => leavesFewer_some ?_
    simp only [List.length_cons]
    omega

/-- Joining the units of a text takes no characters. -/
theorem leavesFewer_readText (cs : List Char) : LeavesFewer cs.length (readText cs) :=
  (leavesFewer_readUnits cs).map fun _ _ => rfl

/-! ## Values -/

/-- Whether items leave fewer characters than they were given, one fewer for each of them. -/
def ItemsLeaveFewer (n : Nat) (read : Option (List Json × List Char)) : Prop :=
  ∀ items rest, read = some (items, rest) → items.length + rest.length < n

section

variable {fuel : Nat}
  (hvalue : ∀ depth cs, LeavesFewer cs.length (readValue fuel depth cs))
  (hitems : ∀ depth cs, ItemsLeaveFewer cs.length (readItems fuel depth cs))
  (hmembers : ∀ depth cs, LeavesFewer cs.length (readMembers fuel depth cs))

include hitems hmembers in
/-- The step for values: a word, a bracket, a quote or a digit is taken. -/
theorem leavesFewer_readValue_succ (depth : Nat) (cs : List Char) :
    LeavesFewer cs.length (readValue (fuel + 1) depth cs) := by
  have hword : ∀ {word rest : List Char} (v : Json), skipGap cs = word ++ rest → word ≠ [] →
      LeavesFewer cs.length (some (v, rest)) := by
    intro word rest v heq hne
    have hle := length_skipGap_le cs
    have hpos := List.length_pos_iff.mpr hne
    rw [heq, List.length_append] at hle
    exact leavesFewer_some (by omega)
  rw [readValue]
  split
  next heq => exact hword null heq (List.cons_ne_nil 'n' ['u', 'l', 'l'])
  next heq => exact hword (bool true) heq (List.cons_ne_nil 't' ['r', 'u', 'e'])
  next heq => exact hword (bool false) heq (List.cons_ne_nil 'f' ['a', 'l', 's', 'e'])
  next rest heq =>
    have hlt := length_lt_of_skipGap_eq heq
    exact ((leavesFewer_readText rest).mono (Nat.le_of_lt hlt)).map fun _ _ => rfl
  next rest heq =>
    have hlt := length_lt_of_skipGap_eq heq
    exact (leavesFewer_readNumber true rest).mono (Nat.le_of_lt hlt)
  next below heq =>
    have hlt := length_lt_of_skipGap_eq heq
    split
    next rest hclose =>
      have hrest := length_lt_of_skipGap_eq hclose
      exact leavesFewer_some (by omega)
    next =>
      have hle := length_skipGap_le below
      have hread : LeavesFewer cs.length (readItems fuel (depth + 1) (skipGap below)) := by
        intro items rest h
        have hfewer := hitems _ _ items rest h
        omega
      exact hread.map fun _ _ => rfl
  next below heq =>
    have hlt := length_lt_of_skipGap_eq heq
    split
    next rest hclose =>
      have hrest := length_lt_of_skipGap_eq hclose
      exact leavesFewer_some (by omega)
    next =>
      have hle := length_skipGap_le below
      exact ((hmembers _ _).mono (by omega)).map fun _ _ => rfl
  next => exact (leavesFewer_readNumber false _).mono (length_skipGap_le cs)

include hvalue

include hitems in
/-- The step for items: each takes one character at least. -/
theorem itemsLeaveFewer_readItems_succ (depth : Nat) (cs : List Char) :
    ItemsLeaveFewer cs.length (readItems (fuel + 1) depth cs) := by
  intro items rest h
  rw [readItems] at h
  split at h
  next => cases h
  next v left hv =>
    have hleft := hvalue depth cs v left hv
    split at h
    next heq =>
      have hlt := length_lt_of_skipGap_eq heq
      cases h
      rw [List.length_singleton]
      omega
    next below heq =>
      have hlt := length_lt_of_skipGap_eq heq
      obtain ⟨⟨more, rest'⟩, hmore, heq⟩ := Option.map_eq_some_iff.mp h
      cases heq
      have hfewer := hitems _ _ more rest hmore
      rw [List.length_cons]
      omega
    next => cases h

include hmembers in
/-- The step for members: a key is taken before its value. -/
theorem leavesFewer_readMembers_succ (depth : Nat) (cs : List Char) :
    LeavesFewer cs.length (readMembers (fuel + 1) depth cs) := by
  rw [readMembers]
  split
  next below heq =>
    have hbelow := length_lt_of_skipGap_eq heq
    split
    next => exact leavesFewer_none
    next key left hkey =>
      have hleft := leavesFewer_readText below key left hkey
      split
      next below' hcolon =>
        have hbelow' := length_lt_of_skipGap_eq hcolon
        split
        next => exact leavesFewer_none
        next v left' hv =>
          have hleft' := hvalue _ _ v left' hv
          split
          next hclose =>
            have hrest := length_lt_of_skipGap_eq hclose
            exact leavesFewer_some (by omega)
          next hcomma =>
            have hrest := length_lt_of_skipGap_eq hcomma
            exact ((hmembers _ _).mono (by omega)).map fun _ _ => rfl
          next => exact leavesFewer_none
      next => exact leavesFewer_none
  next => exact leavesFewer_none

end

/-- Values, items and members, however many steps they may take. -/
theorem leavesFewer_read (fuel : Nat) :
    (∀ depth cs, LeavesFewer cs.length (readValue fuel depth cs)) ∧
    (∀ depth cs, ItemsLeaveFewer cs.length (readItems fuel depth cs)) ∧
    ∀ depth cs, LeavesFewer cs.length (readMembers fuel depth cs) := by
  induction fuel with
  | zero =>
    refine ⟨fun _ _ => leavesFewer_none, fun _ _ _ _ h => ?_, fun _ _ => leavesFewer_none⟩
    cases h
  | succ fuel ih =>
    obtain ⟨hvalue, hitems, hmembers⟩ := ih
    exact ⟨leavesFewer_readValue_succ hitems hmembers, itemsLeaveFewer_readItems_succ hvalue hitems,
      leavesFewer_readMembers_succ hvalue hmembers⟩

/-! ## Arrays -/

/-- A number with a fraction or an exponent is no array. -/
theorem floatOf_ne_arr (negative : Bool) (whole places : List Char) (exponent : Int)
    (items : List Json) : floatOf negative whole places exponent ≠ arr items := by
  unfold floatOf
  dsimp only
  split <;> exact fun h => nomatch h

/-- Nor is an integer, of whatever size. -/
theorem integerOf_ne_arr (negative : Bool) (whole : List Char) (items : List Json) :
    integerOf negative whole ≠ arr items := by
  unfold integerOf
  dsimp only
  split
  next =>
    split
    next => exact fun h => nomatch h
    next => exact floatOf_ne_arr _ _ _ _ _
  next =>
    split
    next => exact fun h => nomatch h
    next => exact floatOf_ne_arr _ _ _ _ _

/-- So no array is read where a number starts. -/
theorem readNumber_ne_arr (negative : Bool) (cs : List Char) (items : List Json)
    (rest : List Char) : readNumber negative cs ≠ some (arr items, rest) := by
  intro h
  unfold readNumber at h
  obtain ⟨⟨whole, rest1⟩, _, h⟩ := Option.bind_eq_some_iff.mp h
  dsimp only at h
  split at h
  next => cases h
  next =>
    obtain ⟨⟨places, rest2⟩, _, h⟩ := Option.bind_eq_some_iff.mp h
    obtain ⟨⟨exponent, rest3⟩, _, h⟩ := Option.bind_eq_some_iff.mp h
    dsimp only at h
    split at h
    next => exact integerOf_ne_arr _ _ _ (Prod.mk.inj (Option.some.inj h)).1
    next => exact floatOf_ne_arr _ _ _ _ _ (Prod.mk.inj (Option.some.inj h)).1

/-- Nor is one made of members. -/
theorem objectOf_ne_arr (members : List (Option String × Json)) (items : List Json) :
    objectOf members ≠ arr items := by
  unfold objectOf
  split <;> exact fun h => nomatch h

/-- An array that was read is empty, or made of items that were read. -/
theorem items_of_readValue {fuel depth : Nat} {cs rest : List Char} {items : List Json}
    (h : readValue (fuel + 1) depth cs = some (arr items, rest)) :
    items = [] ∨ ∃ below, below.length ≤ cs.length ∧
      readItems fuel (depth + 1) below = some (items, rest) := by
  rw [readValue] at h
  split at h
  next => cases h
  next => cases h
  next => cases h
  next =>
    obtain ⟨⟨text, left⟩, _, heq⟩ := Option.map_eq_some_iff.mp h
    cases text <;> cases heq
  next => exact absurd h (readNumber_ne_arr _ _ _ _)
  next below heq =>
    split at h
    next =>
      left
      split at h <;> cases h
      rfl
    next =>
      right
      obtain ⟨⟨read, left⟩, hread, heq'⟩ := Option.map_eq_some_iff.mp h
      have hlt := length_lt_of_skipGap_eq heq
      have hle := length_skipGap_le below
      dsimp only at heq'
      split at heq' <;> cases heq'
      exact ⟨skipGap below, by omega, hread⟩
  next =>
    split at h
    next => split at h <;> cases h
    next =>
      obtain ⟨⟨read, left⟩, _, heq⟩ := Option.map_eq_some_iff.mp h
      dsimp only at heq
      split at heq
      next => exact absurd (Prod.mk.inj heq).1 (objectOf_ne_arr _ _)
      next => cases heq
  next => exact absurd h (readNumber_ne_arr _ _ _ _)

/-- **An array has no more items than its text has characters.** -/
theorem length_le_of_parse? {s : String} {items : List Json} (h : parse? s = some (arr items)) :
    items.length ≤ s.length := by
  unfold parse? at h
  dsimp only at h
  split at h
  next v rest hread =>
    split at h
    next =>
      cases h
      rcases items_of_readValue hread with rfl | ⟨below, hle, hitems⟩
      · exact Nat.zero_le _
      · have hfewer := (leavesFewer_read _).2.1 _ _ items rest hitems
        rw [← String.length_toList]
        omega
    next => cases h
  next => cases h

end BudgetNotes.Json
