import BudgetNotes.Proofs.Json.KeyOrder
import BudgetNotes.Proofs.Json.Scalars

/-!
# Printed values are read back

A printed value is read back with the members of its objects sorted, in either
style: what the styles add is white space, which the reader drops wherever they
add it. The values are those that the reader can tell apart (`Printable`).

> `readValue_printAt`: the value is read, whatever follows it, as long as a
> number does not go on there.

The reader counts its steps; two for each character are enough, since every
container and every item takes a character of its own.

Main statement: `parse?_print`.
-/

namespace BudgetNotes.Json

mutual

/-- Whether a value with `depth` containers around it is read back: its integers fit 64 bits, its
containers are not nested too deep, and nothing in it is floating point or denotes nothing. -/
def Printable (depth : Nat) : Json → Prop
  | int n => -9223372036854775808 ≤ n ∧ n ≤ 18446744073709551615
  | arr items => depth < maxDepth ∧ PrintableItems (depth + 1) items
  | obj members => depth < maxDepth ∧ PrintableMembers (depth + 1) members
  | float .. | malformed => False
  | _ => True

/-- Whether all items are read back. -/
def PrintableItems (depth : Nat) : List Json → Prop
  | [] => True
  | v :: rest => Printable depth v ∧ PrintableItems depth rest

/-- Whether the values of all members are read back. -/
def PrintableMembers (depth : Nat) : List (String × Json) → Prop
  | [] => True
  | (_, v) :: rest => Printable depth v ∧ PrintableMembers depth rest

end

/-! ## White space -/

/-- White space in front is skipped, however much it is. -/
theorem skipGap_append {gap : List Char} (h : ∀ c ∈ gap, isGap c = true) (cs : List Char) :
    skipGap (gap ++ cs) = skipGap cs :=
  List.dropWhile_append_of_pos h

/-- Nothing is skipped before another character. -/
theorem skipGap_cons {c : Char} (h : isGap c = false) (cs : List Char) :
    skipGap (c :: cs) = c :: cs :=
  List.dropWhile_cons_of_neg (by rw [h]; exact Bool.false_ne_true)

/-- What is printed between items is white space. -/
theorem isGap_lineBreak (style : Style) (depth : Nat) :
    ∀ c ∈ style.lineBreak depth, isGap c = true := by
  intro c h
  cases style with
  | oneLine => cases h
  | indented =>
    rcases List.mem_cons.mp h with rfl | h
    · rfl
    · rw [List.eq_of_mem_replicate h]
      rfl

/-- A colon, and white space. -/
theorem exists_colon (style : Style) :
    ∃ gap, style.colon = ':' :: gap ∧ ∀ c ∈ gap, isGap c = true := by
  cases style with
  | oneLine => exact ⟨[], rfl, List.forall_mem_nil _⟩
  | indented => exact ⟨[' '], rfl, List.forall_mem_singleton.mpr rfl⟩

section

variable {cs cs' : List Char} (h : skipGap cs = skipGap cs') (fuel depth : Nat)
include h

/-- White space before a value does not matter. -/
theorem readValue_congr : readValue fuel depth cs = readValue fuel depth cs' := by
  cases fuel with
  | zero => rfl
  | succ fuel => rw [readValue, readValue, h]

theorem readItems_congr : readItems fuel depth cs = readItems fuel depth cs' := by
  cases fuel with
  | zero => rfl
  | succ fuel => rw [readItems, readItems, readValue_congr h]

theorem readMembers_congr : readMembers fuel depth cs = readMembers fuel depth cs' := by
  cases fuel with
  | zero => rfl
  | succ fuel => rw [readMembers, readMembers, h]

end

theorem skipGap_skipGap (cs : List Char) : skipGap (skipGap cs) = skipGap cs := by
  induction cs with
  | nil => rfl
  | cons c cs ih =>
    cases hc : isGap c with
    | true =>
      have hskip : skipGap (c :: cs) = skipGap cs := List.dropWhile_cons_of_pos hc
      rw [hskip, ih]
    | false => rw [skipGap_cons hc, skipGap_cons hc]

/-! ## First characters -/

theorem isDigit_of_toDigits_eq {n : Nat} {c : Char} {digits : List Char}
    (h : Nat.toDigits 10 n = c :: digits) : c.isDigit = true := by
  have hmem : c ∈ Nat.toDigits 10 n := by
    rw [h]
    exact List.mem_cons_self ..
  exact Nat.isDigit_of_mem_toDigits (by decide) (by decide) hmem

/-- A printed integer starts with its sign or a digit. -/
theorem exists_intChars (n : Int) :
    ∃ c cs, intChars n = c :: cs ∧ (c = '-' ∨ c.isDigit = true) := by
  cases hdigits : Nat.toDigits 10 n.natAbs with
  | nil => exact absurd hdigits Nat.toDigits_ne_nil
  | cons c digits =>
    unfold intChars
    rw [hdigits]
    split
    next => exact ⟨'-', _, rfl, Or.inl rfl⟩
    next => exact ⟨c, _, rfl, Or.inr (isDigit_of_toDigits_eq hdigits)⟩

/-- A digit is not skipped. -/
theorem not_isGap_of_isDigit {c : Char} (h : c.isDigit = true) : isGap c = false := by
  rw [Bool.eq_false_iff]
  intro hgap
  unfold isGap at hgap
  simp only [Bool.or_eq_true, decide_eq_true_eq] at hgap
  rcases hgap with ((rfl | rfl) | rfl) | rfl <;> exact absurd h (by decide)

/-- A printed value starts with a character of its own, which closes no array. -/
theorem exists_printAt (style : Style) (depth : Nat) {v : Json} {around : Nat}
    (hv : Printable around v) :
    ∃ c cs, printAt style depth v = c :: cs ∧ isGap c = false ∧ c ≠ ']' := by
  cases v with
  | null => exact ⟨'n', _, rfl, rfl, by decide⟩
  | bool b =>
    cases b with
    | false => exact ⟨'f', _, rfl, rfl, by decide⟩
    | true => exact ⟨'t', _, rfl, rfl, by decide⟩
  | int n =>
    obtain ⟨c, cs, hprint, rfl | hc⟩ := exists_intChars n
    · exact ⟨'-', cs, by rw [printAt, hprint], rfl, by decide⟩
    · refine ⟨c, cs, by rw [printAt, hprint], not_isGap_of_isDigit hc, ?_⟩
      rintro rfl
      exact absurd hc (by decide)
  | float negative size => rw [Printable] at hv; exact hv.elim
  | str text => exact ⟨'"', _, by rw [printAt]; rfl, rfl, by decide⟩
  | arr items =>
    cases items with
    | nil => exact ⟨'[', _, rfl, rfl, by decide⟩
    | cons v items => exact ⟨'[', _, by rw [printAt]; rfl, rfl, by decide⟩
  | obj members =>
    cases members with
    | nil => exact ⟨'\x7b', _, rfl, rfl, by decide⟩
    | cons m members => exact ⟨'\x7b', _, by rw [printAt]; rfl, rfl, by decide⟩
  | malformed => rw [Printable] at hv; exact hv.elim

/-- A value takes at least one character. -/
theorem length_printAt_pos (style : Style) (depth : Nat) {v : Json} {around : Nat}
    (hv : Printable around v) : 1 ≤ (printAt style depth v).length := by
  obtain ⟨c, cs, hprint, _, _⟩ := exists_printAt style depth hv
  rw [hprint]
  exact Nat.succ_pos _

/-! ## Containers and what is in them -/

section

variable (style : Style) (depth : Nat)

theorem printItems_cons (v : Json) (items : List Json) :
    printItems style depth (v :: items) =
      ',' :: (style.lineBreak depth ++
        (printAt style depth v ++ printItems style depth items)) := by
  rw [printItems]
  simp

theorem printMembers_cons (key : String) (v : Json) (members : List (String × Json)) :
    printMembers style depth ((key, v) :: members) =
      ',' :: (style.lineBreak depth ++ (quoted key ++ (style.colon ++
        (printAt style depth v ++ printMembers style depth members)))) := by
  rw [printMembers]
  simp

/-- An array is printed as its items, without the comma before the first. -/
theorem printAt_arr {items : List Json} {chars : List Char}
    (h : printItems style (depth + 1) items = ',' :: chars) :
    printAt style depth (arr items) = '[' :: (chars ++ (style.lineBreak depth ++ [']'])) := by
  cases items with
  | nil => cases h
  | cons v items =>
    rw [printItems_cons] at h
    rw [printAt, ← (List.cons.inj h).2]
    simp

/-- An object is printed as its members, without the comma before the first. -/
theorem printAt_obj {members : List (String × Json)} {chars : List Char}
    (h : printMembers style (depth + 1) members = ',' :: chars) :
    printAt style depth (obj members) =
      '\x7b' :: (chars ++ (style.lineBreak depth ++ ['\x7d'])) := by
  cases members with
  | nil => cases h
  | cons m members =>
    rw [printMembers_cons] at h
    rw [printAt, ← (List.cons.inj h).2]
    simp

end

/-- A quoted text is a quote, its characters and a quote. -/
theorem quoted_append (s : String) (rest : List Char) :
    quoted s ++ rest = '"' :: (s.toList.flatMap escapeChar ++ '"' :: rest) := by
  unfold quoted
  simp

/-- What starts with a digit is read as a number. -/
theorem readValue_of_isDigit {c : Char} (h : c.isDigit = true) (fuel depth : Nat) (cs : List Char) :
    readValue (fuel + 1) depth (c :: cs) = readNumber false (c :: cs) := by
  rw [readValue, skipGap_cons (not_isGap_of_isDigit h)]
  split
  next heq => cases heq; cases h
  next heq => cases heq; cases h
  next heq => cases heq; cases h
  next heq => cases heq; cases h
  next heq => cases heq; cases h
  next heq => cases heq; cases h
  next heq => cases heq; cases h
  next => rfl

/-- An integer is read, its sign and its digits. -/
theorem readValue_intChars {n : Int} (hlow : -9223372036854775808 ≤ n)
    (hhigh : n ≤ 18446744073709551615) (fuel depth : Nat) {rest : List Char}
    (h : EndsNumber rest) :
    readValue (fuel + 1) depth (intChars n ++ rest) = some (int n, rest) := by
  have hread := readNumber_toDigits (decide (n < 0)) n.natAbs h
  rw [integerOf_toDigits hlow hhigh] at hread
  unfold intChars
  by_cases hneg : n < 0
  · rw [decide_eq_true hneg] at hread
    rw [if_pos hneg, ← hread, readValue]
    rfl
  · rw [decide_eq_false hneg] at hread
    rw [if_neg hneg, List.nil_append, ← hread]
    cases hdigits : Nat.toDigits 10 n.natAbs with
    | nil => exact absurd hdigits Nat.toDigits_ne_nil
    | cons c digits => exact readValue_of_isDigit (isDigit_of_toDigits_eq hdigits) fuel depth _

/-- After an opening bracket come items, if it is not closed at once. -/
theorem readValue_bracket (fuel depth : Nat) {cs : List Char}
    (h : (skipGap cs).head? ≠ some ']') :
    readValue (fuel + 1) depth ('[' :: cs) =
      (readItems fuel (depth + 1) cs).map fun (items, rest) =>
        (if depth < maxDepth then arr items else malformed, rest) := by
  rw [readValue, skipGap_cons rfl, ← readItems_congr (skipGap_skipGap cs)]
  split
  next heq => cases heq
  next heq => cases heq
  next heq => cases heq
  next heq => cases heq
  next heq => cases heq
  next heq =>
    cases heq
    split
    next heq =>
      rw [heq] at h
      exact absurd rfl h
    next => rfl
  next heq => cases heq
  next hno _ => exact absurd rfl (hno cs)

/-- After an opening brace come members, if it is not closed at once. -/
theorem readValue_brace (fuel depth : Nat) {cs : List Char}
    (h : (skipGap cs).head? ≠ some '\x7d') :
    readValue (fuel + 1) depth ('\x7b' :: cs) =
      (readMembers fuel (depth + 1) cs).map fun (members, rest) =>
        (if depth < maxDepth then objectOf members else malformed, rest) := by
  rw [readValue, skipGap_cons rfl, ← readMembers_congr (skipGap_skipGap cs)]
  split
  next heq => cases heq
  next heq => cases heq
  next heq => cases heq
  next heq => cases heq
  next heq => cases heq
  next heq => cases heq
  next heq =>
    cases heq
    split
    next heq =>
      rw [heq] at h
      exact absurd rfl h
    next => rfl
  next hno => exact absurd rfl (hno cs)

section

variable {fuel depth : Nat} {v : Json} {cs below : List Char}
  (hv : readValue fuel depth cs = some (v, below)) {next rest : List Char}
include hv

/-- The last item is followed by the bracket. -/
theorem readItems_last (h : skipGap below = ']' :: rest) :
    readItems (fuel + 1) depth cs = some ([v], rest) := by
  simp only [readItems, hv, h]

/-- Another item follows a comma. -/
theorem readItems_next (h : skipGap below = ',' :: next) {items : List Json}
    (hitems : readItems fuel depth next = some (items, rest)) :
    readItems (fuel + 1) depth cs = some (v :: items, rest) := by
  simp only [readItems, hv, h, hitems, Option.map_some]

variable (style : Style) (key : String)

/-- The last member is followed by the brace. -/
theorem readMembers_last (h : skipGap below = '\x7d' :: rest) :
    readMembers (fuel + 1) depth (quoted key ++ (style.colon ++ cs)) =
      some ([(some key, v)], rest) := by
  obtain ⟨gap, hcolon, hgap⟩ := exists_colon style
  have hcolonSkip := skipGap_cons (show isGap ':' = false from rfl) (gap ++ cs)
  rw [readMembers, quoted_append, skipGap_cons rfl]
  simp only [readText_quoted, hcolon, List.cons_append, hcolonSkip,
    readValue_congr (skipGap_append hgap cs), hv, h]

/-- Another member follows a comma. -/
theorem readMembers_next (h : skipGap below = ',' :: next)
    {members : List (Option String × Json)}
    (hmembers : readMembers fuel depth next = some (members, rest)) :
    readMembers (fuel + 1) depth (quoted key ++ (style.colon ++ cs)) =
      some ((some key, v) :: members, rest) := by
  obtain ⟨gap, hcolon, hgap⟩ := exists_colon style
  have hcolonSkip := skipGap_cons (show isGap ':' = false from rfl) (gap ++ cs)
  rw [readMembers, quoted_append, skipGap_cons rfl]
  simp only [readText_quoted, hcolon, List.cons_append, hcolonSkip,
    readValue_congr (skipGap_append hgap cs), hv, h,
    hmembers, Option.map_some]

end

/-- Members whose keys denote something make an object. -/
theorem objectOf_map_some (members : List (String × Json)) :
    objectOf (members.map fun m => (some m.1, m.2)) = obj members := by
  have hkeys : (members.map fun m => (some m.1, m.2)).mapM
      (fun m : Option String × Json => m.1.map (·, m.2)) = some members := by
    induction members with
    | nil => rfl
    | cons m members ih =>
      rw [List.map_cons, List.mapM_cons, ih]
      rfl
  unfold objectOf
  split
  next read hread => rw [Option.some.inj (hread.symm.trans hkeys)]
  next hnone => cases hnone.symm.trans hkeys

/-- White space and a separator end a number. -/
theorem endsNumber_gap {gap : List Char} (hgap : ∀ c ∈ gap, isGap c = true) {c : Char}
    (hc : c = ',' ∨ c = ']' ∨ c = '\x7d') (rest : List Char) : EndsNumber (gap ++ c :: rest) := by
  intro d hd
  cases gap with
  | nil =>
    cases hd
    rcases hc with rfl | rfl | rfl <;> exact ⟨rfl, by decide, by decide, by decide⟩
  | cons g gap =>
    cases hd
    have hg := hgap d (List.mem_cons_self ..)
    refine ⟨?_, ?_, ?_, ?_⟩
    · rw [Bool.eq_false_iff]
      intro hdigit
      rw [not_isGap_of_isDigit hdigit] at hg
      cases hg
    all_goals
      rintro rfl
      cases hg

/-! ## Values -/

mutual

/-- A printed value is read, and what follows it is left. -/
theorem readValue_printAt (style : Style) : ∀ (v : Json) (fuel depth : Nat) {rest : List Char},
    Printable depth v → 2 * (printAt style depth v).length ≤ fuel + 1 → EndsNumber rest →
      readValue (fuel + 1) depth (printAt style depth v ++ rest) = some (v, rest)
  | null, _, _, _, _, _, _ => rfl
  | bool false, _, _, _, _, _, _ => rfl
  | bool true, _, _, _, _, _, _ => rfl
  | int n, fuel, depth, rest, hv, _, hrest => by
    rw [Printable] at hv
    rw [printAt]
    exact readValue_intChars hv.1 hv.2 fuel depth hrest
  | float .., _, _, _, hv, _, _ => by
    rw [Printable] at hv
    exact hv.elim
  | malformed, _, _, _, hv, _, _ => by
    rw [Printable] at hv
    exact hv.elim
  | str text, fuel, depth, rest, _, _, _ => by
    have hquote : ∀ below, readValue (fuel + 1) depth ('"' :: below) =
        (readText below).map fun (text, rest) => ((text.map str).getD malformed, rest) := by
      intro below
      rw [readValue, skipGap_cons rfl]
      rfl
    rw [printAt, quoted_append, hquote, readText_quoted]
    rfl
  | arr [], fuel, depth, rest, hv, _, _ => by
    rw [Printable] at hv
    have hclosed : readValue (fuel + 1) depth ('[' :: ']' :: rest) =
        some (if depth < maxDepth then arr [] else malformed, rest) := by
      rw [readValue, skipGap_cons rfl]
      rfl
    rw [printAt]
    exact hclosed.trans (by rw [if_pos hv.1])
  | obj [], fuel, depth, rest, hv, _, _ => by
    rw [Printable] at hv
    have hclosed : readValue (fuel + 1) depth ('\x7b' :: '\x7d' :: rest) =
        some (if depth < maxDepth then obj [] else malformed, rest) := by
      rw [readValue, skipGap_cons rfl]
      rfl
    rw [printAt]
    exact hclosed.trans (by rw [if_pos hv.1])
  | arr (v :: items), fuel, depth, rest, hv, hfuel, _ => by
    rw [Printable] at hv
    obtain ⟨chars, hchars⟩ : ∃ chars, printItems style (depth + 1) (v :: items) = ',' :: chars :=
      ⟨_, rfl⟩
    have hopen : (skipGap (chars ++ (style.lineBreak depth ++ ']' :: rest))).head? ≠ some ']' := by
      obtain ⟨c, cs, hfirst, hgap, hne⟩ := exists_printAt style (depth + 1) hv.2.1
      rw [printItems_cons, hfirst] at hchars
      rw [← (List.cons.inj hchars).2]
      simp [skipGap_append (isGap_lineBreak _ _), skipGap_cons hgap, hne]
    rw [printAt_arr style depth hchars] at hfuel ⊢
    simp only [List.length_cons, List.length_append] at hfuel
    obtain ⟨fuel, rfl⟩ := Nat.exists_eq_add_of_le' (show 1 ≤ fuel by omega)
    have hitems : readItems (fuel + 1) (depth + 1)
        (chars ++ (style.lineBreak depth ++ ']' :: rest)) = some (v :: items, rest) :=
      readItems_printItems style (v :: items) fuel (depth + 1) hchars hv.2 (by omega)
        (isGap_lineBreak style depth)
    simp only [List.cons_append, List.append_assoc, List.nil_append]
    rw [readValue_bracket _ _ hopen, hitems, Option.map_some]
    simp only [if_pos hv.1]
  | obj ((key, v) :: members), fuel, depth, rest, hv, hfuel, _ => by
    rw [Printable] at hv
    obtain ⟨chars, hchars⟩ :
        ∃ chars, printMembers style (depth + 1) ((key, v) :: members) = ',' :: chars := ⟨_, rfl⟩
    have hopen :
        (skipGap (chars ++ (style.lineBreak depth ++ '\x7d' :: rest))).head? ≠ some '\x7d' := by
      rw [printMembers_cons, quoted_append] at hchars
      rw [← (List.cons.inj hchars).2]
      have hquote : isGap '"' = false := rfl
      simp [skipGap_append (isGap_lineBreak _ _), skipGap_cons hquote]
    rw [printAt_obj style depth hchars] at hfuel ⊢
    simp only [List.length_cons, List.length_append] at hfuel
    obtain ⟨fuel, rfl⟩ := Nat.exists_eq_add_of_le' (show 1 ≤ fuel by omega)
    have hmembers : readMembers (fuel + 1) (depth + 1)
        (chars ++ (style.lineBreak depth ++ '\x7d' :: rest)) =
          some (((key, v) :: members).map fun m => (some m.1, m.2), rest) :=
      readMembers_printMembers style ((key, v) :: members) fuel (depth + 1) hchars hv.2 (by omega)
        (isGap_lineBreak style depth)
    simp only [List.cons_append, List.append_assoc, List.nil_append]
    rw [readValue_brace _ _ hopen, hmembers, Option.map_some]
    simp only [if_pos hv.1, objectOf_map_some]

/-- Printed items are read, the comma before the first already taken. -/
theorem readItems_printItems (style : Style) : ∀ (items : List Json) (fuel depth : Nat)
    {chars gap rest : List Char}, printItems style depth items = ',' :: chars →
    PrintableItems depth items → 2 * chars.length ≤ fuel → (∀ c ∈ gap, isGap c = true) →
      readItems (fuel + 1) depth (chars ++ (gap ++ ']' :: rest)) = some (items, rest)
  | [], _, _, _, _, _, hchars, _, _, _ => by
    cases hchars
  | v :: items, fuel, depth, chars, gap, rest, hchars, hitems, hfuel, hgap => by
    obtain ⟨hv, hitems⟩ := hitems
    have hpos := length_printAt_pos style depth hv
    rw [printItems_cons] at hchars
    rw [← (List.cons.inj hchars).2] at hfuel ⊢
    simp only [List.length_append] at hfuel
    obtain ⟨fuel, rfl⟩ := Nat.exists_eq_add_of_le' (show 1 ≤ fuel by omega)
    rw [List.append_assoc, List.append_assoc,
      readItems_congr (skipGap_append (isGap_lineBreak style depth) _)]
    cases items with
    | nil =>
      have hend : EndsNumber (gap ++ ']' :: rest) := endsNumber_gap hgap (by simp) rest
      refine readItems_last (readValue_printAt style v fuel depth hv (by omega) hend) ?_
      rw [skipGap_append hgap, skipGap_cons rfl]
    | cons w items =>
      obtain ⟨more, hmore⟩ : ∃ more, printItems style depth (w :: items) = ',' :: more := ⟨_, rfl⟩
      rw [hmore, List.length_cons] at hfuel
      rw [hmore, List.cons_append]
      have hend : EndsNumber (',' :: (more ++ (gap ++ ']' :: rest))) :=
        endsNumber_gap (List.forall_mem_nil _) (by simp) _
      exact readItems_next (readValue_printAt style v fuel depth hv (by omega) hend)
        (skipGap_cons rfl _)
        (readItems_printItems style (w :: items) fuel depth hmore hitems (by omega) hgap)

/-- Printed members are read, the comma before the first already taken. -/
theorem readMembers_printMembers (style : Style) :
    ∀ (members : List (String × Json)) (fuel depth : Nat) {chars gap rest : List Char},
    printMembers style depth members = ',' :: chars → PrintableMembers depth members →
    2 * chars.length ≤ fuel → (∀ c ∈ gap, isGap c = true) →
      readMembers (fuel + 1) depth (chars ++ (gap ++ '\x7d' :: rest)) =
        some (members.map fun m => (some m.1, m.2), rest)
  | [], _, _, _, _, _, hchars, _, _, _ => by
    cases hchars
  | (key, v) :: members, fuel, depth, chars, gap, rest, hchars, hmembers, hfuel, hgap => by
    obtain ⟨hv, hmembers⟩ := hmembers
    have hpos := length_printAt_pos style depth hv
    rw [printMembers_cons] at hchars
    rw [← (List.cons.inj hchars).2] at hfuel ⊢
    simp only [List.length_append] at hfuel
    obtain ⟨fuel, rfl⟩ := Nat.exists_eq_add_of_le' (show 1 ≤ fuel by omega)
    rw [List.append_assoc, List.append_assoc, List.append_assoc, List.append_assoc,
      readMembers_congr (skipGap_append (isGap_lineBreak style depth) _)]
    cases members with
    | nil =>
      have hend : EndsNumber (gap ++ '\x7d' :: rest) := endsNumber_gap hgap (by simp) rest
      refine readMembers_last (readValue_printAt style v fuel depth hv (by omega) hend) style key ?_
      rw [skipGap_append hgap, skipGap_cons rfl]
    | cons m members =>
      obtain ⟨more, hmore⟩ : ∃ more, printMembers style depth (m :: members) = ',' :: more :=
        ⟨_, rfl⟩
      rw [hmore, List.length_cons] at hfuel
      rw [hmore, List.cons_append]
      have hend : EndsNumber (',' :: (more ++ (gap ++ '\x7d' :: rest))) :=
        endsNumber_gap (List.forall_mem_nil _) (by simp) _
      exact readMembers_next (readValue_printAt style v fuel depth hv (by omega) hend) style key
        (skipGap_cons rfl _)
        (readMembers_printMembers style (m :: members) fuel depth hmore hmembers (by omega) hgap)

end

/-! ## Whole texts -/

/-- Members can be printed if the value of each can. -/
theorem printableMembers_iff (depth : Nat) (members : List (String × Json)) :
    PrintableMembers depth members ↔ ∀ m ∈ members, Printable depth m.2 := by
  induction members with
  | nil => simp [PrintableMembers]
  | cons m members ih => rw [PrintableMembers, ih, List.forall_mem_cons]

mutual

/-- The order of members does not matter. -/
theorem Printable.sortKeys : ∀ {v : Json} {depth : Nat}, Printable depth v →
    Printable depth v.sortKeys
  | null, _, h | bool _, _, h | int _, _, h | float .., _, h | str _, _, h | malformed, _, h => h
  | arr items, depth, h => by
    rw [Printable] at h
    rw [Json.sortKeys, Printable]
    exact ⟨h.1, PrintableItems.sortKeysItems h.2⟩
  | obj members, depth, h => by
    rw [Printable] at h
    have hperm : (sortedMembers members).Perm (sortKeysMembers members) :=
      List.mergeSort_perm _ _
    have hmembers := (printableMembers_iff _ _).mp (PrintableMembers.sortKeysMembers h.2)
    rw [sortKeys_obj, Printable, printableMembers_iff]
    exact ⟨h.1, fun m hm => hmembers m (hperm.mem_iff.mp hm)⟩

theorem PrintableItems.sortKeysItems : ∀ {items : List Json} {depth : Nat},
    PrintableItems depth items → PrintableItems depth (Json.sortKeysItems items)
  | [], _, h => h
  | _ :: _, _, h => ⟨Printable.sortKeys h.1, PrintableItems.sortKeysItems h.2⟩

theorem PrintableMembers.sortKeysMembers : ∀ {members : List (String × Json)} {depth : Nat},
    PrintableMembers depth members → PrintableMembers depth (Json.sortKeysMembers members)
  | [], _, h => h
  | _ :: _, _, h => ⟨Printable.sortKeys h.1, PrintableMembers.sortKeysMembers h.2⟩

end

/-- **A printed value is read back**, with the members of its objects in the order of their keys. -/
theorem parse?_print (style : Style) {v : Json} (h : Printable 0 v) :
    parse? (v.print style) = some v.sortKeys := by
  have hend : EndsNumber [] := fun c hc => nomatch hc
  have hread := readValue_printAt style v.sortKeys
    (2 * (printAt style 0 v.sortKeys).length + 1) 0 h.sortKeys (by omega) hend
  rw [List.append_nil] at hread
  unfold parse? print
  simp only [String.toList_ofList, hread]
  rfl

end BudgetNotes.Json
