/-!
# White space and lines

White space is Unicode's `White_Space` property, at the ends of an amount as
in a line of a note. `trim`, `trimStart` and `trimEnd` cut the longest run of
it from an end; a text is blank when nothing else is in it.

A text is cut at every line feed and at nothing else, so a carriage return
stays in its line. The empty text has one empty line. Joining puts one line
feed between neighbours and undoes the cut.

Main statements: `joinLines_splitLines` (nothing is lost) and
`not_mem_of_mem_splitLines` (no line holds a line feed).
-/

namespace BudgetNotes.Text

/-! ## White space -/

/-- The 25 characters of the `White_Space` property. -/
def isSpace (c : Char) : Bool :=
  let n := c.toNat
  (0x09 ≤ n && n ≤ 0x0D) || n == 0x20 || n == 0x85 || n == 0xA0 || n == 0x1680 ||
    (0x2000 ≤ n && n ≤ 0x200A) || n == 0x2028 || n == 0x2029 || n == 0x202F ||
    n == 0x205F || n == 0x3000

/-- The characters of a text without the white space at its end. -/
def trimEndChars (cs : List Char) : List Char :=
  (cs.reverse.dropWhile isSpace).reverse

/-- The characters of a text without the white space at both ends. -/
def trimChars (cs : List Char) : List Char :=
  trimEndChars (cs.dropWhile isSpace)

/-- A text without the white space at its start. -/
def trimStart (s : String) : String :=
  String.ofList (s.toList.dropWhile isSpace)

/-- A text without the white space at its end. -/
def trimEnd (s : String) : String :=
  String.ofList (trimEndChars s.toList)

/-- A text without the white space at both ends. -/
def trim (s : String) : String :=
  String.ofList (trimChars s.toList)

/-- Whether a text holds white space only. -/
def isBlank (s : String) : Bool :=
  s.toList.all isSpace

/-! ## Lines -/

/-- Cuts a list of characters at every line feed. -/
def cutLines : List Char → List (List Char)
  | [] => [[]]
  | c :: cs =>
    if c = '\n' then [] :: cutLines cs
    else match cutLines cs with
      | [] => [[c]]
      | line :: rest => (c :: line) :: rest

/-- The lines of a text; a text without a line feed is one line. -/
def splitLines (s : String) : List String :=
  (cutLines s.toList).map String.ofList

/-- The lines with one line feed between neighbours. -/
def joinLines : List String → String
  | [] => ""
  | [line] => line
  | line :: rest => line ++ "\n" ++ joinLines rest

/-! ## Laws of lines -/

/-- There is always a first line. -/
theorem cutLines_ne_nil (cs : List Char) : cutLines cs ≠ [] := by
  cases cs with
  | nil => simp [cutLines]
  | cons c cs =>
    simp only [cutLines]
    split
    · simp
    · split <;> simp

/-- No piece holds a line feed. -/
theorem not_mem_of_mem_cutLines {cs line : List Char} (h : line ∈ cutLines cs) :
    '\n' ∉ line := by
  induction cs generalizing line with
  | nil => simp_all [cutLines]
  | cons c cs ih =>
    simp only [cutLines] at h
    split at h
    next hc =>
      rcases List.mem_cons.mp h with rfl | h
      · simp
      · exact ih h
    next hc =>
      split at h
      next hcut => exact absurd hcut (cutLines_ne_nil cs)
      next first rest hcut =>
        rw [hcut] at ih
        rcases List.mem_cons.mp h with rfl | h
        · have := ih (List.mem_cons_self ..)
          simp [this, Ne.symm hc]
        · exact ih (List.mem_cons_of_mem _ h)

/-- No line holds a line feed. -/
theorem not_mem_of_mem_splitLines {s line : String} (h : line ∈ splitLines s) :
    '\n' ∉ line.toList := by
  obtain ⟨cs, hcs, rfl⟩ := List.mem_map.mp h
  simpa using not_mem_of_mem_cutLines hcs

/-- Joining the lines of a text gives it back. -/
theorem joinLines_splitLines (s : String) : joinLines (splitLines s) = s := by
  suffices h : ∀ cs : List Char, joinLines ((cutLines cs).map String.ofList) = String.ofList cs by
    simpa [splitLines] using h s.toList
  intro cs
  induction cs with
  | nil => simp [cutLines, joinLines]
  | cons c cs ih =>
    simp only [cutLines]
    split
    next hc =>
      obtain ⟨line, rest, hcut⟩ := List.exists_cons_of_ne_nil (cutLines_ne_nil cs)
      rw [hcut] at ih ⊢
      rw [List.map_cons, List.map_cons, joinLines, ← List.map_cons, ih, hc]
      · apply String.toList_inj.mp
        simp
      · simp
    next hc =>
      obtain ⟨line, rest, hcut⟩ := List.exists_cons_of_ne_nil (cutLines_ne_nil cs)
      rw [hcut] at ih ⊢
      cases rest with
      | nil =>
        simp only [List.map_cons, List.map_nil, joinLines] at ih ⊢
        rw [String.ofList_inj.mp ih]
      | cons next rest =>
        simp only [List.map_cons, joinLines] at ih ⊢
        apply String.toList_inj.mp
        have := String.toList_inj.mpr ih
        simp only [String.toList_append, String.toList_ofList] at this ⊢
        simp [← this]

end BudgetNotes.Text
