import BudgetNotes.Proofs.Note.Reading
import BudgetNotes.Proofs.Note.SingleLines
import BudgetNotes.Proofs.Text.Endings

/-!
# Rewriting a trimmed note

A note that comes out of a merge is trimmed, at the end always and at the top
if the note before started with text. If it is rewritten again, its blocks are
found anew among fewer lines. That makes no difference to what comes out in the
end, which is trimmed, too:

> `rewriteNote_trimEnd_joinLines`, `trimTop_rewriteLines_trimTop`: lines that
> are trimmed before they are rewritten come out as if they were not.

Blank lines at the top or the end are part of no block, and the last line with
text, the one that may be trimmed itself, goes with its block or stays.

Main statement: `rewriteNote_rewriteNote` (what holds of two steps on lines
holds of two steps on notes).
-/

namespace BudgetNotes

/-! ## Rewriting lines -/

/-- What becomes of lines, the first block with number `i`. -/
def rewriteLines (new : Nat → Option (List String)) (i : Nat) (lines : List String) :
    List String :=
  rewriteBlocks new i (Layout.ofLines lines).blocks ++ (Layout.ofLines lines).rest

section

variable (new : Nat → Option (List String)) (i : Nat)

theorem rewriteLines_of_not_isDirective {lines : List String}
    (h : ∀ l ∈ lines, isDirective l = false) : rewriteLines new i lines = lines := by
  unfold rewriteLines
  rw [Layout.ofLines_of_not_isDirective h]
  rfl

/-- Blocks above lines are rewritten by themselves. -/
theorem rewriteLines_flatMap_append {blocks : List Block}
    (hw : ∀ block ∈ blocks, block.WellFormed) (lines : List String) :
    rewriteLines new i (blocks.flatMap Block.toLines ++ lines) =
      rewriteBlocks new i blocks ++ rewriteLines new (i + blocks.length) lines := by
  unfold rewriteLines
  rw [Layout.ofLines_flatMap_append hw, rewriteBlocks_append, List.append_assoc]

/-- Lines that end with a blank one, or none, stay what they are above others. -/
theorem rewriteLines_before_append {before : List String}
    (hnot : ∀ l ∈ before, isDirective l = false)
    (hlast : ∀ l ∈ before.getLast?, Text.isBlank l = true) (lines : List String) :
    rewriteLines new i (before ++ lines) = before ++ rewriteLines new i lines := by
  cases hblocks : (Layout.ofLines lines).blocks with
  | nil =>
    have hlines : ∀ l ∈ lines, isDirective l = false := by
      have hrest := Layout.not_isDirective_of_mem_rest lines
      have hself := Layout.blocks_append_rest lines
      rw [hblocks, List.flatMap_nil, List.nil_append] at hself
      rwa [hself] at hrest
    rw [rewriteLines_of_not_isDirective new i hlines, rewriteLines_of_not_isDirective]
    intro l hl
    rcases List.mem_append.mp hl with hl | hl
    · exact hnot l hl
    · exact hlines l hl
  | cons block blocks =>
    have hlayout : Layout.ofLines lines = ⟨block :: blocks, (Layout.ofLines lines).rest⟩ := by
      rw [← hblocks]
    unfold rewriteLines
    rw [Layout.ofLines_before_append hnot hlast hlayout, hblocks, rewriteBlocks, rewriteBlocks]
    simp only [List.append_assoc]

theorem rewriteLines_blank_append {above : List String}
    (h : ∀ l ∈ above, Text.isBlank l = true) (lines : List String) :
    rewriteLines new i (above ++ lines) = above ++ rewriteLines new i lines :=
  rewriteLines_before_append new i (fun l hl => not_isDirective_of_isBlank (h l hl))
    (fun l hl => h l (List.mem_of_getLast? hl)) lines

theorem rewriteLines_append_blank (lines : List String) {below : List String}
    (h : ∀ l ∈ below, Text.isBlank l = true) :
    rewriteLines new i (lines ++ below) = rewriteLines new i lines ++ below := by
  unfold rewriteLines
  rw [Layout.ofLines_append_of_not_isDirective lines
      fun l hl => not_isDirective_of_isBlank (h l hl),
    List.append_assoc]

/-- What becomes of the last line: it goes with its block, or it stays. White space at its end
makes no difference. -/
theorem rewriteLines_concat_cases (front : List String) (last : String) :
    rewriteLines new i (front ++ [Text.trimEnd last]) = rewriteLines new i (front ++ [last]) ∨
      ∃ above, rewriteLines new i (front ++ [last]) = above ++ [last] ∧
        rewriteLines new i (front ++ [Text.trimEnd last]) = above ++ [Text.trimEnd last] := by
  unfold rewriteLines
  cases hlast : isDirective last with
  | false =>
    have htrim : isDirective (Text.trimEnd last) = false := by rw [isDirective_trimEnd, hlast]
    right
    rw [Layout.ofLines_append_of_not_isDirective front (by simpa using hlast),
      Layout.ofLines_append_of_not_isDirective front (by simpa using htrim),
      ← List.append_assoc, ← List.append_assoc]
    exact ⟨_, rfl, rfl⟩
  | true =>
    have htrim : isDirective (Text.trimEnd last) = true := by rw [isDirective_trimEnd, hlast]
    obtain ⟨before, label, hlayout⟩ := Layout.exists_ofLines_concat front
    rw [hlayout _ hlast, hlayout _ htrim]
    simp only [rewriteBlocks_append, rewriteBlocks, List.append_nil]
    cases new (i + (Layout.ofLines front).blocks.length) with
    | some lines => exact Or.inl rfl
    | none =>
      right
      simp only [Option.getD_none, ← List.append_assoc]
      exact ⟨_, rfl, rfl⟩

end

/-! ## Trimming before and after -/

theorem trimTop_concat (lines front : List String) {last : String}
    (h : Text.isBlank last = false) :
    trimTop lines (front ++ [last]) = trimTop lines front ++ [last] := by
  unfold trimTop
  split
  next =>
    rw [List.dropWhile_append]
    split
    next hnil =>
      rw [List.isEmpty_iff.mp hnil,
        List.dropWhile_cons_of_neg (by rw [h]; exact Bool.false_ne_true), List.nil_append]
    next => rfl
  next => rfl

/-- Blank lines below do not count, with those at the top dropped or not. -/
theorem trimEnd_joinLines_trimTop_append_blank (lines written : List String) {below : List String}
    (h : ∀ l ∈ below, Text.isBlank l = true) :
    Text.trimEnd (Text.joinLines (trimTop lines (written ++ below))) =
      Text.trimEnd (Text.joinLines (trimTop lines written)) := by
  unfold trimTop
  split
  next =>
    rw [List.dropWhile_append]
    split
    next hnil =>
      rw [List.isEmpty_iff.mp hnil, Text.trimEnd_joinLines_of_blank fun l hl =>
        h l ((List.dropWhile_sublist _).subset hl)]
      decide
    next => exact Text.trimEnd_joinLines_append_blank _ h
  next => exact Text.trimEnd_joinLines_append_blank _ h

/-- Blank lines at the top that were dropped before lines are rewritten are as good as dropped
after. -/
theorem trimTop_rewriteLines_trimTop (new : Nat → Option (List String)) (i : Nat)
    {lines written : List String}
    (h : startsWithText lines = false → startsWithText written = false) :
    trimTop (trimTop lines written) (rewriteLines new i (trimTop lines written)) =
      trimTop lines (rewriteLines new i written) := by
  cases hlines : startsWithText lines with
  | false =>
    unfold trimTop
    rw [hlines, if_neg Bool.false_ne_true, h hlines, if_neg Bool.false_ne_true]
  | true =>
    have hwritten : rewriteLines new i written =
        written.takeWhile Text.isBlank ++ rewriteLines new i (written.dropWhile Text.isBlank) := by
      rw [← rewriteLines_blank_append new i Text.isBlank_of_mem_takeWhile,
        List.takeWhile_append_dropWhile]
    have htop : trimTop lines written = written.dropWhile Text.isBlank := by
      unfold trimTop
      rw [hlines, if_pos rfl]
    have hafter : trimTop lines (rewriteLines new i written) =
        (rewriteLines new i (written.dropWhile Text.isBlank)).dropWhile Text.isBlank := by
      unfold trimTop
      rw [hlines, if_pos rfl, hwritten,
        List.dropWhile_append_of_pos Text.isBlank_of_mem_takeWhile]
    rw [htop, hafter]
    -- what is left starts with text, if anything is left
    cases hleft : written.dropWhile Text.isBlank with
    | nil => rfl
    | cons line rest =>
      have hline := List.head?_dropWhile_not Text.isBlank written
      rw [hleft, List.head?_cons] at hline
      have hstarts : startsWithText (line :: rest) = true := by
        unfold startsWithText
        rw [List.head?_cons, Option.any_some, hline]
        rfl
      unfold trimTop
      rw [hstarts, if_pos rfl]

/-- A note after its blocks are rewritten, trimmed at both ends as notes are. -/
def rewriteNote (new : Nat → Option (List String)) (note : String) : String :=
  Text.trimEnd (Text.joinLines
    (trimTop (Text.splitLines note) (rewriteLines new 0 (Text.splitLines note))))

/-- Lines that were trimmed at the end before they are rewritten come out the same. -/
theorem rewriteNote_trimEnd_joinLines (new : Nat → Option (List String)) {lines : List String}
    (h : ∀ l ∈ lines, '\n' ∉ l.toList) :
    rewriteNote new (Text.trimEnd (Text.joinLines lines)) =
      Text.trimEnd (Text.joinLines (trimTop lines (rewriteLines new 0 lines))) := by
  unfold rewriteNote
  rcases Text.splitLines_trimEnd_joinLines h with
    ⟨hblank, hcut⟩ | ⟨front, last, below, rfl, hlast, hbelow, hcut⟩
  · -- no text, and no directive either
    have hempty : ∀ l ∈ [""], Text.isBlank l = true := by decide
    rw [hcut, rewriteLines_of_not_isDirective _ _ fun l hl =>
        not_isDirective_of_isBlank (hempty l hl),
      rewriteLines_of_not_isDirective _ _ fun l hl => not_isDirective_of_isBlank (hblank l hl),
      Text.trimEnd_joinLines_of_blank fun l hl => hempty l ((trimTop_sublist _ _).subset hl),
      Text.trimEnd_joinLines_of_blank fun l hl => hblank l ((trimTop_sublist _ _).subset hl)]
  · have htrim : Text.isBlank (Text.trimEnd last) = false := by rw [Text.isBlank_trimEnd, hlast]
    have hsame : ∀ written, trimTop (front ++ last :: below) written =
        trimTop (front ++ [Text.trimEnd last]) written := by
      intro written
      unfold trimTop startsWithText
      cases front with
      | nil => rw [List.nil_append, List.nil_append, List.head?_cons, List.head?_cons,
          Option.any_some, Option.any_some, Text.isBlank_trimEnd]
      | cons line front => rfl
    have hlines : front ++ last :: below = front ++ [last] ++ below := by simp
    rw [hcut, hsame, hlines, rewriteLines_append_blank _ _ _ hbelow,
      trimEnd_joinLines_trimTop_append_blank _ _ hbelow]
    rcases rewriteLines_concat_cases new 0 front last with heq | ⟨above, heq, htrimmed⟩
    · rw [heq]
    · rw [heq, htrimmed, trimTop_concat _ _ hlast, trimTop_concat _ _ htrim,
        Text.trimEnd_joinLines_concat _ hlast, Text.trimEnd_joinLines_concat _ htrim,
        Text.trimEnd_idem]

theorem startsWithText_rewriteLines (new : Nat → Option (List String)) (i : Nat)
    {lines : List String} (h : startsWithText lines = false) :
    startsWithText (rewriteLines new i lines) = false := by
  cases lines with
  | nil => rfl
  | cons line lines =>
    have hblank : Text.isBlank line = true := by
      unfold startsWithText at h
      rwa [List.head?_cons, Option.any_some, Bool.not_eq_false'] at h
    rw [← List.singleton_append, rewriteLines_blank_append new i (by simpa using hblank)]
    exact h

/-- A note that is rewritten in two steps, if its lines are. -/
theorem rewriteNote_rewriteNote_of_lines {first second both : Nat → Option (List String)}
    {note : String} (hfeeds : ∀ l ∈ rewriteLines first 0 (Text.splitLines note), '\n' ∉ l.toList)
    (h : rewriteLines second 0 (rewriteLines first 0 (Text.splitLines note)) =
      rewriteLines both 0 (Text.splitLines note)) :
    rewriteNote second (rewriteNote first note) = rewriteNote both note := by
  have htrimmed : ∀ l ∈ trimTop (Text.splitLines note)
      (rewriteLines first 0 (Text.splitLines note)), '\n' ∉ l.toList :=
    fun l hl => hfeeds l ((trimTop_sublist _ _).subset hl)
  have htop := trimTop_rewriteLines_trimTop second 0
    (@startsWithText_rewriteLines first 0 (Text.splitLines note))
  show rewriteNote second (Text.trimEnd (Text.joinLines (trimTop (Text.splitLines note)
    (rewriteLines first 0 (Text.splitLines note))))) = _
  rw [rewriteNote_trimEnd_joinLines second htrimmed, htop, h]
  rfl

/-- Lines that are rewritten in two steps make a note that is rewritten in two steps. -/
theorem rewriteNote_rewriteNote {first second both : Nat → Option (List String)}
    (hfirst : ∀ k lines, first k = some lines → ∀ l ∈ lines, '\n' ∉ l.toList)
    (h : ∀ lines, rewriteLines second 0 (rewriteLines first 0 lines) = rewriteLines both 0 lines)
    (note : String) : rewriteNote second (rewriteNote first note) = rewriteNote both note :=
  rewriteNote_rewriteNote_of_lines
    (not_mem_rewriteBlocks hfirst (fun _ hl => Text.not_mem_of_mem_splitLines hl) 0)
    (h (Text.splitLines note))

end BudgetNotes
