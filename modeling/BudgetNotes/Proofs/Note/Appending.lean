import BudgetNotes.Proofs.Note.Rewriting
import BudgetNotes.Proofs.Text.Endings

/-!
# Additions in two batches

Templates can be added all at once, or some in one merge and the others in
another, which has no stored entries and adds them to what the first wrote. In
between the note is made of its lines, trimmed, and cut into lines again. That
is no difference if the last template of the first batch does not end in white
space: nothing is trimmed then, and the note ends with a line that has text, so
the second batch starts below one empty line, as it does in a single merge.

> `appendAdditions_append`: the second batch comes below the first, with one
> empty line between them.

Main statement: `Merge.into_additions_append`.
-/

namespace BudgetNotes

/-- What is written for an added template, as one text. -/
def Addition.text (addition : Addition) : String := Text.joinLines addition.toLines

/-- Whether anything is written for an added template. -/
def Addition.isWritten (addition : Addition) : Bool := !addition.toLines.isEmpty

/-- The lines of the added templates that are written. -/
def writtenGroups (additions : List Addition) : List (List String) :=
  (additions.filter Addition.isWritten).map Addition.toLines

/-! ## Added templates -/

/-- What is written has some text. -/
theorem Addition.text_ne_empty {addition : Addition} (h : addition.isWritten = true) :
    addition.text ≠ "" := by
  obtain ⟨label, line⟩ := addition
  unfold isWritten toLines at h
  unfold text toLines
  dsimp only at h ⊢
  intro hempty
  by_cases hline : line = ""
  · -- then the label is all the text
    have hnone : lineIfAny line = [] := by
      unfold lineIfAny
      rw [if_pos (String.isEmpty_iff.mpr hline)]
    rw [hnone, List.append_nil, joinLines_labelLines] at hempty
    rw [hnone, hempty] at h
    cases h
  · have hsome : lineIfAny line = [line] := by
      unfold lineIfAny
      rw [if_neg (fun he => hline (String.isEmpty_iff.mp he))]
    rw [hsome] at hempty
    obtain ⟨above, habove⟩ := Text.exists_joinLines_concat (labelLines label)
    have hlist := habove line
    rw [hempty] at hlist
    have hnil := (List.append_eq_nil_iff.mp hlist.symm).2
    exact hline (String.toList_eq_nil_iff.mp hnil)

theorem writtenGroups_append (a b : List Addition) :
    writtenGroups (a ++ b) = writtenGroups a ++ writtenGroups b := by
  unfold writtenGroups
  rw [List.filter_append, List.map_append]

theorem writtenGroups_eq_filter (additions : List Addition) :
    (additions.map Addition.toLines).filter (!·.isEmpty) = writtenGroups additions := by
  unfold writtenGroups
  rw [List.filter_map]
  rfl

/-- The last template that is written is the last group. -/
theorem exists_writtenGroups_eq {additions : List Addition} {last : Addition}
    (h : (additions.filter Addition.isWritten).getLast? = some last) :
    ∃ front, writtenGroups additions = front ++ [last.toLines] := by
  obtain ⟨front, hfront⟩ := List.getLast?_eq_some_iff.mp h
  refine ⟨front.map Addition.toLines, ?_⟩
  unfold writtenGroups
  rw [hfront, List.map_append, List.map_singleton]

/-! ## Groups of lines -/

/-- Two batches of groups have one empty line between them. -/
theorem spaceOut_append {above below : List (List String)} (ha : above ≠ []) (hb : below ≠ []) :
    spaceOut (above ++ below) = spaceOut above ++ "" :: spaceOut below := by
  induction above with
  | nil => exact absurd rfl ha
  | cons group above ih =>
    by_cases habove : above = []
    · subst habove
      obtain ⟨next, rest, rfl⟩ := List.exists_cons_of_ne_nil hb
      rfl
    · obtain ⟨next, rest, rfl⟩ := List.exists_cons_of_ne_nil habove
      show group ++ "" :: spaceOut (next :: rest ++ below) =
        group ++ "" :: spaceOut (next :: rest) ++ "" :: spaceOut below
      rw [ih habove, List.append_assoc, List.cons_append]

/-- The last group ends the lines. -/
theorem exists_spaceOut_concat (front : List (List String)) (last : List String) :
    ∃ above, spaceOut (front ++ [last]) = above ++ last := by
  by_cases hfront : front = []
  · subst hfront
    exact ⟨[], rfl⟩
  · refine ⟨spaceOut front ++ [""], ?_⟩
    rw [spaceOut_append hfront (List.cons_ne_nil _ _), List.append_assoc]
    rfl

/-- The empty line that is put below lines that end with text. -/
def gapBelow (lines : List String) : List String :=
  if lines.getLast?.any (!Text.isBlank ·) then [""] else []

theorem appendAdditions_of_eq_nil {additions : List Addition} (h : writtenGroups additions = [])
    (lines : List String) : appendAdditions lines additions = lines := by
  unfold appendAdditions
  rw [writtenGroups_eq_filter, h]

theorem appendAdditions_of_ne_nil {additions : List Addition} (h : writtenGroups additions ≠ [])
    (lines : List String) :
    appendAdditions lines additions =
      lines ++ gapBelow lines ++ spaceOut (writtenGroups additions) := by
  obtain ⟨group, groups, hgroups⟩ := List.exists_cons_of_ne_nil h
  unfold appendAdditions
  rw [writtenGroups_eq_filter, hgroups]
  rfl

/-- The second batch comes below the first. -/
theorem appendAdditions_append {a b : List Addition} (ha : writtenGroups a ≠ [])
    (hb : writtenGroups b ≠ []) (lines : List String) :
    appendAdditions lines (a ++ b) =
      appendAdditions lines a ++ "" :: spaceOut (writtenGroups b) := by
  have hab : writtenGroups (a ++ b) ≠ [] := by
    rw [writtenGroups_append]
    exact List.append_ne_nil_of_left_ne_nil ha _
  rw [appendAdditions_of_ne_nil hab, appendAdditions_of_ne_nil ha, writtenGroups_append,
    spaceOut_append ha hb, List.append_assoc _ (spaceOut _)]

/-- Additions end the note with the text of the last of them. -/
theorem endsInText_appendAdditions {additions : List Addition} {last : Addition}
    (hlast : (additions.filter Addition.isWritten).getLast? = some last)
    (htext : Text.EndsInText last.text) (lines : List String) :
    Text.EndsInText (Text.joinLines (appendAdditions lines additions)) := by
  obtain ⟨front, hfront⟩ := exists_writtenGroups_eq hlast
  obtain ⟨above, habove⟩ := exists_spaceOut_concat front last.toLines
  have hne : writtenGroups additions ≠ [] := by
    rw [hfront]
    exact List.append_ne_nil_of_right_ne_nil _ (List.cons_ne_nil _ _)
  rw [appendAdditions_of_ne_nil hne, hfront, habove, ← List.append_assoc]
  exact htext.joinLines_below _

/-! ## A second merge -/

namespace Merge

/-- A merge that adds templates and does nothing else. -/
def adding (additions : List Addition) : Merge := ⟨[], [], [], additions⟩

theorem into_adding (additions : List Addition) (note : String) :
    (adding additions).into note =
      .ok (Text.trimEnd (Text.joinLines (appendAdditions (plainLines note) additions))) := by
  unfold into
  rw [bodyLines_of_no_entries rfl]
  exact if_pos rfl

/-- What a merge adds comes below lines that are the same whatever it adds. -/
theorem exists_body (entries : List Entry) (labels : List String) (replacements : List Replacement)
    (note : String) (hcount : replacements.length = entries.length) :
    ∃ body, ∀ additions, (Merge.mk entries labels replacements additions).into note =
      .ok (Text.trimEnd (Text.joinLines (appendAdditions body additions))) := by
  refine ⟨(Merge.mk entries labels replacements []).bodyLines note, fun additions => ?_⟩
  unfold into
  exact if_pos hcount

/-- Templates are added to lines that end in text, and to the note they make, alike. -/
theorem into_adding_joinLines {lines : List String} (h : Text.EndsInText (Text.joinLines lines))
    {additions : List Addition} (hgroups : writtenGroups additions ≠ []) :
    (adding additions).into (Text.joinLines lines) =
      .ok (Text.trimEnd (Text.joinLines (lines ++ "" :: spaceOut (writtenGroups additions)))) := by
  have hplain : plainLines (Text.joinLines lines) = Text.splitLines (Text.joinLines lines) := by
    unfold plainLines labelLines
    rw [h.trimEnd_eq, if_neg (fun he => h.ne_empty (String.isEmpty_iff.mp he))]
  have hcut := Text.splitLines_ne_nil (Text.joinLines lines)
  have hgap : gapBelow (Text.splitLines (Text.joinLines lines)) = [""] := by
    have hlast := List.getLast?_eq_some_getLast hcut
    unfold gapBelow
    rw [hlast, Option.any_some, h.isBlank_of_getLast?_splitLines hlast]
    rfl
  have hbelow : "" :: spaceOut (writtenGroups additions) ≠ [] := List.cons_ne_nil _ _
  rw [into_adding, hplain, appendAdditions_of_ne_nil hgroups, hgap, List.append_assoc,
    List.singleton_append, Text.joinLines_append hcut hbelow, Text.joinLines_splitLines,
    ← Text.joinLines_append h.ne_nil hbelow]

/-- **Adding templates in two batches is adding them in one.** If the last template of the first
batch that writes anything does not end in white space, then merging with the first batch and adding
the second to the note that comes out writes what a merge with both of them does. -/
theorem into_additions_append (entries : List Entry) (labels : List String)
    (replacements : List Replacement) {a b : List Addition} {last : Addition} (note : String)
    (hcount : replacements.length = entries.length)
    (hlast : (a.filter Addition.isWritten).getLast? = some last)
    (hend : ∀ c, last.text.toList.getLast? = some c → Text.isSpace c = false) :
    ∃ first both, (Merge.mk entries labels replacements a).into note = .ok first ∧
      (adding b).into first = .ok both ∧
      (Merge.mk entries labels replacements (a ++ b)).into note = .ok both := by
  have hwritten : last.isWritten = true := (List.mem_filter.mp (List.mem_of_getLast? hlast)).2
  have htext : Text.EndsInText last.text := by
    have hne : last.text.toList ≠ [] := by
      intro hnil
      exact Addition.text_ne_empty hwritten (String.toList_eq_nil_iff.mp hnil)
    have hchar := List.getLast?_eq_some_getLast hne
    exact ⟨_, hchar, hend _ hchar⟩
  have hgroups : writtenGroups a ≠ [] := by
    obtain ⟨front, hfront⟩ := exists_writtenGroups_eq hlast
    rw [hfront]
    exact List.append_ne_nil_of_right_ne_nil _ (List.cons_ne_nil _ _)
  obtain ⟨body, hinto⟩ := exists_body entries labels replacements note hcount
  have hfirst := endsInText_appendAdditions hlast htext body
  refine ⟨_, _, hinto a, ?_, hinto (a ++ b)⟩
  rw [hfirst.trimEnd_eq]
  by_cases hb : writtenGroups b = []
  · have hab : appendAdditions body (a ++ b) = appendAdditions body a := by
      have hsame : writtenGroups (a ++ b) = writtenGroups a := by
        rw [writtenGroups_append, hb, List.append_nil]
      rw [appendAdditions_of_ne_nil hgroups, appendAdditions_of_ne_nil (hsame ▸ hgroups), hsame]
    rw [into_adding, appendAdditions_of_eq_nil hb, plainLines, joinLines_labelLines,
      Text.trimEnd_idem, hab]
  · rw [into_adding_joinLines hfirst hb, appendAdditions_append hgroups hb]

/-- A template with a label of two lines, one that writes nothing and a second batch, all below an
entry that is rewritten. -/
theorem into_additions_append_mixed :
    let entry := Entry.managed (.ofTemplate (.goal ⟨.one⟩) none)
    let trip : Addition := ⟨"Trip\nto the sea", "#goal 2000"⟩
    let a : List Addition := [trip, ⟨"", ""⟩]
    let b : List Addition := [⟨"Car", "#goal 900"⟩]
    [Replacement.replace "#goal 5"].length = [entry].length ∧
    (a.filter Addition.isWritten).getLast? = some trip ∧
    (∀ c, trip.text.toList.getLast? = some c → Text.isSpace c = false) ∧
    ∃ first, (Merge.mk [entry] ["Food"] [.replace "#goal 5"] a).into "#goal 1\n" = .ok first ∧
      (adding b).into first =
        .ok "Food\n#goal 5\n\nTrip\nto the sea\n#goal 2000\n\nCar\n#goal 900" := by
  intro entry trip a b
  have hlast : (a.filter Addition.isWritten).getLast? = some trip := by decide
  have hend : ∀ c, trip.text.toList.getLast? = some c → Text.isSpace c = false := by
    intro c hc
    have hzero : trip.text.toList.getLast? = some '0' := by decide
    rw [hzero] at hc
    cases hc
    decide
  obtain ⟨first, both, hfirst, hsecond, hboth⟩ := into_additions_append [entry] ["Food"]
    [.replace "#goal 5"] (b := b) "#goal 1\n" rfl hlast hend
  have htext : (Merge.mk [entry] ["Food"] [.replace "#goal 5"] (a ++ b)).into "#goal 1\n" =
      .ok "Food\n#goal 5\n\nTrip\nto the sea\n#goal 2000\n\nCar\n#goal 900" := by
    decide +kernel
  rw [htext] at hboth
  cases hboth
  exact ⟨rfl, hlast, hend, first, hfirst, hsecond⟩

end Merge

end BudgetNotes
