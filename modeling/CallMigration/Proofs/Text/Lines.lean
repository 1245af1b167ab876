import CallMigration.Text.Lines

/-!
# Cutting a text into lines

A text is empty, or a last line without an ending, or a line with its ending and a text behind it
(`Text.line_induction`). Behind a line feed the lines of a text are those that they would be by
themselves (`Text.linesWithEndings_append`), and the lines of a text can be cut apart anywhere
(`Text.linesWithEndings_of_append`).
-/

namespace CallMigration.Text

/-- Whether what follows a text begins a line of its own. -/
def EndsLine (cs : List Char) : Prop := ∀ c ∈ cs.getLast?, c = '\n'

variable {line rest cs : List Char}

theorem endsLine_nil : EndsLine [] := nofun

/-- The last line of a text decides whether it ends a line. -/
theorem endsLine_line_append : EndsLine (line ++ '\n' :: rest) ↔ EndsLine rest := by
  rw [EndsLine, EndsLine, List.getLast?_append]
  cases rest <;> simp [List.getLast?_cons]

theorem endsLine_append {a b : List Char} (ha : EndsLine a) (hb : EndsLine b) :
    EndsLine (a ++ b) := by
  intro c hc
  rw [List.getLast?_append] at hc
  cases hlast : b.getLast? with
  | none =>
      rw [hlast] at hc
      exact ha c hc
  | some d =>
      rw [hlast] at hc
      exact hb c (hlast.trans hc)

theorem not_endsLine_of_not_mem (hne : line ≠ []) (hline : '\n' ∉ line) : ¬ EndsLine line := by
  intro h
  have hlast := h _ (List.getLast?_eq_some_getLast hne)
  exact hline (hlast ▸ List.getLast_mem hne)

theorem linesWithEndings_line_append (hline : '\n' ∉ line) :
    linesWithEndings (line ++ '\n' :: rest) = (line ++ ['\n']) :: linesWithEndings rest := by
  induction line with
  | nil => simp
  | cons c line ih =>
      rw [List.mem_cons, not_or] at hline
      rw [List.cons_append, linesWithEndings_cons, if_neg (Ne.symm hline.1), ih hline.2]
      rfl

theorem linesWithEndings_of_not_mem (hne : line ≠ []) (hline : '\n' ∉ line) :
    linesWithEndings line = [line] := by
  induction line with
  | nil => exact absurd rfl hne
  | cons c line ih =>
      rw [List.mem_cons, not_or] at hline
      rw [linesWithEndings_cons, if_neg (Ne.symm hline.1)]
      cases line with
      | nil => rfl
      | cons d line =>
          rw [ih (List.cons_ne_nil d line) hline.2]
          rfl

/-- **Texts are made of lines.** What holds of the empty text and of a line without an ending, and
carries over from a text to that with a further line in front, holds of every text. -/
theorem line_induction {motive : List Char → Prop} (nil : motive [])
    (last : ∀ line, line ≠ [] → '\n' ∉ line → motive line)
    (line : ∀ line rest, '\n' ∉ line → motive rest → motive (line ++ '\n' :: rest))
    (cs : List Char) : motive cs := by
  by_cases hmem : '\n' ∈ cs
  · obtain ⟨front, rest, hcs, hfront⟩ := List.eq_append_cons_of_mem hmem
    have hrest : motive rest := line_induction nil last line rest
    exact hcs ▸ line front rest hfront hrest
  · by_cases hnil : cs = []
    · exact hnil ▸ nil
    · exact last cs hnil hmem
termination_by cs.length
decreasing_by
  rw [hcs, List.length_append, List.length_cons]
  omega

/-- Behind a line feed, lines are those of the text there. -/
theorem linesWithEndings_append (h : EndsLine cs) :
    linesWithEndings (cs ++ rest) = linesWithEndings cs ++ linesWithEndings rest := by
  induction cs using line_induction with
  | nil => simp
  | last line hne hline => exact absurd h (not_endsLine_of_not_mem hne hline)
  | line line cs hline ih =>
      rw [List.append_assoc, List.cons_append, linesWithEndings_line_append hline,
        linesWithEndings_line_append hline, ih (endsLine_line_append.mp h), List.cons_append]

/-- Where the lines of a text are cut apart, either part is a text with these lines; the second is
empty unless the first ends a line. -/
theorem linesWithEndings_of_append {a b : List (List Char)} (h : linesWithEndings cs = a ++ b) :
    linesWithEndings a.flatten = a ∧ linesWithEndings b.flatten = b ∧
      (b = [] ∨ EndsLine a.flatten) := by
  induction cs using line_induction generalizing a with
  | nil =>
      obtain ⟨rfl, rfl⟩ := List.nil_eq_append_iff.mp h
      exact ⟨rfl, rfl, Or.inl rfl⟩
  | last line hne hline =>
      rw [linesWithEndings_of_not_mem hne hline] at h
      rcases List.cons_eq_append_iff.mp h with ⟨rfl, rfl⟩ | ⟨a', rfl, hnil⟩
      · exact ⟨rfl, by simpa using linesWithEndings_of_not_mem hne hline, Or.inr endsLine_nil⟩
      · obtain ⟨rfl, rfl⟩ := List.nil_eq_append_iff.mp hnil
        exact ⟨by simpa using linesWithEndings_of_not_mem hne hline, rfl, Or.inl rfl⟩
  | line line cs hline ih =>
      rw [linesWithEndings_line_append hline] at h
      rcases List.cons_eq_append_iff.mp h with ⟨rfl, rfl⟩ | ⟨a', rfl, hrest⟩
      · refine ⟨rfl, ?_, Or.inr endsLine_nil⟩
        rw [← linesWithEndings_line_append hline, flatten_linesWithEndings]
      · obtain ⟨hfirst, hsecond, hends⟩ := ih hrest
        have hflatten : ((line ++ ['\n']) :: a').flatten = line ++ '\n' :: a'.flatten := by simp
        refine ⟨?_, hsecond, hends.imp_right fun hends => ?_⟩
        · rw [hflatten, linesWithEndings_line_append hline, hfirst]
        · rw [hflatten]
          exact endsLine_line_append.mpr hends

/-- A line feed behind a last line without an ending ends that line. What does not depend on the
ending of a line does not see it. -/
theorem filterMap_linesWithEndings_newline {α : Type} {f : List Char → Option α}
    (hf : ∀ line, f (line ++ ['\n']) = f line) (h : ¬ EndsLine cs) :
    (linesWithEndings (cs ++ ['\n'])).filterMap f = (linesWithEndings cs).filterMap f := by
  induction cs using line_induction with
  | nil => exact absurd endsLine_nil h
  | last line hne hline =>
      rw [linesWithEndings_line_append hline, linesWithEndings_of_not_mem hne hline,
        linesWithEndings_nil, List.filterMap_cons, List.filterMap_cons, hf]
  | line line cs hline ih =>
      rw [List.append_assoc, List.cons_append, linesWithEndings_line_append hline,
        linesWithEndings_line_append hline, List.filterMap_cons, List.filterMap_cons,
        ih fun hends => h (endsLine_line_append.mpr hends)]

/-- Texts without line feeds, each ended by one, are the lines of what they make up. -/
theorem linesWithEndings_flatMap {lines : List (List Char)} (h : ∀ line ∈ lines, '\n' ∉ line) :
    linesWithEndings (lines.flatMap (· ++ ['\n'])) = lines.map (· ++ ['\n']) := by
  induction lines with
  | nil => rfl
  | cons line lines ih =>
      rw [List.forall_mem_cons] at h
      rw [List.flatMap_cons, List.append_assoc, List.singleton_append,
        linesWithEndings_line_append h.1, ih h.2, List.map_cons]

/-- A line without its ending holds no line feed. -/
theorem not_mem_of_mem_lines {l : List Char} (h : l ∈ lines cs) : '\n' ∉ l := by
  have hending : ∀ line, '\n' ∉ line → '\n' ∉ withoutEnding (line ++ ['\n']) := by
    intro line hline
    rw [withoutEnding, List.reverse_append, List.reverse_singleton, List.singleton_append]
    split
    · next rest heq =>
        intro hmem
        have hfront : line.reverse = '\r' :: rest := (List.cons.inj heq).2
        exact hline (List.mem_reverse.mp (hfront ▸ List.mem_cons_of_mem _ (List.mem_reverse.mp hmem)))
    · next rest _ heq =>
        rw [← (List.cons.inj heq).2, List.reverse_reverse]
        exact hline
    · next hnone => exact absurd rfl (hnone _)
  induction cs using line_induction with
  | nil => cases h
  | last line hne hline =>
      rw [lines, linesWithEndings_of_not_mem hne hline, List.map_singleton,
        List.mem_singleton] at h
      have hreverse : '\n' ∉ line.reverse := mt List.mem_reverse.mp hline
      rw [h, withoutEnding]
      split
      · next heq => simp [heq] at hreverse
      · next heq => simp [heq] at hreverse
      · exact hline
  | line line cs hline ih =>
      rw [lines, linesWithEndings_line_append hline, List.map_cons, List.mem_cons] at h
      rcases h with rfl | h
      · exact hending line hline
      · exact ih h

end CallMigration.Text
