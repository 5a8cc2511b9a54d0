/-
Texts without brackets have no markup: they are read as texts without spans
(`read_of_no_bracket`), and whatever is done with those, no spans come up
(`Unstyled`). So nothing about them can be wrong, and such a text is one run.
-/
import Calculator.Markup.Reader

namespace Calculator.Markup

/-! ## Characters -/

theorem Emoji.replace_of_notMem {text : List Char} (h : ':' ∉ text) : Emoji.replace text = text := by
  induction text with
  | nil => rw [Emoji.replace]
  | cons c rest ih =>
    rw [List.mem_cons, not_or] at h
    rw [Emoji.replace, if_neg (Ne.symm h.1), ih h.2]

theorem mem_of_mem_shown {text : List Char} (h : ':' ∉ text) {c : Char} (hc : c ∈ shown text) :
    c ∈ text := by
  rw [shown, Emoji.replace_of_notMem h] at hc
  exact (List.mem_filter.1 hc).1

namespace Styled

/-! ## Spans -/

/-- No style and no action covers any of the text. -/
def Unstyled (s : Styled) : Prop := s.spans = []

theorem unstyled_plain (text : List Char) : Unstyled (plain text) := rfl

namespace Unstyled

variable {s : Styled}

theorem eq_plain (h : s.Unstyled) : s = plain s.text := by
  obtain ⟨text, spans⟩ := s
  obtain rfl : spans = [] := h
  rfl

theorem slice (h : s.Unstyled) (start stop : Nat) : (s.slice start stop).Unstyled := by
  rw [h.eq_plain]
  rfl

theorem cut (h : s.Unstyled) (positions : List Nat) : ∀ part ∈ s.cut positions, part.Unstyled := by
  unfold Styled.cut
  split
  · simpa using h
  · intro part hpart
    obtain ⟨_, -, rfl⟩ := List.mem_map.1 hpart
    exact h.slice _ _

theorem lines (h : s.Unstyled) : ∀ line ∈ s.lines, line.Unstyled := by
  unfold Styled.lines
  split
  · simpa using h
  · intro line hline
    obtain ⟨_, -, rfl⟩ := List.mem_map.1 hline
    exact h.slice _ _

theorem append {t : Styled} (hs : s.Unstyled) (ht : t.Unstyled) : (s.append t).Unstyled := by
  rw [hs.eq_plain, ht.eq_plain]
  rfl

theorem fillTab (h : s.Unstyled) (column : Nat) : (s.fillTab column).Unstyled := by
  rw [h.eq_plain]
  rfl

theorem joinTabs {parts : List Styled} (h : ∀ part ∈ parts, part.Unstyled) (column : Nat) :
    (Styled.joinTabs column parts).Unstyled := by
  induction parts generalizing column with
  | nil => exact unstyled_plain []
  | cons part parts ih =>
    rw [List.forall_mem_cons] at h
    unfold Styled.joinTabs
    dsimp only
    split
    · exact (h.1.fillTab column).append (ih h.2 _)
    · exact h.1.append (ih h.2 _)

theorem expandTabs (h : s.Unstyled) : s.expandTabs.Unstyled := by
  unfold Styled.expandTabs
  split
  · exact joinTabs (h.cut _) 0
  · exact h

theorem dropEnd (h : s.Unstyled) (n : Nat) : (s.dropEnd n).Unstyled := by
  unfold Styled.dropEnd
  dsimp only
  split
  · exact h
  · rw [h.eq_plain]
    rfl

theorem shorten (h : s.Unstyled) (room : Nat) : (s.shorten room).Unstyled := by
  unfold Styled.shorten
  split
  · exact h.dropEnd _
  · exact h

theorem padLeft (h : s.Unstyled) (room : Nat) : (s.padLeft room).Unstyled :=
  (unstyled_plain _).append h

theorem check (h : s.Unstyled) : s.check = .ok () := by
  rw [h.eq_plain]
  rfl

theorem runs (h : s.Unstyled) : s.runs = if s.text = [] then [] else [s.text] := by
  have hedges : s.edges = [] := by
    rw [h.eq_plain]
    rfl
  have hinner : (List.range s.text.length).filter (fun i => 0 < i ∧ i ∈ s.edges) = [] := by
    simp [hedges]
  rw [Styled.runs, hinner, Styled.cut, if_pos rfl]
  by_cases htext : s.text = [] <;> simp [htext]

end Unstyled

end Styled

end Calculator.Markup
