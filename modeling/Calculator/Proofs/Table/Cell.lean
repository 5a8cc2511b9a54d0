/-
How cells without markup are laid out. It never fails (`layout_eq_ok`). A cell
whose only blanks are spaces, and which gets the room that it asks for, is laid
out in one line, and only spaces come up in it that are not in the cell
(`layout_simple`).
-/
import Calculator.Proofs.Markup.Unstyled
import Calculator.Proofs.Text.Width
import Calculator.Table.Cell

namespace Calculator.Table.Cell

open Markup (Styled)

variable {c line : Styled} {a : Alignment} {room : Nat}

/-! ## Cells without spans -/

theorem unstyled_align (h : line.Unstyled) : (align a room line).Unstyled := by
  unfold align
  split
  · exact (((h.dropEnd _).dropEnd _).shorten room).padLeft room
  · exact (h.dropEnd _).shorten room

theorem unstyled_lines (h : c.Unstyled) : ∀ line ∈ lines a room c, line.Unstyled := by
  have hexpanded : ∀ line ∈ (Styled.lines c).map Styled.expandTabs, line.Unstyled := by
    intro line hline
    obtain ⟨before, hbefore, rfl⟩ := List.mem_map.1 hline
    exact (h.lines before hbefore).expandTabs
  intro line hline
  obtain ⟨before, hbefore, rfl⟩ := List.mem_map.1 hline
  refine unstyled_align ?_
  split at hbefore
  · obtain ⟨whole, hwhole, hpart⟩ := List.mem_flatMap.1 hbefore
    exact (hexpanded whole hwhole).cut _ before hpart
  · exact hexpanded before hbefore

theorem layout_eq_ok (h : c.Unstyled) :
    layout a room c = .ok ((lines a room c).map (lineText room)) := by
  have hcheck : ∀ {cells : List Styled}, (∀ line ∈ cells, line.Unstyled) →
      cells.forM Styled.check = .ok () := by
    intro cells hcells
    induction cells with
    | nil => rfl
    | cons line cells ih =>
      rw [List.forall_mem_cons] at hcells
      have hline : (line.check >>= fun _ => cells.forM Styled.check) = .ok () := by
        rw [hcells.1.check]
        exact ih hcells.2
      exact hline
  rw [layout, hcheck (unstyled_lines h)]
  rfl

theorem lineText_eq (h : line.Unstyled) (hwidth : Text.width line.text = room) :
    lineText room line = line.text := by
  unfold lineText
  dsimp only
  rw [if_pos]
  rw [h.runs]
  split
  · rename_i hnil
    rw [← hwidth, hnil]
    rfl
  · simpa using hwidth

/-! ## Widths -/

/-- All blanks in the text are spaces, and widths of its parts add up. -/
structure Simple (text : List Char) : Prop where
  independent : Text.Independent text
  spaces : ∀ c ∈ text, Text.isBlank c = true → c = ' '

theorem isBlank_of_endsLine {c : Char} (h : endsLine c = true) : Text.isBlank c = true := by
  simp only [endsLine, Text.isBlank, Bool.or_eq_true, Bool.and_eq_true, decide_eq_true_eq,
    beq_iff_eq] at h ⊢
  omega

theorem cutAt_eq_singleton {cuts : Char → Bool} {text : List Char} (h : ∀ c ∈ text, cuts c = false) :
    Text.cutAt cuts text = [text] := by
  induction text with
  | nil => rfl
  | cons c text ih =>
    rw [List.forall_mem_cons] at h
    have htail : text.foldr _ _ = [text] := ih h.2
    simp [Text.cutAt, htail, h.1]

theorem width_eq (h : Simple c.text) : width c = Text.width c.text := by
  have hends : ∀ x ∈ c.text, endsLine x = false := by
    intro x hx
    rw [← Bool.not_eq_true]
    intro hend
    obtain rfl := h.spaces x hx (isBlank_of_endsLine hend)
    cases hend
  simp [width, cutAt_eq_singleton hends]

theorem sum_width_words {text : List Char} (h : Text.Independent text) :
    ((words text).map Text.width).sum ≤ Text.width text := by
  fun_induction words text with
  | case1 => exact Nat.zero_le _
  | case2 text hlength ih =>
    have hsplit := List.take_append_drop (wordLength text) text
    have hrest := ih (h.of_subset fun c hc => List.mem_of_mem_drop hc)
    have hwidth := Text.width_append (hsplit.symm ▸ h)
    rw [hsplit] at hwidth
    rw [List.map_cons, List.sum_cons]
    omega

theorem trimWord_isPrefix (word : List Char) : trimWord word <+: word := by
  refine List.reverse_suffix.1 ?_
  rw [trimWord, List.reverse_reverse]
  exact List.dropWhile_suffix _

theorem mem_of_mem_words {text word : List Char} (h : word ∈ words text) : ∀ c ∈ word, c ∈ text := by
  fun_induction words text with
  | case1 => cases h
  | case2 text hlength ih =>
    intro c hc
    obtain rfl | h := List.mem_cons.1 h
    · exact List.mem_of_mem_take hc
    · exact List.mem_of_mem_drop (ih h c hc)

theorem breaksAfter_eq_nil {start filled : Nat} {parts : List (List Char)}
    (h : ∀ part ∈ parts, Text.Independent part)
    (hroom : filled + (parts.map Text.width).sum ≤ room) :
    breaksAfter room start filled parts = [] := by
  induction parts generalizing start filled with
  | nil => rfl
  | cons word parts ih =>
    rw [List.forall_mem_cons] at h
    rw [List.map_cons, List.sum_cons] at hroom
    have htrim := Text.width_le_of_isPrefix h.1 (trimWord_isPrefix word)
    rw [breaksAfter, if_pos (by omega)]
    exact ih h.2 (by omega)

theorem breaks_eq_nil {text : List Char} (h : Text.Independent text)
    (hroom : Text.width text ≤ room) : breaks room text = [] := by
  refine breaksAfter_eq_nil (fun part hpart => h.of_subset (mem_of_mem_words hpart)) ?_
  have := sum_width_words h
  omega

/-! ## Simple cells -/

theorem lines_eq_singleton (h : Simple c.text) (hroom : Text.width c.text ≤ room) :
    lines a room c = [align a room c] := by
  have hlf : '\n' ∉ c.text := fun hmem => absurd (h.spaces _ hmem (by decide)) (by decide)
  have htab : '\t' ∉ c.text := fun hmem => absurd (h.spaces _ hmem (by decide)) (by decide)
  have hpositions : Styled.positionsOf '\n' c.text = [] := by
    simp only [Styled.positionsOf, List.map_eq_nil_iff, List.filter_eq_nil_iff, decide_eq_true_eq]
    rintro ⟨x, i⟩ hmem rfl
    exact hlf (List.fst_mem_of_mem_zipIdx hmem)
  have hlines : (Styled.lines c).map Styled.expandTabs = [c] := by
    simp [Styled.lines, hpositions, Styled.expandTabs, htab]
  have hcut : c.cut (breaks room c.text) = [c] := by
    rw [breaks_eq_nil h.independent hroom, Styled.cut, if_pos rfl]
  unfold lines
  dsimp only
  rw [hlines]
  split <;> simp [hcut]

theorem dropEnd_isPrefix (n : Nat) (s : Styled) : (s.dropEnd n).text <+: s.text := by
  unfold Styled.dropEnd
  dsimp only
  split
  · exact List.prefix_rfl
  · exact List.take_prefix _ _

theorem shorten_eq_self (h : Text.width line.text ≤ room) : line.shorten room = line :=
  if_neg (by omega)

theorem width_pad {kept : Styled} (h : Text.Independent kept.text)
    (hroom : Text.width kept.text ≤ room) :
    Text.width (kept.padRight room).text = room ∧ Text.width (kept.padLeft room).text = room := by
  have hblanks : Text.Independent (kept.missing room) := Text.independent_blanks _
  have hmissing : Text.width (kept.missing room) = room - Text.width kept.text :=
    Text.width_blanks _
  constructor
  · refine (Text.width_append (Text.independent_append.2 ⟨h, hblanks⟩)).trans ?_
    omega
  · refine (Text.width_append (Text.independent_append.2 ⟨hblanks, h⟩)).trans ?_
    omega

theorem mem_pad {kept : Styled} {x : Char} :
    (x ∈ (kept.padRight room).text → x ∈ kept.text ∨ x = ' ') ∧
      (x ∈ (kept.padLeft room).text → x ∈ kept.text ∨ x = ' ') := by
  have hspace : x ∈ kept.missing room → x = ' ' := List.eq_of_mem_replicate
  exact ⟨fun hx => (List.mem_append.1 hx).imp_right hspace,
    fun hx => ((List.mem_append.1 hx).imp_left hspace).symm⟩

theorem align_simple (h : Text.Independent line.text) (hroom : Text.width line.text ≤ room) :
    Text.width (align a room line).text = room ∧
      ∀ x ∈ (align a room line).text, x ∈ line.text ∨ x = ' ' := by
  -- blanks at the end may be dropped first, and what is kept is a part of the line
  have hpart : ∀ kept : Styled, kept.text <+: line.text →
      Text.Independent kept.text ∧ Text.width kept.text ≤ room := fun kept hkept =>
    ⟨h.of_subset hkept.subset, Nat.le_trans (Text.width_le_of_isPrefix h hkept) hroom⟩
  have htrim : (line.trimEnd room).text <+: line.text := dropEnd_isPrefix _ line
  unfold align
  dsimp only
  split
  · have hkept := (dropEnd_isPrefix (Styled.endBlanks (line.trimEnd room).text) _).trans htrim
    obtain ⟨hindependent, hfits⟩ := hpart _ hkept
    rw [shorten_eq_self hfits]
    exact ⟨(width_pad hindependent hfits).2, fun x hx => (mem_pad.2 hx).imp_left (hkept.subset ·)⟩
  · obtain ⟨hindependent, hfits⟩ := hpart _ htrim
    rw [shorten_eq_self hfits]
    exact ⟨(width_pad hindependent hfits).1, fun x hx => (mem_pad.1 hx).imp_left (htrim.subset ·)⟩

/-- **A simple cell** that gets its room is laid out in one line of its characters and spaces. -/
theorem layout_simple (h : Simple c.text) (hc : c.Unstyled) (hroom : width c ≤ room) :
    ∃ text, layout a room c = .ok [text] ∧ ∀ x ∈ text, x ∈ c.text ∨ x = ' ' := by
  rw [width_eq h] at hroom
  obtain ⟨hwidth, hmem⟩ := align_simple (a := a) h.independent hroom
  refine ⟨(align a room c).text, ?_, hmem⟩
  rw [layout_eq_ok hc, lines_eq_singleton h hroom, List.map_singleton,
    lineText_eq (unstyled_align hc) hwidth]

end Calculator.Table.Cell
