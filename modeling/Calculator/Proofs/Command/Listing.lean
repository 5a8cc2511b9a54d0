/-
The tables of the command line can be drawn, and the output carries them.

The table of tokens always can (`exists_lines_tokenTable`). In the table of an
evaluation only the text itself may stand in the way, since it is taken for
marked up (`exists_lines_evaluationTable`): it is shown as it is if it has no
bracket, and no colon and no blank but spaces either where the output lacks
some characters (`exists_cell_fitted`). All this is about tables as they are drawn
where they fit.
-/
import Calculator.Proofs.Command.Wording
import Calculator.Proofs.Table.Drawing

namespace Calculator.Command

open Text (Charset Consists IsGraphic IsPlain)
open Table (Cell cell)

/-! ## Cells -/

theorem cell_of_no_bracket {text : String} (h : '[' ∉ text.toList) :
    cell text = .ok (.plain (Markup.shown text.toList)) :=
  Markup.read_of_no_bracket h

theorem exists_cell_of_no_bracket {text : String} (h : '[' ∉ text.toList) :
    ∃ c, cell text = .ok c ∧ c.LaidIn fun _ => True :=
  ⟨_, cell_of_no_bracket h, fun _ _ _ =>
    ⟨_, Cell.layout_eq_ok (Markup.Styled.unstyled_plain _), fun _ _ _ _ => trivial⟩⟩

/-- A text without brackets and colons whose only blanks are spaces is a cell of its own
characters. -/
theorem exists_cell_of_simple {text : String} {P : Char → Prop} (hbracket : '[' ∉ text.toList)
    (hcolon : ':' ∉ text.toList) (hsimple : Cell.Simple text.toList) (htext : Consists P text)
    (hspace : P ' ') : ∃ c, cell text = .ok c ∧ c.LaidIn P := by
  refine ⟨_, cell_of_no_bracket hbracket, fun a room hroom => ?_⟩
  have hshown : ∀ x ∈ Markup.shown text.toList, x ∈ text.toList := fun x hx =>
    Markup.mem_of_mem_shown hcolon hx
  have hcell : Cell.Simple (Markup.shown text.toList) :=
    ⟨hsimple.independent.of_subset hshown, fun x hx => hsimple.spaces x (hshown x hx)⟩
  obtain ⟨line, hline, hmem⟩ :=
    Cell.layout_simple (a := a) hcell (Markup.Styled.unstyled_plain _) hroom
  refine ⟨[line], hline, fun other hother x hx => ?_⟩
  rw [List.mem_singleton.1 hother] at hx
  obtain hx | rfl := hmem x hx
  · exact htext x (hshown x hx)
  · exact hspace

theorem exists_cell_of_plain {text : String} (h : Consists IsPlain text) {P : Char → Prop}
    (hgraphic : ∀ c, IsGraphic c → P c) : ∃ c, cell text = .ok c ∧ c.LaidIn P := by
  refine exists_cell_of_simple (fun hc => (h _ hc).2.1 rfl) (fun hc => (h _ hc).2.2 rfl)
    ⟨⟨fun hc => ?_, fun hc => ?_⟩, fun c hc hblank => (h c hc).1.eq_space hblank⟩
    (h.mono fun c hc => hgraphic c hc.1) (hgraphic _ (by decide))
  · exact absurd (h _ hc) (by decide)
  · exact absurd (h _ hc) (by decide)

/-- The text cannot be shown just as it is: it may have markup in it, or, where the output lacks
some characters, something that is shown by others. -/
def Disguised (set : Charset) (text : List Char) : Prop :=
  '[' ∈ text ∨ set ≠ .unicode ∧ ∃ c ∈ text, c = ':' ∨ Text.isBlank c = true ∧ c ≠ ' '

theorem mem_fitted {set : Charset} {text : String} {c : Char} (h : c ∈ (fitted set text).toList) :
    c = '?' ∨ c ∈ text.toList ∧ set.holds c = true := by
  simp only [fitted, Charset.fit, String.toList_ofList, List.mem_map] at h
  obtain ⟨x, hx, rfl⟩ := h
  split
  · rename_i hholds
    exact .inr ⟨hx, hholds⟩
  · exact .inl rfl

theorem exists_cell_fitted {set : Charset} {text : String} (h : ¬Disguised set text.toList) :
    ∃ c, cell (fitted set text) = .ok c ∧ c.LaidIn (set.holds · = true) := by
  simp only [Disguised, not_or, not_and, not_exists] at h
  obtain ⟨hbracket, hnarrow⟩ := h
  have hfitted : ∀ d ≠ '?', d ∉ text.toList → d ∉ (fitted set text).toList := by
    rintro d hd hmem hc
    obtain rfl | ⟨hc, -⟩ := mem_fitted hc
    · exact hd rfl
    · exact hmem hc
  have hbracket' := hfitted '[' (by decide) hbracket
  by_cases hset : set = .unicode
  · subst hset
    obtain ⟨c, hc, hlaid⟩ := exists_cell_of_no_bracket hbracket'
    refine ⟨c, hc, fun a room hroom => ?_⟩
    obtain ⟨lines, hlines, -⟩ := hlaid a room hroom
    exact ⟨lines, hlines, fun _ _ _ _ => rfl⟩
  · have hshown := hnarrow hset
    have hcolon : ':' ∉ text.toList := fun hc => (hshown _ hc).1 rfl
    have hwide : ∀ d ≠ '?', set.holds d = false → d ∉ (fitted set text).toList := by
      intro d hd hlacks hc
      obtain rfl | ⟨-, hholds⟩ := mem_fitted hc
      · exact hd rfl
      · exact absurd (hlacks.symm.trans hholds) (by decide)
    refine exists_cell_of_simple hbracket' (hfitted ':' (by decide) hcolon) ⟨⟨?_, ?_⟩, ?_⟩ ?_
      (IsGraphic.holds (by decide) set)
    · exact hwide _ (by decide) (by cases set <;> first | exact absurd rfl hset | rfl)
    · exact hwide _ (by decide) (by cases set <;> first | exact absurd rfl hset | rfl)
    · intro c hc hblank
      obtain rfl | ⟨hc, -⟩ := mem_fitted hc
      · cases hblank
      · exact Decidable.not_not.1 ((hshown c hc).2 hblank)
    · intro c hc
      obtain rfl | ⟨-, hholds⟩ := mem_fitted hc
      · exact IsGraphic.holds (by decide) set
      · exact hholds

/-! ## Tables -/

variable {set : Charset}

theorem frameIn (set : Charset) : Table.FrameIn (set.holds · = true) := by
  intro x hx
  refine IsGraphic.holds ?_ set
  simp only [List.mem_cons, List.not_mem_nil, or_false] at hx
  rcases hx with rfl | rfl | rfl | rfl <;> decide

theorem fitted_of_plain {text : String} (h : Consists IsPlain text) : fitted set text = text := by
  rw [fitted, Charset.fit_eq_self (Text.carries_iff.2 (h.graphic.carried set)),
    String.ofList_toList]

theorem exists_cell_carried {text : String} (h : Consists IsPlain text) (set : Charset) :
    ∃ c, cell text = .ok c ∧ c.LaidIn (set.holds · = true) :=
  exists_cell_of_plain h fun _ hc => hc.holds set

/-- **The table of tokens** can be drawn and carried. -/
theorem exists_lines_tokenTable (set : Charset) (tokens : List Token) :
    ∃ lines, (tokenTable set tokens).lines = .ok lines ∧
      ∀ line ∈ lines, ∀ x ∈ line, set.holds x = true := by
  refine Table.exists_lines (frameIn set) ?title ?heads ?rows
  case title =>
    exact ((Consists.append (by decide) (Text.consists_repr _).graphic).append
      (by decide : Consists IsGraphic "]")).carried set
  case heads =>
    intro column hcolumn
    refine exists_cell_carried ?_ set
    simp only [tokenTable, List.mem_cons, List.not_mem_nil, or_false] at hcolumn
    rcases hcolumn with rfl | rfl | rfl <;> decide
  case rows =>
    intro row hrow text htext
    obtain ⟨i, hi, rfl⟩ := List.mem_mapIdx.1 hrow
    refine exists_cell_carried ?_ set
    simp only [List.mem_cons, List.not_mem_nil, or_false] at htext
    obtain rfl | rfl | rfl := htext
    · exact Text.consists_repr i
    · exact TokenKind.consists_name _
    · rw [fitted_of_plain (Token.consists_text _)]
      exact Token.consists_text _

/-- **The table of an evaluation** can be drawn and carried if its text can. -/
theorem exists_lines_evaluationTable {text : String}
    (h : ∃ c, cell (fitted set text) = .ok c ∧ c.LaidIn (set.holds · = true)) (e : Expr) :
    ∃ lines, (evaluationTable set text e.evaluate).lines = .ok lines ∧
      ∀ line ∈ lines, ∀ x ∈ line, set.holds x = true := by
  have hplain : ∀ shown, Consists IsPlain shown →
      ∃ c, cell (fitted set shown) = .ok c ∧ c.LaidIn (set.holds · = true) := by
    intro shown hshown
    rw [fitted_of_plain hshown]
    exact exists_cell_carried hshown set
  rw [Expr.evaluate_eq]
  refine Table.exists_lines (frameIn set) ?title ?heads ?rows
  case title => exact (by decide : Consists IsGraphic "Evaluation").carried set
  case heads =>
    intro column hcolumn
    refine exists_cell_carried ?_ set
    simp only [evaluationTable, List.mem_cons, List.not_mem_nil, or_false] at hcolumn
    rcases hcolumn with rfl | rfl <;> decide
  case rows =>
    intro row hrow shown hshown
    simp only [evaluationTable, List.mem_cons, List.mem_append, List.not_mem_nil, or_false] at hrow
    obtain rfl | hstep | rfl := hrow
    · obtain rfl | hshown := List.mem_cons.1 hshown
      · exact exists_cell_carried (by decide) set
      · rw [List.mem_singleton.1 hshown]
        exact h
    · obtain ⟨i, hi, rfl⟩ := List.mem_mapIdx.1 hstep
      simp only [List.mem_cons, List.not_mem_nil, or_false] at hshown
      obtain rfl | rfl := hshown
      · exact exists_cell_carried
          ((by decide : Consists IsPlain "step ").append (Text.consists_repr _)) set
      · exact hplain _ (e.consists_steps _ (List.getElem_mem hi))
    · simp only [List.mem_cons, List.not_mem_nil, or_false] at hshown
      obtain rfl | rfl := hshown
      · exact exists_cell_carried (by decide) set
      · exact hplain _ (Binary64.consists_display _)

end Calculator.Command
