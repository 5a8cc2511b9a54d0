/-
A table can be drawn if its cells can be laid out in the room that they ask for
(`exists_lines`), and nothing stands in it but the characters of its cells, of
its title and of its frame.
-/
import Calculator.Proofs.Table.Cell
import Calculator.Proofs.Text.Plain
import Calculator.Table

namespace Calculator.Table

open Text (Consists)

/-! ## Lists -/

theorem exists_mapM {ε α β : Type} {f : α → Except ε β} {R : β → Prop} {xs : List α}
    (h : ∀ x ∈ xs, ∃ y, f x = .ok y ∧ R y) : ∃ ys, xs.mapM f = .ok ys ∧ ∀ y ∈ ys, R y := by
  induction xs with
  | nil => exact ⟨[], rfl, by simp⟩
  | cons x xs ih =>
    rw [List.forall_mem_cons] at h
    obtain ⟨⟨y, hy, hR⟩, hxs⟩ := h
    obtain ⟨ys, hys, hall⟩ := ih hxs
    refine ⟨y :: ys, ?_, List.forall_mem_cons.2 ⟨hR, hall⟩⟩
    rw [List.mapM_cons, hy, hys]
    rfl

theorem mem_of_mem_intercalate {α : Type} {x : α} {sep : List α} {parts : List (List α)}
    (h : x ∈ sep.intercalate parts) : x ∈ sep ∨ ∃ part ∈ parts, x ∈ part := by
  induction parts with
  | nil => simp [List.intercalate] at h
  | cons part parts ih =>
    cases parts with
    | nil => exact .inr ⟨part, by simp, by simpa [List.intercalate] using h⟩
    | cons second parts =>
      rw [List.intercalate_cons_cons] at h
      simp only [List.mem_append] at h
      obtain (hpart | hsep) | hrest := h
      · exact .inr ⟨part, by simp, hpart⟩
      · exact .inl hsep
      · obtain hsep | ⟨other, hother, hx⟩ := ih hrest
        · exact .inl hsep
        · exact .inr ⟨other, List.mem_cons_of_mem _ hother, hx⟩

/-! ## Cells -/

/-- The cell can be laid out in the room that it asks for, in characters of this kind. -/
def Cell.LaidIn (P : Char → Prop) (c : Cell) : Prop :=
  ∀ a room, c.width ≤ room → ∃ lines, c.layout a room = .ok lines ∧ ∀ line ∈ lines, ∀ x ∈ line, P x

theorem width_le_of_mem {rows : List (List Cell)} {row : List Cell} (hrow : row ∈ rows)
    {columns i w : Nat} {c : Cell} (hc : row[i]? = some c) (hw : (widths rows columns)[i]? = some w) :
    c.width ≤ w := by
  simp only [widths, List.getElem?_map, Option.map_eq_some_iff] at hw
  obtain ⟨j, hj, rfl⟩ := hw
  obtain ⟨hlt, rfl⟩ := List.getElem?_eq_some_iff.1 hj
  refine List.le_max?_getD_of_mem (List.mem_map.2 ⟨row, hrow, ?_⟩)
  simp [hc]

section

variable {P : Char → Prop} {t : Table}

/-- The characters of the frame, and the space, are of the kind. -/
def FrameIn (P : Char → Prop) : Prop := ∀ x ∈ [' ', '|', '+', '-'], P x

theorem exists_layoutRow {rows : List (List Cell)} {row : List Cell} (hrow : row ∈ rows)
    (hcells : ∀ c ∈ row, c.LaidIn P) (columns : Nat) :
    ∃ laid, t.layoutRow (widths rows columns) row = .ok laid ∧
      ∀ lines ∈ laid, ∀ line ∈ lines, ∀ x ∈ line, P x := by
  refine exists_mapM ?_
  rintro ⟨column, width, c⟩ hmem
  obtain ⟨i, hi⟩ := List.getElem?_of_mem hmem
  obtain ⟨-, hinner⟩ := List.getElem?_zip_eq_some.1 hi
  obtain ⟨hwidth, hc⟩ := List.getElem?_zip_eq_some.1 hinner
  obtain ⟨lines, hlines, hP⟩ := hcells c (List.mem_of_getElem? hc) column.alignment width
    (width_le_of_mem hrow hc hwidth)
  exact ⟨lines, by simp only [hlines]; rfl, hP⟩

theorem of_mem_blanks (hframe : FrameIn P) {n : Nat} {x : Char} (h : x ∈ Text.blanks n) : P x := by
  rw [List.eq_of_mem_replicate h]
  exact hframe ' ' (by simp)

theorem of_mem_edge (hframe : FrameIn P) {x : Char} (h : x ∈ t.edge) : P x := by
  unfold edge at h
  split at h
  · exact hframe x (by simp [List.mem_singleton.1 h])
  · cases h

/-- The lines of a row that is laid out in characters of a kind. -/
theorem of_mem_drawRow (hframe : FrameIn P) {widths : List Nat} {row : List (List (List Char))}
    (hrow : ∀ lines ∈ row, ∀ line ∈ lines, ∀ x ∈ line, P x) :
    ∀ line ∈ t.drawRow widths row, ∀ x ∈ line, P x := by
  intro line hline x hx
  obtain ⟨n, -, rfl⟩ := List.mem_map.1 hline
  simp only [List.mem_append, List.mem_singleton] at hx
  obtain (((rfl | hedge) | hparts) | hedge) | rfl := hx
  · exact hframe _ (by simp)
  · exact of_mem_edge hframe hedge
  · obtain hsep | ⟨part, hpart, hx⟩ := mem_of_mem_intercalate hparts
    · simp only [List.mem_cons, List.not_mem_nil, or_false] at hsep
      exact hframe x (by rcases hsep with rfl | rfl | rfl <;> simp)
    · obtain ⟨⟨width, lines⟩, hmem, rfl⟩ := List.mem_map.1 hpart
      have hlines := hrow lines (List.of_mem_zip hmem).2
      rw [List.getD_eq_getElem?_getD] at hx
      cases hn : lines[n]? with
      | none =>
        rw [hn] at hx
        exact of_mem_blanks hframe hx
      | some line =>
        rw [hn] at hx
        exact hlines line (List.mem_of_getElem? hn) x hx
  · exact of_mem_edge hframe hedge
  · exact hframe _ (by simp)

theorem of_mem_rule (hframe : FrameIn P) {side joint : Char} (hside : P side) (hjoint : P joint)
    {widths : List Nat} {x : Char} (hx : x ∈ t.rule widths side joint) : P x := by
  have hdash : P '-' := hframe '-' (by simp)
  have hreplicate : ∀ {n}, x ∈ List.replicate n '-' → P x := fun h =>
    List.eq_of_mem_replicate h ▸ hdash
  simp only [rule, List.mem_append, List.mem_singleton] at hx
  obtain (((rfl | hmargin) | hdashes) | hmargin) | rfl := hx
  · exact hside
  · exact hreplicate hmargin
  · obtain hsep | ⟨part, hpart, hx⟩ := mem_of_mem_intercalate hdashes
    · simp only [List.mem_cons, List.not_mem_nil, or_false] at hsep
      obtain rfl | rfl | rfl := hsep
      · exact hdash
      · exact hjoint
      · exact hdash
    · obtain ⟨_, -, rfl⟩ := List.mem_map.1 hpart
      exact hreplicate hx
  · exact hreplicate hmargin
  · exact hside

theorem of_mem_drawTitle (hframe : FrameIn P) (htitle : Consists P t.title) {width : Nat} {x : Char}
    (hx : x ∈ t.drawTitle width) : P x := by
  simp only [drawTitle, List.mem_append] at hx
  obtain (hblank | hx) | hblank := hx
  · exact of_mem_blanks hframe hblank
  · exact htitle x hx
  · exact of_mem_blanks hframe hblank

/-- The rows that settle how wide the columns are. -/
def drawnRows (t : Table) (heads : List Cell) (rows : List (List Cell)) : List (List Cell) :=
  if t.headed then heads :: rows else rows

theorem mem_drawnRows (t : Table) (heads : List Cell) (rows : List (List Cell)) :
    (t.headed = true → heads ∈ t.drawnRows heads rows) ∧
      ∀ row ∈ rows, row ∈ t.drawnRows heads rows := by
  cases hheaded : t.headed <;> simp +contextual [drawnRows, hheaded]

theorem lines_eq_ok {heads : List Cell} {rows : List (List Cell)} {head : List (List (List Char))}
    {body : List (List (List (List Char)))}
    (hread : (t.columns.mapM fun column => cell column.head) = .ok heads)
    (hreads : (t.rows.mapM fun row => row.mapM cell) = .ok rows)
    (hhead : t.headed = true →
      t.layoutRow (widths (t.drawnRows heads rows) t.columns.length) heads = .ok head)
    (hbody : rows.mapM (t.layoutRow (widths (t.drawnRows heads rows) t.columns.length)) = .ok body) :
    let widths := widths (t.drawnRows heads rows) t.columns.length
    let frame := t.rule widths '+' '-'
    let top := if t.headed then t.drawRow widths head ++ [t.rule widths '|' '+'] else []
    t.lines = .ok ([t.drawTitle frame.length, frame] ++ top ++ body.flatMap (t.drawRow widths) ++
      [frame]) := by
  rw [lines, hread, hreads]
  unfold drawnRows at *
  cases hheaded : t.headed with
  | true =>
    rw [hheaded] at hhead hbody
    have hhead := hhead rfl
    simp only [if_true] at hhead hbody ⊢
    simp only [bind, Except.bind, hhead, hbody]
    rfl
  | false =>
    rw [hheaded] at hbody
    simp only [Bool.false_eq_true, if_false] at hbody ⊢
    simp only [bind, Except.bind, pure, Except.pure, hbody]

/-- **A table can be drawn** if its cells can be laid out, and nothing else is drawn than what they
are laid out in, the title, and the frame. -/
theorem exists_lines (hframe : FrameIn P) (htitle : Consists P t.title)
    (hheads : ∀ column ∈ t.columns, ∃ c, cell column.head = .ok c ∧ c.LaidIn P)
    (hrows : ∀ row ∈ t.rows, ∀ text ∈ row, ∃ c, cell text = .ok c ∧ c.LaidIn P) :
    ∃ lines, t.lines = .ok lines ∧ ∀ line ∈ lines, ∀ x ∈ line, P x := by
  obtain ⟨heads, hread, hhead⟩ := exists_mapM hheads
  obtain ⟨rows, hreads, hrow⟩ := exists_mapM fun row hrow => exists_mapM (hrows row hrow)
  obtain ⟨hheads, hrows⟩ := t.mem_drawnRows heads rows
  let widths := widths (t.drawnRows heads rows) t.columns.length
  -- the heads are laid out only if they are drawn, and then the columns are wide enough for them
  obtain ⟨head, hlaid, hheadP⟩ : ∃ head, (t.headed = true → t.layoutRow widths heads = .ok head) ∧
      ∀ lines ∈ head, ∀ line ∈ lines, ∀ x ∈ line, P x := by
    cases hheaded : t.headed with
    | true =>
      obtain ⟨head, hlaid, hheadP⟩ := exists_layoutRow (t := t) (hheads hheaded) hhead _
      exact ⟨head, fun _ => hlaid, hheadP⟩
    | false => exact ⟨[], nofun, by simp⟩
  obtain ⟨body, hbody, hbodyP⟩ : ∃ body, rows.mapM (t.layoutRow widths) = .ok body ∧
      ∀ row ∈ body, ∀ lines ∈ row, ∀ line ∈ lines, ∀ x ∈ line, P x :=
    exists_mapM fun row hmem => exists_layoutRow (hrows row hmem) (hrow row hmem) _
  have hrule : ∀ {side joint}, P side → P joint → ∀ x ∈ t.rule widths side joint, P x :=
    fun hside hjoint x hx => of_mem_rule hframe hside hjoint hx
  have hframeLine := hrule (hframe '+' (by simp)) (hframe '-' (by simp))
  refine ⟨_, lines_eq_ok hread hreads hlaid hbody, fun line hline => ?_⟩
  simp only [List.mem_append, List.mem_cons, List.not_mem_nil, or_false, List.mem_flatMap] at hline
  obtain (((rfl | rfl) | hline) | ⟨row, hrow, hline⟩) | rfl := hline
  · exact fun x hx => of_mem_drawTitle hframe htitle hx
  · exact hframeLine
  · split at hline
    · obtain hline | hline := List.mem_append.1 hline
      · exact of_mem_drawRow hframe hheadP line hline
      · rw [List.mem_singleton.1 hline]
        exact hrule (hframe '|' (by simp)) (hframe '+' (by simp))
    · cases hline
  · exact of_mem_drawRow hframe (hbodyP row hrow) line hline
  · exact hframeLine

end

end Calculator.Table
