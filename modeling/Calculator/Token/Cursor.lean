/-
Reading tokens off a text, one at a time.

A cursor is a position in a text with what is left of it. `next` skips spaces
and reads the longest token there; at the end of the text it gives `endOfText`,
any number of times. A character that begins no token is an error, and the
cursor stays on it. `scan` reads on to the end of the text or to the first
error, and `tokenize` is its answer as one list.
-/
import Calculator.Text.Quoted
import Calculator.Token.Basic

namespace Calculator

/-- A character that begins no token, and where it stands. -/
structure LexicalError where
  char : Char
  position : Nat
  deriving DecidableEq, Repr

namespace LexicalError

/-- The error in words. -/
def message (e : LexicalError) : String :=
  "unexpected character " ++ Text.quote e.char ++ " at position " ++ e.position.repr

end LexicalError

/-- A position in a text, and what is left of the text there. -/
structure Cursor where
  position : Nat
  rest : List Char
  deriving DecidableEq, Repr

/-- A token, and the position after it. -/
structure Reading where
  token : Token
  after : Nat
  deriving DecidableEq, Repr

namespace Cursor

/-- The start of a text. -/
def start (text : List Char) : Cursor := ⟨0, text⟩

/-- The cursor so many characters further. -/
def forward (c : Cursor) (n : Nat) : Cursor := ⟨c.position + n, c.rest.drop n⟩

/-- The cursor past the spaces. Only the plain space may stand between tokens. -/
def skipSpaces (c : Cursor) : Cursor := c.forward (c.rest.takeWhile (· = ' ')).length

/-- The next token and the cursor after it. -/
def next (c : Cursor) : Except LexicalError Token × Cursor :=
  let c := c.skipSpaces
  match c.rest with
  | [] => (.ok .endOfText, c)
  | first :: _ =>
    if first.isDigit then
      let run := c.rest.takeWhile Char.isDigit
      (.ok (.integer (Numeral.read run)), c.forward run.length)
    else match Token.ofSymbol? first with
      | some token => (.ok token, c.forward 1)
      | none => (.error ⟨first, c.position⟩, c)

/-! ## Progress -/

theorem length_forward_le (c : Cursor) (n : Nat) : (c.forward n).rest.length ≤ c.rest.length := by
  simp [forward]

theorem length_forward_lt {c : Cursor} {n : Nat} (hn : 0 < n) (hc : c.rest ≠ []) :
    (c.forward n).rest.length < c.rest.length := by
  have := List.length_pos_iff.2 hc
  simp only [forward, List.length_drop]; omega

theorem length_skipSpaces_le (c : Cursor) : c.skipSpaces.rest.length ≤ c.rest.length :=
  c.length_forward_le _

/-- Reading never moves away from the end of the text. -/
theorem length_next_le (c : Cursor) : c.next.2.rest.length ≤ c.rest.length := by
  have hs := c.length_skipSpaces_le
  unfold next
  dsimp only
  split
  · exact hs
  · split
    · exact Nat.le_trans (length_forward_le ..) hs
    · split
      · exact Nat.le_trans (length_forward_le ..) hs
      · exact hs

/-- A token other than `endOfText` takes at least one character. -/
theorem length_next_lt {c : Cursor} {t : Token} (h : c.next.1 = .ok t) (ht : t ≠ .endOfText) :
    c.next.2.rest.length < c.rest.length := by
  have hs := c.length_skipSpaces_le
  unfold next at h ⊢
  dsimp only at h ⊢
  split at h
  · exact absurd (Except.ok.inj h).symm ht
  · rename_i first more hr
    have hne : c.skipSpaces.rest ≠ [] := by simp [hr]
    by_cases hd : first.isDigit = true
    · simp only [hd, ↓reduceIte]
      exact Nat.lt_of_lt_of_le (length_forward_lt (by simp [hr, hd]) hne) hs
    · simp only [hd] at h ⊢
      cases ho : Token.ofSymbol? first with
      | some u =>
        exact Nat.lt_of_lt_of_le (length_forward_lt Nat.one_pos hne) hs
      | none => simp [ho] at h

/-- `endOfText` is read at the end of the text only. -/
theorem rest_next_of_endOfText {c : Cursor} (h : c.next.1 = .ok .endOfText) :
    c.next.2.rest = [] := by
  unfold next at h ⊢
  dsimp only at h ⊢
  split at h
  · assumption
  · split at h
    · cases h
    · split at h
      · rename_i hs
        exact absurd (Except.ok.inj h) (Token.ofSymbol?_ne_endOfText hs)
      · cases h

end Cursor

/-! ## Whole texts -/

/-- What reading to the end gives: the tokens in order, up to `endOfText` or to the error
that stopped it. -/
structure Scan where
  readings : List Reading
  stopped : Option LexicalError
  deriving DecidableEq, Repr

namespace Cursor

/-- Reads on to the end; `done` holds what was read before, latest first. -/
def scanAfter (done : List Reading) (c : Cursor) : Scan :=
  match _h : c.next with
  | (.error e, _) => ⟨done.reverse, some e⟩
  | (.ok token, after) =>
    let done := ⟨token, after.position⟩ :: done
    if _ht : token = .endOfText then ⟨done.reverse, none⟩ else scanAfter done after
termination_by c.rest.length
decreasing_by
  have := length_next_lt (c := c) (t := token) (by simp [_h]) _ht
  simpa [_h] using this

/-- All readings from here on. -/
def scan (c : Cursor) : Scan := scanAfter [] c

end Cursor

/-- All readings of a text. -/
def scan (text : List Char) : Scan := (Cursor.start text).scan

/-- The tokens of a text through `endOfText`, or its first error. -/
def tokenize (text : List Char) : Except LexicalError (List Token) :=
  let scan := scan text
  match scan.stopped with
  | some e => .error e
  | none => .ok (scan.readings.map (·.token))

end Calculator
