/-
Reading JSON.

A reading takes a value off the front of a text and leaves what follows it,
which is shorter: that is what the recursion stops by. The first fault decides.
A text that is no JSON is `malformed` at a position; a value that is JSON but
longer or deeper than the limits allow is `refused`.

Beyond the standard, `NaN`, `Infinity` and `-Infinity` are read as reals, and a
repeated name is no fault. A surrogate that stands alone in a string is read as
the replacement character.
-/
import Calculator.Json.Numeral
import Calculator.Text.Digit
import Calculator.Text.Surrogate

namespace Calculator.Json

/-- What a reader admits: digits of an integer, and containers inside one another. -/
structure Limits where
  digits : Option Nat
  nesting : Option Nat
  deriving DecidableEq, Repr

/-- No limits. -/
def Limits.none : Limits := ⟨.none, .none⟩

/-- Why a text is not read. A position is given by how much of the text is left there. -/
inductive Fault where
  | malformed (left : Nat)
  | refused
  deriving DecidableEq, Repr

/-- A part of a text read off its front. -/
structure Reading (text : List Char) (α : Type) where
  value : α
  rest : List Char
  shorter : rest.length < text.length

/-- What is left of a text, which may be all of it. -/
structure Remainder (text : List Char) where
  rest : List Char
  le : rest.length ≤ text.length

/-! ## Blanks and words -/

/-- The character may stand between the parts of a value. -/
def isSpace (c : Char) : Bool := c = ' ' || c = '\t' || c = '\n' || c = '\r'

/-- The text without the blanks at its front. -/
def skip (text : List Char) : List Char := text.dropWhile isSpace

theorem length_skip_le (text : List Char) : (skip text).length ≤ text.length :=
  (List.dropWhile_suffix _).length_le

/-- The words that stand for values. -/
def words : List (List Char × Json) := [
  ("null".toList, null), ("true".toList, bool true), ("false".toList, bool false),
  ("NaN".toList, real .nan), ("Infinity".toList, real (.infinity false)),
  ("-Infinity".toList, real (.infinity true))]

/-- The word at the front of a text. -/
def wordAt? (text : List Char) : Option (List Char × Json) := words.find? (·.1.isPrefixOf text)

theorem length_pos_of_wordAt? {text : List Char} {w : List Char × Json}
    (h : wordAt? text = some w) :
    0 < w.1.length := by
  have hw := List.mem_of_find?_eq_some h
  have hall : ∀ w ∈ words, 0 < w.1.length := by decide
  exact hall w hw

/-! ## Strings -/

/-- The characters that a letter behind a backslash stands for. -/
def escapes : List (Char × Char) := [
  ('"', '"'), ('\\', '\\'), ('/', '/'), ('b', '\x08'), ('f', '\x0c'), ('n', '\n'), ('r', '\r'),
  ('t', '\t')]

/-- The value of four hexadecimal digits at the front of a text. -/
def hex4? (text : List Char) : Option Nat :=
  let digits := text.take 4
  if digits.length < 4 then none else Text.hexadecimal? digits

/-- The code unit that `text` spells behind a `u`; there has to be a character behind its
four digits. `text` begins behind the `u`. -/
def unitAt (text : List Char) : Except Fault Nat :=
  match hex4? text with
  | some unit => if text.drop 4 = [] then .error (.malformed (text.length + 1)) else .ok unit
  | none => .error (.malformed (text.length + 1))

/-- The character that is spelled by code units, where the `u` of the first one is just
before `text`, and what is left behind it. -/
def unitsAt (text : List Char) : Except Fault (Char × Remainder text) :=
  match unitAt text with
  | .error e => .error e
  | .ok unit =>
    let single : Char × Remainder text := (Text.charOfUnit unit, ⟨text.drop 4, by simp⟩)
    let behind := text.drop 4
    if Text.isHighSurrogate unit ∧ behind.drop 6 ≠ [] ∧ behind.take 2 = ['\\', 'u'] then
      match hex4? (text.drop 6) with
      | none => .error (.malformed ((text.drop 6).length + 1))
      | some low =>
        if Text.isLowSurrogate low then .ok (Text.charOfPair unit low, ⟨text.drop 10, by simp⟩)
        else .ok single
    else .ok single

/-- The rest of a string that began at `start`; `done` holds the characters read so far,
latest first. A string that does not end is a fault where it began. -/
def stringAfter (start : List Char) (done : List Char) (text : List Char)
    (h : text.length < start.length) : Except Fault (Reading start String) :=
  match text with
  | [] => .error (.malformed start.length)
  | c :: rest =>
    have h : rest.length + 1 < start.length := h
    if c = '"' then .ok ⟨String.ofList done.reverse, rest, by omega⟩
    else if c = '\\' then
      match rest with
      | [] => .error (.malformed start.length)
      | letter :: left =>
        have h : left.length + 2 < start.length := h
        if letter = 'u' then
          match unitsAt left with
          | .error e => .error e
          | .ok (char, ⟨left, _⟩) => stringAfter start (char :: done) left (by omega)
        else
          match escapes.lookup letter with
          | none => .error (.malformed (left.length + 2))
          | some char => stringAfter start (char :: done) left (by omega)
    else if c.toNat < 0x20 then .error (.malformed (rest.length + 1))
    else stringAfter start (c :: done) rest (by omega)
termination_by text.length
decreasing_by all_goals simp only [List.length_cons]; omega

/-! ## Values -/

/-- A container one level in is admitted. -/
def Limits.admits (limits : Limits) (depth : Nat) : Bool := limits.nesting.all (depth < ·)

/-- A number is short enough. -/
def Limits.admitsNumber (limits : Limits) (n : NumberParts) : Bool :=
  !n.isInteger || limits.digits.all (n.whole.length ≤ ·)

/-- The reading of a value that the first `n` characters of a text spell. -/
def Reading.front {α : Type} (value : α) (n : Nat) (text : List Char) (hn : 0 < n)
    (ht : text ≠ []) : Reading text α :=
  ⟨value, text.drop n, by have := List.length_pos_iff.2 ht; simp only [List.length_drop]; omega⟩

/-- A value that is no container and no string. -/
def scalar (limits : Limits) (text : List Char) : Except Fault (Reading text Json) :=
  if ht : text = [] then .error (.malformed 0)
  else
    match hw : wordAt? text with
    | some w => .ok (.front w.2 w.1.length text (length_pos_of_wordAt? hw) ht)
    | none =>
      match hn : numberAt? text with
      | some n =>
        if limits.admitsNumber n then
          .ok (.front n.toJson n.length text (length_pos_of_numberAt? hn) ht)
        else .error .refused
      | none => .error (.malformed text.length)

/-- The name of a member at the front of a text, and the colon behind it. -/
def nameAt (text : List Char) : Except Fault (Reading text String) :=
  match text with
  | '"' :: inside =>
    match stringAfter ('"' :: inside) [] inside (by simp) with
    | .error e => .error e
    | .ok ⟨name, rest, shorter⟩ =>
      match hc : skip rest with
      | ':' :: behind => .ok ⟨name, behind, by
          have := length_skip_le rest; rw [hc] at this
          simp only [List.length_cons] at this shorter ⊢; omega⟩
      | left => .error (.malformed left.length)
  | text => .error (.malformed text.length)

mutual

/-- The value at the front of a text, inside `depth` containers. -/
def valueAt (limits : Limits) (depth : Nat) (text : List Char) : Except Fault (Reading text Json) :=
  match text with
  | '"' :: rest =>
    (stringAfter ('"' :: rest) [] rest (by simp)).map fun r => ⟨.string r.value, r.rest, r.shorter⟩
  | '[' :: rest =>
    if !limits.admits depth then .error .refused
    else match hs : skip rest with
      | ']' :: left => .ok ⟨.array [], left, by
          have := length_skip_le rest
          rw [hs] at this; simp only [List.length_cons] at this ⊢; omega⟩
      | _ => itemsAfter limits (depth + 1) ('[' :: rest) [] (skip rest) (by
          have := length_skip_le rest; simp only [List.length_cons]; omega)
  | '\x7b' :: rest =>
    if !limits.admits depth then .error .refused
    else match hs : skip rest with
      | '\x7d' :: left => .ok ⟨.object [], left, by
          have := length_skip_le rest
          rw [hs] at this; simp only [List.length_cons] at this ⊢; omega⟩
      | _ => membersAfter limits (depth + 1) ('\x7b' :: rest) [] (skip rest) (by
          have := length_skip_le rest; simp only [List.length_cons]; omega)
  | text => scalar limits text
termination_by (text.length, 0)
decreasing_by all_goals
  exact Prod.Lex.left _ _ (by have := length_skip_le rest; simp only [List.length_cons]; omega)

/-- The rest of an array that began at `start`: an item stands at the front of `text`. -/
def itemsAfter (limits : Limits) (depth : Nat) (start : List Char) (done : List Json)
    (text : List Char) (h : text.length < start.length) : Except Fault (Reading start Json) :=
  match valueAt limits depth text with
  | .error e => .error e
  | .ok ⟨item, rest, shorter⟩ =>
    match hs : skip rest with
    | ']' :: left => .ok ⟨.array (item :: done).reverse, left, by
        have := length_skip_le rest; rw [hs] at this; simp only [List.length_cons] at this; omega⟩
    | ',' :: left =>
      have hl : left.length < text.length := by
        have := length_skip_le rest; rw [hs] at this; simp only [List.length_cons] at this; omega
      itemsAfter limits depth start (item :: done) (skip left)
        (by have := length_skip_le left; omega)
    | left => .error (.malformed left.length)
termination_by (text.length, 1)
decreasing_by
  · exact Prod.Lex.right _ (by omega)
  · exact Prod.Lex.left _ _ (by have := length_skip_le left; omega)

/-- The rest of an object that began at `start`: a name stands at the front of `text`. -/
def membersAfter (limits : Limits) (depth : Nat) (start : List Char) (done : List (String × Json))
    (text : List Char) (h : text.length < start.length) : Except Fault (Reading start Json) :=
  match nameAt text with
  | .error e => .error e
  | .ok ⟨name, behind, _⟩ =>
    have hb : (skip behind).length < text.length := by have := length_skip_le behind; omega
    match valueAt limits depth (skip behind) with
    | .error e => .error e
    | .ok ⟨value, rest, shorter⟩ =>
      match hs : skip rest with
      | '\x7d' :: left => .ok ⟨.object ((name, value) :: done).reverse, left, by
          have := length_skip_le rest; rw [hs] at this; simp only [List.length_cons] at this; omega⟩
      | ',' :: left =>
        have hl : left.length < text.length := by
          have := length_skip_le rest; rw [hs] at this; simp only [List.length_cons] at this; omega
        membersAfter limits depth start ((name, value) :: done) (skip left)
          (by have := length_skip_le left; omega)
      | left => .error (.malformed left.length)
termination_by (text.length, 1)
decreasing_by
  · exact Prod.Lex.left _ _ hb
  · exact Prod.Lex.left _ _ (by have := length_skip_le left; omega)

end

/-! ## Whole texts -/

/-- Why a text is not read, with the position of what is malformed. -/
inductive ReadError where
  | malformed (position : Nat)
  | refused
  deriving DecidableEq, Repr

/-- The value that a text is. -/
def read (limits : Limits) (text : List Char) : Except ReadError Json :=
  match valueAt limits 0 (skip text) with
  | .error (.malformed left) => .error (.malformed (text.length - left))
  | .error .refused => .error .refused
  | .ok r =>
    let left := (skip r.rest).length
    if left = 0 then .ok r.value else .error (.malformed (text.length - left))

end Calculator.Json
