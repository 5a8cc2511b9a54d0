/-
Blank characters, and the lines of a text.

`isBlank` is the white space of the character database together with the four
information separators `1c` to `1f`: 29 characters. `lines` cuts a text at its
line feeds; a text that ends in a line feed has no empty line after it.
-/
namespace Calculator.Text

/-- The character is white space. -/
def isBlank (c : Char) : Bool :=
  let n := c.toNat
  (9 ≤ n && n ≤ 13) || (0x1c ≤ n && n ≤ 0x20) || n == 0x85 || n == 0xa0 || n == 0x1680 ||
  (0x2000 ≤ n && n ≤ 0x200a) || n == 0x2028 || n == 0x2029 || n == 0x202f || n == 0x205f ||
  n == 0x3000

/-- What core calls white space is blank. -/
theorem isBlank_of_isWhitespace {c : Char} (h : c.isWhitespace = true) : isBlank c = true := by
  simp only [Char.isWhitespace, Bool.or_eq_true, decide_eq_true_eq] at h
  rcases h with ((rfl | rfl) | rfl) | rfl <;> decide

/-- The line holds nothing but blanks. -/
def isBlankLine (line : List Char) : Bool := line.all isBlank

/-- The text without the blanks at its two ends. -/
def trim (text : List Char) : List Char :=
  ((text.dropWhile isBlank).reverse.dropWhile isBlank).reverse

/-- A text cut at the characters of a class, which belong to no part. -/
def cutAt (cuts : Char → Bool) (text : List Char) : List (List Char) :=
  text.foldr
    (fun c parts =>
      match parts with
      | [] => [[c]]
      | first :: more => if cuts c then [] :: first :: more else (c :: first) :: more)
    [[]]

/-- The words of a text: what stands between its blanks. -/
def words (text : List Char) : List (List Char) := (cutAt isBlank text).filter (· ≠ [])

/-- Line ends are written as one line feed: a carriage return counts as a line
end, alone or with the line feed after it. -/
def unifyLineEnds : List Char → List Char
  | [] => []
  | '\r' :: '\n' :: rest => '\n' :: unifyLineEnds rest
  | c :: rest => (if c = '\r' then '\n' else c) :: unifyLineEnds rest

/-- The lines of a text. What stands after the last line feed is a line unless
it is empty. -/
def lines : List Char → List (List Char)
  | [] => []
  | c :: rest =>
    if c = '\n' then [] :: lines rest
    else match lines rest with
      | [] => [[c]]
      | first :: more => (c :: first) :: more

end Calculator.Text
