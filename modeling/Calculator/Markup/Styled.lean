/-
Styled text: characters, and the spans of them that a style or an action covers.

A part of a styled text keeps the part of each span that lies in it (`slice`);
spans that cover no character of it are gone. `runs` cuts a styled text wherever
a span begins or ends.
-/
import Calculator.Markup.Style
import Calculator.Text.Width

namespace Calculator.Markup

/-- Where a style or an action applies: from one position up to another. -/
structure Span where
  start : Nat
  stop : Nat
  /-- what describes the style; an action has none -/
  style : Option (List Char)
  deriving DecidableEq, Repr

namespace Span

/-- The part of a span between two positions, counted from the first of them. -/
def clip? (start stop : Nat) (s : Span) : Option Span :=
  let part : Span := ⟨s.start - start, min s.stop stop - start, s.style⟩
  if part.start < part.stop then some part else none

/-- The span in a text that has so many characters in front. -/
def shift (n : Nat) (s : Span) : Span := { s with start := n + s.start, stop := n + s.stop }

/-- The span of a text that is followed by more, when the text had `length` characters: the
style at its end goes on. -/
def extend (length more : Nat) (s : Span) : Span :=
  if s.stop < length then s else { s with stop := s.stop + more }

/-- What is wrong with the style of a span. A style of unknown words is none. -/
def check (s : Span) : Except StyleFault Unit :=
  match s.style.map Style.read with
  | some (.error .component) => .error .component
  | _ => .ok ()

end Span

/-- A text with its spans. -/
structure Styled where
  text : List Char
  spans : List Span
  deriving DecidableEq, Repr

namespace Styled

/-- A text without spans. -/
def plain (text : List Char) : Styled := ⟨text, []⟩

/-- The part of a text between two positions. -/
def slice (start stop : Nat) (s : Styled) : Styled :=
  ⟨(s.text.take stop).drop start, s.spans.filterMap (Span.clip? start stop)⟩

/-- A text cut at positions. One that is not cut keeps all its spans. -/
def cut (positions : List Nat) (s : Styled) : List Styled :=
  if positions = [] then [s]
  else (List.zip (0 :: positions) (positions ++ [s.text.length])).map fun (a, b) => s.slice a b

/-- Two texts, one behind the other. -/
def append (s t : Styled) : Styled :=
  ⟨s.text ++ t.text, s.spans ++ t.spans.map (Span.shift s.text.length)⟩

/-- The positions of a character in a text. -/
def positionsOf (c : Char) (text : List Char) : List Nat :=
  (text.zipIdx.filter (·.1 = c)).map (·.2)

/-- The lines of a text, which are divided by line feeds. -/
def lines (s : Styled) : List Styled :=
  match positionsOf '\n' s.text with
  | [] => [s]
  | ends =>
    let starts := 0 :: ends.map (· + 1)
    (starts.zip (ends ++ [s.text.length])).map fun (a, b) => s.slice a b

/-! ## Tabs -/

/-- The columns between two tab stops. -/
def tabSize : Nat := 8

/-- A part of a line that ends in its only tab, with blanks up to the next tab stop in its
place; the part begins at `column`. -/
def fillTab (column : Nat) (s : Styled) : Styled :=
  let text := s.text.dropLast ++ [' ']
  let missing := (tabSize - (column + Text.width text) % tabSize) % tabSize
  ⟨text ++ Text.blanks missing, s.spans.map (Span.extend text.length missing)⟩

/-- Parts of a line put together from `column` on, with blanks for their tabs. -/
def joinTabs (column : Nat) : List Styled → Styled
  | [] => plain []
  | part :: rest =>
    let part := if part.text.getLast? = some '\t' then part.fillTab column else part
    part.append (joinTabs (column + Text.width part.text) rest)

/-- A line with blanks for its tabs. -/
def expandTabs (s : Styled) : Styled :=
  if '\t' ∈ s.text then joinTabs 0 (s.cut ((positionsOf '\t' s.text).map (· + 1))) else s

/-! ## Ends -/

/-- The text without its last `n` characters. -/
def dropEnd (n : Nat) (s : Styled) : Styled :=
  let length := s.text.length - n
  let kept := s.spans.filter (·.start < length)
  if n = 0 then s
  else ⟨s.text.take length, kept.map fun span => { span with stop := min length span.stop }⟩

/-- How many blanks a text ends in. -/
def endBlanks (text : List Char) : Nat := (text.reverse.takeWhile Text.isBlank).length

/-- The text without the blanks at its end, as far as it has more than `room` characters. -/
def trimEnd (room : Nat) (s : Styled) : Styled :=
  s.dropEnd (min (endBlanks s.text) (s.text.length - room))

/-- The text with other characters; spans reach no further than those. -/
def replaceText (text : List Char) (s : Styled) : Styled :=
  ⟨text, (s.dropEnd (s.text.length - text.length)).spans⟩

/-- What stands for the end of a line that is cut off. -/
def ellipsis : Char := '…'

/-- A line that is cut off where it is wider than `room`. -/
def shorten (room : Nat) (s : Styled) : Styled :=
  if room < Text.width s.text then s.replaceText (Text.fit (room - 1) s.text ++ [ellipsis]) else s

/-- The blanks that a line lacks to be as wide as `room`. -/
def missing (room : Nat) (s : Styled) : List Char := Text.blanks (room - Text.width s.text)

/-- A line with blanks at its end, up to a width. -/
def padRight (room : Nat) (s : Styled) : Styled := { s with text := s.text ++ s.missing room }

/-- A line with blanks at its front, up to a width. -/
def padLeft (room : Nat) (s : Styled) : Styled := (plain (s.missing room)).append s

/-! ## Runs -/

/-- The positions where a span begins or ends. -/
def edges (s : Styled) : List Nat := s.spans.flatMap fun span => [span.start, span.stop]

/-- The characters of a text, cut wherever a span begins or ends. -/
def runs (s : Styled) : List (List Char) :=
  let inner := (List.range s.text.length).filter fun i => 0 < i ∧ i ∈ s.edges
  ((s.cut inner).map (·.text)).filter (· ≠ [])

/-- Checks the styles of all spans. -/
def check (s : Styled) : Except StyleFault Unit := s.spans.forM Span.check

end Styled

end Calculator.Markup
