/-
The tags of a marked-up text, and what stands between them.

A tag is a text in brackets, such as `[bold]`. It opens something, which may
have a value as in `[link=address]`, or it closes what an earlier tag opened, as
`[/bold]` does. A backslash before a tag makes it plain text, and two make one
backslash. Brackets that hold no tag are plain text as well.
-/
import Calculator.Text.Blank

namespace Calculator.Markup

/-- A tag. -/
inductive Tag where
  /-- begins something of this name, with the value behind the first equals sign -/
  | opening (name value : List Char)
  /-- ends what was begun under this name, or the latest thing if there is no name -/
  | closing (name : List Char)
  deriving DecidableEq, Repr

/-- The tag with this inside. -/
def Tag.ofInside (inside : List Char) : Tag :=
  match inside.takeWhile (· ≠ '=') with
  | '/' :: name => .closing (Text.trim name)
  | name => .opening name ((inside.drop name.length).drop 1)

/-- A piece of a marked-up text: plain characters, or a tag. -/
inductive Piece where
  | plain (text : List Char)
  | tag (t : Tag)
  deriving DecidableEq, Repr

namespace Piece

/-- The character may begin a tag. -/
def opensTag (c : Char) : Bool := c.isLower || c = '#' || c = '/' || c = '@'

/-- The inside of the tag whose opening bracket stands just before `text`. -/
def insideAt? (text : List Char) : Option (List Char) :=
  match text with
  | [] => none
  | first :: rest =>
    let more := rest.takeWhile fun c => c ≠ ']' ∧ c ≠ '['
    if opensTag first ∧ (rest.drop more.length).head? = some ']' then some (first :: more) else none

/-- The pieces of a text; `seen` holds the plain characters since the last tag, latest first,
and `slashes` counts the backslashes just before `text`. -/
def listAfter (seen : List Char) (slashes : Nat) (text : List Char) : List Piece :=
  match text with
  | [] => [plain (List.replicate slashes '\\' ++ seen).reverse]
  | c :: rest =>
    if c = '\\' then listAfter seen (slashes + 1) rest
    else
      match if c = '[' then insideAt? rest else none with
      | some inside =>
        let whole := '[' :: (inside ++ [']'])
        let before := [plain seen.reverse, plain (List.replicate (slashes / 2) '\\')]
        let piece := if slashes % 2 = 1 then plain whole else tag (.ofInside inside)
        before ++ piece :: listAfter [] 0 (rest.drop (inside.length + 1))
      | none => listAfter (c :: (List.replicate slashes '\\' ++ seen)) 0 rest
termination_by text.length
decreasing_by all_goals simp only [List.length_cons, List.length_drop]; omega

/-- The pieces of a text. -/
def list (text : List Char) : List Piece := listAfter [] 0 text

end Piece

end Calculator.Markup
