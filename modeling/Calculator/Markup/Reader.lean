/-
Reading markup: what is shown of a marked-up text, and how it is styled.

A style goes from the tag that opens it to the tag that closes it, or to the end
of the text. A closing tag has to close something: the latest thing open under
its name, in any of the ways to write that, or the latest of all. A name that
begins with `@` opens an action, and a closed action with a value has to have
parameters that are a literal. In what is plain, `\[` stands for a bracket, and
names of pictographs for these.
-/
import Calculator.Markup.Emoji
import Calculator.Markup.Literal
import Calculator.Markup.Styled
import Calculator.Markup.Tag
import Calculator.Text.Letter

namespace Calculator.Markup

/-- Why a text is not read. -/
inductive Fault where
  /-- a tag closes nothing -/
  | unopened (name : String)
  /-- the parameters of an action are no literal -/
  | action (value : String)
  | style (fault : StyleFault)
  deriving DecidableEq, Repr

/-! ## Plain characters -/

/-- A bracket needs no backslash before it. -/
def unescape : List Char → List Char
  | [] => []
  | '\\' :: '[' :: rest => '[' :: unescape rest
  | c :: rest => c :: unescape rest

/-- The character is a control that does not reach the terminal: a bell, a backspace, or
what moves the place of writing. -/
def isDropped (c : Char) : Bool := c.toNat ∈ [7, 8, 11, 12, 13]

/-- Characters as they are shown. -/
def shown (text : List Char) : List Char := (Emoji.replace text).filter fun c => !isDropped c

/-! ## Actions -/

/-- The parameters of an action, which is written as a name with parentheses behind it, as a
name, or as parameters alone. -/
def parameters (value : List Char) : List Char :=
  let value := Text.trim value
  match value.dropWhile fun c => Text.isWordCharacter c || c = '.' with
  | [] => "()".toList
  | rest =>
    let inner := rest.tail
    if rest.head? = some '(' ∧ inner.getLast? = some ')' ∧ '\n' ∉ inner then rest else value

/-! ## Tags -/

/-- Something that a tag has opened. -/
structure Opened where
  /-- the position of the tag among the characters shown -/
  start : Nat
  /-- the name in its normal form -/
  name : List Char
  value : List Char
  deriving DecidableEq, Repr

namespace Opened

/-- An action, not a style. -/
def isAction (o : Opened) : Bool := o.name.head? = some '@'

/-- The description of a style: its name, and the value that it has. -/
def description (o : Opened) : List Char :=
  if o.value = [] then o.name else o.name ++ ' ' :: o.value

/-- What is open under a name. -/
def isNamed (name : List Char) (o : Opened) : Bool := name = [] || o.name = name

/-- The span of something that is closed at a position. -/
def close (stop : Nat) (o : Opened) : Except Fault Span :=
  if !o.isAction then .ok ⟨o.start, stop, some o.description⟩
  else if o.value = [] ∨ Literal.isLiteral (parameters o.value) then .ok ⟨o.start, stop, none⟩
  else .error (.action (String.ofList o.value))

/-- The span of something that is never closed. -/
def toEnd (stop : Nat) (o : Opened) : Span := ⟨o.start, stop, some o.description⟩

end Opened

/-- What is read so far: the styled text, and what is still open, the latest first. -/
structure Draft where
  styled : Styled
  opened : List Opened
  deriving DecidableEq, Repr

namespace Draft

/-- Nothing is read. -/
def empty : Draft := ⟨.plain [], []⟩

/-- The normal form of a name in a tag. -/
def normalName (name : List Char) : Except Fault (List Char) :=
  (Style.normalForm name).mapError .style

/-- Reads a tag. -/
def readTag (d : Draft) : Tag → Except Fault Draft
  | .opening name value => do
    let name ← normalName name
    return { d with opened := ⟨d.styled.text.length, name, value⟩ :: d.opened }
  | .closing written => do
    let name ← if written = [] then pure [] else normalName written
    match d.opened.find? (·.isNamed name) with
    | none => throw (.unopened (String.ofList written))
    | some o =>
      let span ← o.close d.styled.text.length
      return ⟨{ d.styled with spans := d.styled.spans ++ [span] }, d.opened.erase o⟩

/-- Reads a piece. -/
def read (d : Draft) : Piece → Except Fault Draft
  | .plain text => .ok { d with styled := d.styled.append (.plain (shown (unescape text))) }
  | .tag t => d.readTag t

/-- Ends what is still open. -/
def finish (d : Draft) : Styled :=
  let rest := d.opened.map (Opened.toEnd d.styled.text.length)
  { d.styled with spans := d.styled.spans ++ rest }

end Draft

/-- The styled text of a marked-up text. A text without brackets is plain as a whole. -/
def read (text : List Char) : Except Fault Styled :=
  if '[' ∈ text then ((Piece.list text).foldlM Draft.read .empty).map Draft.finish
  else .ok (.plain (shown text))

theorem read_of_no_bracket {text : List Char} (h : '[' ∉ text) :
    read text = .ok (.plain (shown text)) := by
  simp [read, h]

end Calculator.Markup
