/-
Styles, written as words: attributes such as `bold`, which `not` turns off, a
colour, another one behind `on`, and an address behind `link`. Of two words for
one thing the later counts.

All ways to write a style have one normal form (`normalForm`). Words that make
no style are a name of their own.
-/
import Calculator.Markup.Colour

namespace Calculator.Markup

/-- How characters are shown. -/
structure Style where
  /-- the attributes that are turned on or off, the latest first -/
  attributes : List (String × Bool)
  colour : Option (List Char)
  background : Option (List Char)
  link : Option (List Char)
  deriving DecidableEq, Repr

namespace Style

/-- The plain style. -/
def plain : Style := ⟨[], none, none, none⟩

/-- The attributes, in the order in which they are written. -/
def attributeNames : List String := [
  "bold", "dim", "italic", "underline", "blink", "blink2", "reverse", "conceal", "strike",
  "underline2", "frame", "encircle", "overline"]

/-- The short names of attributes. -/
def shortNames : List (String × String) := [
  ("b", "bold"), ("d", "dim"), ("i", "italic"), ("u", "underline"), ("uu", "underline2"),
  ("r", "reverse"), ("c", "conceal"), ("s", "strike"), ("o", "overline")]

/-- The attribute of a name, long or short. -/
def attribute? (name : List Char) : Option String :=
  let name := String.ofList name
  if name ∈ attributeNames then some name else shortNames.lookup name

/-- The style that words add to a style. -/
def addWords (s : Style) : List (List Char) → Except StyleFault Style
  | [] => .ok s
  | word :: rest =>
    let small := Text.lower word
    if small = "on".toList then
      match rest with
      | [] => .error .unknown
      | colour :: rest =>
        match Colour.check (Text.lower colour) with
        | .error e => .error e
        | .ok () => addWords { s with background := some (Text.lower colour) } rest
    else if small = "not".toList then
      match rest with
      | [] => .error .unknown
      | name :: rest =>
        match attribute? name with
        | none => .error .unknown
        | some name => addWords { s with attributes := (name, false) :: s.attributes } rest
    else if small = "link".toList then
      match rest with
      | [] => .error .unknown
      | address :: rest => addWords { s with link := some address } rest
    else
      match attribute? small with
      | some name => addWords { s with attributes := (name, true) :: s.attributes } rest
      | none =>
        match Colour.check small with
        | .error e => .error e
        | .ok () => addWords { s with colour := some small } rest

/-- The style that a text describes. -/
def read (text : List Char) : Except StyleFault Style :=
  if Text.trim text = "none".toList then .ok plain else addWords plain (Text.words text)

/-- The words of a style, attributes first. -/
def words (s : Style) : List (List Char) :=
  let attributes := attributeNames.filterMap fun name =>
    (s.attributes.lookup name).map fun on => ((if on then "" else "not ") ++ name).toList
  let colour := s.colour.toList
  let background := (s.background.map fun name => "on ".toList ++ name).toList
  let link := (s.link.map fun address => "link ".toList ++ address).toList
  attributes ++ colour ++ background ++ link

/-- A style as text. -/
def text (s : Style) : List Char :=
  if s.words = [] then "none".toList else [' '].intercalate s.words

/-- The normal form of what describes a style: styles that do the same have the same one. -/
def normalForm (text : List Char) : Except StyleFault (List Char) :=
  match read text with
  | .ok style => .ok style.text
  | .error .unknown => .ok (Text.lower (Text.trim text))
  | .error .component => .error .component

end Style

end Calculator.Markup
