/-
Pictographs by name. A name between two colons, such as `:warning:`, stands for
a pictograph; `-text` or `-emoji` behind the name selects how it is drawn. What
is no name of a pictograph stays as it is.
-/
import Calculator.Markup.EmojiNames
import Calculator.Text.Blank
import Calculator.Text.Digit
import Calculator.Text.Lowercase

namespace Calculator.Markup.Emoji

/-- The character of a code point in hexadecimal digits. -/
def codePoint (digits : List Char) : Char := Char.ofNat ((Text.hexadecimal? digits).getD 0)

/-- An entry of the table: a name and its pictograph. -/
def entry (text : List Char) : List Char × List Char :=
  (text.takeWhile (· ≠ ':'),
    (Text.cutAt (· = '-') ((text.dropWhile (· ≠ ':')).drop 1)).map codePoint)

/-- The names of pictographs with the pictographs. -/
def names : List (List Char × List Char) := (Text.words emojiTable.toList).map entry

/-- The ways to draw a pictograph, with the selectors behind it. -/
def variants : List (List Char × Char) := [
  ("-emoji".toList, '\ufe0f'), ("-text".toList, '\ufe0e')]

/-- The pictograph of a code. -/
def ofCode? (code : List Char) : Option (List Char) :=
  match variants.find? (·.1.isSuffixOf code) with
  | some (ending, selector) =>
    (names.lookup (Text.lower (code.take (code.length - ending.length)))).map (· ++ [selector])
  | none => names.lookup (Text.lower code)

/-- A text with its codes replaced. -/
def replace (text : List Char) : List Char :=
  match text with
  | [] => []
  | c :: rest =>
    if c = ':' then
      let code := rest.takeWhile fun c => c ≠ ':' ∧ !Text.isBlank c
      match rest.drop code.length with
      | ':' :: _ =>
        (ofCode? code).getD (':' :: code ++ [':']) ++ replace (rest.drop (code.length + 1))
      | _ => c :: replace rest
    else c :: replace rest
termination_by text.length
decreasing_by all_goals simp only [List.length_cons, List.length_drop]; omega

end Calculator.Markup.Emoji
