/-
A character quoted in a message. It stands between single quotes, or between
double quotes if it is the single quote itself; a backslash, a tab, a line feed
and a carriage return are escaped by a letter, and what is not printable by its
code in two, four or eight hexadecimal digits.
-/
import Calculator.Text.Printable

namespace Calculator.Text

/-- The hexadecimal digits of a number, lower case, filled up with zeros. -/
def hex (places n : Nat) : String :=
  let digits := Nat.toDigits 16 n
  String.ofList (List.replicate (places - digits.length) '0' ++ digits)

/-- The character as it is written between its quotes. -/
def escape (c : Char) : String :=
  if c = '\\' then "\\\\"
  else if c = '\t' then "\\t"
  else if c = '\n' then "\\n"
  else if c = '\r' then "\\r"
  else if isPrintable c then c.toString
  else if c.toNat < 0x100 then "\\x" ++ hex 2 c.toNat
  else if c.toNat < 0x10000 then "\\u" ++ hex 4 c.toNat
  else "\\U" ++ hex 8 c.toNat

/-- The character between quotes. -/
def quote (c : Char) : String :=
  let mark := if c = '\'' then "\"" else "'"
  mark ++ escape c ++ mark

end Calculator.Text
