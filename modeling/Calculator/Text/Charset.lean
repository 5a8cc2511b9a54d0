/-
The character sets that an output may be limited to. `holds` says which
characters a set has, `fit` puts a question mark for each one it lacks.
-/
namespace Calculator.Text

/-- What an output can carry. -/
inductive Charset where
  | ascii
  | latin1
  | unicode
  deriving DecidableEq, Repr

namespace Charset

/-- The set has the character. -/
def holds : Charset → Char → Bool
  | ascii, c => c.toNat < 0x80
  | latin1, c => c.toNat < 0x100
  | unicode, _ => true

/-- The set has every character of the text. -/
def carries (set : Charset) (text : List Char) : Bool := text.all set.holds

/-- The text with a question mark for every character that the set lacks. -/
def fit (set : Charset) (text : List Char) : List Char :=
  text.map fun c => if set.holds c then c else '?'

theorem carries_fit (set : Charset) (text : List Char) : set.carries (set.fit text) = true := by
  simp only [carries, fit, List.all_map, List.all_eq_true, Function.comp]
  intro c _
  split
  · assumption
  · cases set <;> decide

theorem fit_eq_self {set : Charset} {text : List Char} (h : set.carries text = true) :
    set.fit text = text := by
  simp only [carries, List.all_eq_true] at h
  simp only [fit]
  exact List.map_congr_left (fun c hc => by simp [h c hc]) |>.trans (List.map_id _)

end Charset

end Calculator.Text
