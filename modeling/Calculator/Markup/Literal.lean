/-
Literals, the values that may be given to an action: numbers, strings, the words
`None`, `True` and `False`, three dots, and tuples, sets and dictionaries of
literals. A real number and an imaginary one may be added up.

`isLiteral` checks a text. It is cut into tokens first (`Token.list?`); a state
then takes up token after token, with a frame for each bracket still open. What
may stand in a set, or before a colon, must not hold sets or dictionaries.
-/
import Calculator.Numeral
import Calculator.Text.Blank
import Calculator.Text.Digit

namespace Calculator.Markup.Literal

/-- A number without its sign. -/
inductive Number where
  | integer (value : Nat)
  | real
  | imaginary
  deriving DecidableEq, Repr

/-- The tokens of literals. -/
inductive Token where
  | number (n : Number)
  | string (ofBytes : Bool)
  /-- a word for a value, or three dots -/
  | constant
  /-- the word that an empty set begins with -/
  | setName
  /-- a bracket, a comma, a colon or a sign -/
  | symbol (c : Char)
  /-- the end of a line, and whether the next one begins with blanks -/
  | lineEnd (indented : Bool)
  deriving DecidableEq, Repr

/-! ## Numbers -/

/-- Digits with low lines between them, behind a digit. -/
def digitsBehind (isDigit : Char → Bool) : List Char → List Char
  | '_' :: c :: rest => if isDigit c then '_' :: c :: digitsBehind isDigit rest else []
  | c :: rest => if isDigit c then c :: digitsBehind isDigit rest else []
  | [] => []

/-- The digits at the front of a text, with low lines between them. -/
def digitsAt (isDigit : Char → Bool) (text : List Char) : List Char :=
  if (text.head?.any isDigit) then digitsBehind isDigit text else []

/-- The exponent at the front of a text, if it has digits. -/
def exponentAt (text : List Char) : List Char :=
  match text with
  | [] => []
  | mark :: rest =>
    let sign := (rest.take 1).filter fun c => c = '+' ∨ c = '-'
    let digits := digitsAt Char.isDigit (rest.drop sign.length)
    if (mark = 'e' ∨ mark = 'E') ∧ digits ≠ [] then mark :: (sign ++ digits) else []

/-- The integer of a run of digits: of integers only zero begins with a zero. -/
def integer? (digits : List Char) : Option Number :=
  let digits := digits.filter (· ≠ '_')
  if digits.all (· = '0') then some (.integer 0)
  else if digits.head? = some '0' then none
  else (Numeral.ofDigits? digits).map .integer

/-- The decimal number at the front of a text, with its length. -/
def decimalAt? (text : List Char) : Option (Number × Nat) :=
  let whole := digitsAt Char.isDigit text
  let rest := text.drop whole.length
  let point := (rest.take 1).filter (· = '.')
  let fraction := if point = [] then [] else digitsAt Char.isDigit (rest.drop 1)
  if whole = [] ∧ fraction = [] then none
  else
    let rest := rest.drop (point.length + fraction.length)
    let exponent := exponentAt rest
    let unit := ((rest.drop exponent.length).take 1).filter fun c => c = 'j' ∨ c = 'J'
    let length :=
      whole.length + point.length + fraction.length + exponent.length + unit.length
    if unit ≠ [] then some (.imaginary, length)
    else if point ≠ [] ∨ exponent ≠ [] then some (.real, length)
    else (integer? whole).map (·, length)

/-- The value of a digit in one of the bases up to sixteen. -/
def digitOf? (base : Nat) (c : Char) : Option Nat := (Text.hexDigit? c).filter (· < base)

/-- The letters that mark the base of an integer. -/
def bases : List (Char × Nat) := [
  ('x', 16), ('X', 16), ('o', 8), ('O', 8), ('b', 2), ('B', 2)]

/-- The integer in another base at the front of a text, with its length; `text` begins behind
the mark of the base. -/
def integerIn? (base : Nat) (text : List Char) : Option (Number × Nat) :=
  let line := (text.take 1).filter (· = '_')
  let digits := digitsAt (fun c => (digitOf? base c).isSome) (text.drop line.length)
  if digits = [] then none
  else
    let value := digits.foldl (fun n c => (digitOf? base c).elim n (base * n + ·)) 0
    some (.integer value, 2 + line.length + digits.length)

/-- The number at the front of a text, with its length. -/
def numberAt? (text : List Char) : Option (Number × Nat) :=
  match text with
  | '0' :: mark :: rest =>
    match bases.lookup mark with
    | some base => integerIn? base rest
    | none => decimalAt? text
  | _ => decimalAt? text

/-! ## Strings -/

/-- So many hexadecimal digits stand at the front of a text. -/
def hasHexDigits (n : Nat) (text : List Char) : Bool :=
  (text.take n).length = n && (text.take n).all fun c => (Text.hexDigit? c).isSome

/-- A name of a character stands in braces at the front of a text. -/
def hasCharacterName (text : List Char) : Bool :=
  let name := (text.drop 1).takeWhile fun c => c.isAlphanum || c = ' ' || c = '-'
  text.head? = some '\x7b' && name ≠ [] && text[name.length + 1]? = some '\x7d'

/-- What an escape needs behind its letter is there. -/
def isWholeEscape (ofBytes : Bool) (letter : Char) (rest : List Char) : Bool :=
  if letter = 'x' then hasHexDigits 2 rest
  else if ofBytes then true
  else if letter = 'u' then hasHexDigits 4 rest
  else if letter = 'U' then
    hasHexDigits 8 rest && ((Text.hexadecimal? (rest.take 8)).all (· ≤ 0x10ffff))
  else if letter = 'N' then hasCharacterName rest
  else true

/-- How a string is written. -/
structure StringForm where
  /-- a backslash escapes nothing -/
  isRaw : Bool
  ofBytes : Bool
  quote : Char
  /-- there are three quotes at each end, and lines may end in between -/
  isLong : Bool
  deriving DecidableEq, Repr

namespace StringForm

/-- The character may stand in the string. -/
def admits (f : StringForm) (c : Char) : Bool := !f.ofBytes || c.toNat < 0x80

/-- What stands behind the string, of which `text` is the part behind the opening quotes. -/
def behind? (f : StringForm) : List Char → Option (List Char)
  | [] => none
  | c :: rest =>
    if c = '\\' then
      match rest with
      | [] => none
      | letter :: rest =>
        if f.admits letter ∧ (f.isRaw ∨ isWholeEscape f.ofBytes letter rest) then behind? f rest
        else none
    else if c = f.quote then
      if !f.isLong then some rest
      else if rest.take 2 = [f.quote, f.quote] then some (rest.drop 2)
      else behind? f rest
    else if c = '\n' ∧ !f.isLong then none
    else if f.admits c then behind? f rest
    else none

/-- The letters that may stand before a string: they say whether it is raw, and of bytes. -/
def marks : List (String × Bool × Bool) := [
  ("", false, false), ("u", false, false), ("r", true, false), ("b", false, true),
  ("br", true, true), ("rb", true, true)]

/-- The form of a string that begins with these letters and this quote; `text` begins behind
the quote. -/
def ofFront? (letters : List Char) (quote : Char) (text : List Char) : Option StringForm :=
  (marks.lookup (String.ofList (letters.map Char.toLower))).map fun (isRaw, ofBytes) =>
    ⟨isRaw, ofBytes, quote, text.take 2 = [quote, quote]⟩

end StringForm

/-- What stands behind the string that begins with these letters and this quote, and whether it
is of bytes; `text` begins behind the quote. -/
def stringAt? (letters : List Char) (quote : Char) (text : List Char) :
    Option (Token × List Char) :=
  (StringForm.ofFront? letters quote text).bind fun form =>
    (form.behind? (text.drop (if form.isLong then 2 else 0))).map (.string form.ofBytes, ·)

/-! ## Tokens -/

/-- The character may stand in a name. -/
def isNameCharacter (c : Char) : Bool := c.isAlphanum || c = '_' || 0x80 ≤ c.toNat

/-- The blanks between tokens. -/
def isGap (c : Char) : Bool := c = ' ' || c = '\t' || c = '\x0c'

/-- The words for values. -/
def constants : List String := ["None", "True", "False"]

/-- The token that a name is. -/
def ofName? (name : List Char) : Option Token :=
  if String.ofList name ∈ constants then some .constant
  else if String.ofList name = "set" then some .setName
  else none

/-- The characters that are tokens. -/
def symbols : List Char := ['(', ')', '\x7b', '\x7d', ',', ':', '+', '-']

/-- The blanks at the front of a line put it further in; a form feed starts anew. -/
def isIndented (line : List Char) : Bool :=
  ((line.takeWhile isGap).reverse.takeWhile (· ≠ '\x0c')) ≠ []

/-- The token at the front of a text, where no gap is, and what stands behind it. The last line
must not be one of blanks. -/
def tokenAt? (text : List Char) : Option (Token × List Char) :=
  match numberAt? text with
  | some (n, length) =>
    let rest := text.drop length
    if rest.head?.any isNameCharacter then none else some (.number n, rest)
  | none =>
    let name := text.takeWhile isNameCharacter
    match text.drop name.length with
    | [] => (ofName? name).map (·, [])
    | c :: rest =>
      if c = '\'' ∨ c = '"' then stringAt? name c rest
      else if name ≠ [] then (ofName? name).map (·, c :: rest)
      else if c ∈ symbols then some (.symbol c, rest)
      else if c = '\n' then
        if isIndented rest ∧ rest.all isGap then none else some (.lineEnd (isIndented rest), rest)
      else if (c :: rest).take 3 = ['.', '.', '.'] then some (.constant, rest.drop 2)
      else none

/-- The text without the gap at its front. A comment is a gap, and so is the end of a line
behind a backslash. -/
def skipGap (text : List Char) : List Char :=
  match text with
  | [] => []
  | c :: rest =>
    if isGap c then skipGap rest
    else if c = '#' then skipGap (rest.dropWhile (· ≠ '\n'))
    else if c = '\\' ∧ rest.head? = some '\n' ∧ rest.tail ≠ [] then skipGap rest.tail
    else text
termination_by text.length
decreasing_by
  all_goals simp only [List.length_cons, List.length_tail]
  · omega
  · exact Nat.lt_succ_of_le (List.dropWhile_suffix _).length_le
  · omega

/-- The tokens of a text, at most `n`. -/
def tokens? (n : Nat) (text : List Char) : Option (List Token) :=
  match n, skipGap text with
  | _, [] => some []
  | 0, _ => none
  | n + 1, text => (tokenAt? text).bind fun (token, rest) => (tokens? n rest).map (token :: ·)

/-! ## Reading -/

/-- A part of a literal that is read. -/
inductive Operand where
  | number (n : Number) (isSigned : Bool)
  | string (ofBytes : Bool)
  | setName
  /-- a value; a set may hold it unless it holds sets or dictionaries -/
  | value (isFixed : Bool)
  deriving DecidableEq, Repr

/-- How far an entry is read. -/
inductive Pending where
  | nothing
  | sign
  | operand (o : Operand)
  /-- a real number and the sign behind it -/
  | sum
  deriving DecidableEq, Repr

namespace Pending

/-- The entry is a value, and whether that is fixed. -/
def value? : Pending → Option Bool
  | operand (.number _ _) | operand (.string _) => some true
  | operand (.value isFixed) => some isFixed
  | _ => none

/-- Reads an operand. -/
def feed : Pending → Operand → Option Pending
  | nothing, o => some (operand o)
  | sign, .number n false => some (operand (.number n true))
  | sum, .number .imaginary false => some (operand (.value true))
  | operand (.string a), .string b => if a = b then some (operand (.string a)) else none
  | _, _ => none

/-- An integer can be added to a real number: it is below the largest of those. -/
def fitsReal (n : Nat) : Bool := n < Nat.pow 2 1024 - Nat.pow 2 970

/-- Reads a sign. -/
def feedSign : Pending → Option Pending
  | nothing => some sign
  | operand (.number (.integer n) _) => if fitsReal n then some sum else none
  | operand (.number .real _) => some sum
  | _ => none

end Pending

/-- The brackets that may be open. -/
inductive Bracket where
  /-- none at all -/
  | outermost
  | group
  | braces
  /-- the parentheses of an empty set -/
  | call
  deriving DecidableEq, Repr

/-- What braces hold, as far as it is known. -/
inductive Holding where
  | unknown
  | items
  | pairs
  deriving DecidableEq, Repr

/-- An open bracket, with what is read behind it. -/
structure Frame where
  bracket : Bracket
  /-- a comma was read -/
  isList : Bool
  /-- all entries before the comma are fixed -/
  isFixed : Bool
  holding : Holding
  /-- the colon of the entry was read -/
  behindColon : Bool
  pending : Pending
  deriving DecidableEq, Repr

namespace Frame

/-- A bracket just opened. -/
def opened (bracket : Bracket) : Frame := ⟨bracket, false, true, .unknown, false, .nothing⟩

/-- Ends an entry. -/
def endEntry (f : Frame) : Option Frame :=
  match f.pending.value?, f.bracket with
  | some fixed, .outermost | some fixed, .group =>
    some { f with isList := true, isFixed := f.isFixed && fixed, pending := .nothing }
  | some fixed, .braces =>
    let done := { f with isList := true, behindColon := false, pending := .nothing }
    if f.behindColon then some { done with holding := .pairs }
    else if fixed ∧ f.holding ≠ .pairs then some { done with holding := .items }
    else none
  | _, _ => none

/-- Reads the colon behind a key. -/
def readColon (f : Frame) : Option Frame :=
  if f.bracket = .braces ∧ f.pending.value? = some true ∧ !f.behindColon ∧ f.holding ≠ .items then
    some { f with behindColon := true, pending := .nothing }
  else none

/-- Nothing is left open in the frame. -/
def isSettled (f : Frame) : Bool := f.pending = .nothing && !f.behindColon

/-- The operand that a frame comes to when its bracket is closed. -/
def close (f : Frame) (bracket : Char) : Option Operand :=
  match f.bracket, bracket with
  | .call, ')' => if f.isSettled then some (.value false) else none
  | .group, ')' =>
    match f.pending with
    | .nothing => some (.value f.isFixed)
    | .operand o =>
      if f.isList then f.endEntry.map fun f => .value f.isFixed
      else if let .string _ := o then some (.value true)
      else some o
    | _ => none
  | .braces, '\x7d' =>
    if f.isSettled then some (.value false) else f.endEntry.map fun _ => .value false
  | _, _ => none

end Frame

/-- The state of a reading. -/
structure State where
  /-- the open brackets around the innermost one -/
  outer : List Frame
  inner : Frame
  /-- the line begins with blanks -/
  isIndented : Bool
  /-- the line of the literal is over -/
  isOver : Bool
  deriving DecidableEq, Repr

namespace State

/-- Nothing is read, and the first line may begin with blanks. -/
def start (indented : Bool) : State := ⟨[], .opened .outermost, indented, false⟩

/-- Nothing is read yet. -/
def isFresh (s : State) : Bool := s.outer = [] && s.inner.isSettled && !s.inner.isList

/-- The most brackets that may be open. -/
def deepest : Nat := 200

/-- Reads an operand. -/
def feed (s : State) (o : Operand) : Option State :=
  (s.inner.pending.feed o).map fun p => { s with inner := { s.inner with pending := p } }

/-- Opens a bracket. -/
def openBracket (s : State) (bracket : Bracket) : Option State :=
  if s.outer.length < deepest then
    some { s with outer := s.inner :: s.outer, inner := .opened bracket }
  else none

/-- Reads an opening parenthesis, which after a name makes an empty set. -/
def readOpening (s : State) : Option State :=
  match s.inner.pending with
  | .operand .setName =>
    openBracket { s with inner := { s.inner with pending := .nothing } } .call
  | .operand _ => none
  | _ => s.openBracket .group

/-- Reads an opening brace. -/
def readBrace (s : State) : Option State :=
  match s.inner.pending with
  | .operand _ => none
  | _ => s.openBracket .braces

/-- Reads a closing bracket. -/
def readClosing (s : State) (bracket : Char) : Option State :=
  match s.outer, s.inner.close bracket with
  | frame :: outer, some o => feed { s with outer := outer, inner := frame } o
  | _, _ => none

/-- Reads a symbol. -/
def readSymbol (s : State) (c : Char) : Option State :=
  if c = '(' then s.readOpening
  else if c = '\x7b' then s.readBrace
  else if c = ',' then s.inner.endEntry.map fun f => { s with inner := f }
  else if c = ':' then s.inner.readColon.map fun f => { s with inner := f }
  else if c = '+' ∨ c = '-' then
    s.inner.pending.feedSign.map fun p => { s with inner := { s.inner with pending := p } }
  else s.readClosing c

/-- Reads the end of a line. It counts for nothing inside brackets and before the literal. -/
def readLineEnd (s : State) (indented : Bool) : State :=
  if s.outer ≠ [] then s
  else if s.isFresh then { s with isIndented := indented }
  else { s with isOver := true }

/-- Reads a token. -/
def read (s : State) : Token → Option State
  | .lineEnd indented => some (s.readLineEnd indented)
  | token =>
    if s.isOver ∨ (s.isFresh ∧ s.isIndented) then none
    else
      match token with
      | .number n => s.feed (.number n false)
      | .string ofBytes => s.feed (.string ofBytes)
      | .constant => s.feed (.value true)
      | .setName => s.feed .setName
      | .symbol c => s.readSymbol c
      | .lineEnd indented => some (s.readLineEnd indented)

/-- A literal is read. -/
def isComplete (s : State) : Bool :=
  s.outer = [] && (if s.inner.isSettled then s.inner.isList else s.inner.endEntry.isSome)

end State

/-- The text is a literal. Spaces and tabs before it do not count. -/
def isLiteral (text : List Char) : Bool :=
  let text := (Text.unifyLineEnds text).dropWhile fun c => c = ' ' ∨ c = '\t'
  let start := State.start (isIndented text)
  '\x00' ∉ text &&
    ((tokens? text.length text).bind (·.foldlM State.read start)).any State.isComplete

end Calculator.Markup.Literal
