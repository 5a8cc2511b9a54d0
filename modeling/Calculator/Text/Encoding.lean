/-
The encodings that a JSON text may have, and how they are told apart.

Of a JSON text the first two characters are ASCII, so the zeros among the first
four octets show how wide its code units are and which octet of a unit is first
(`guess`).
-/
import Calculator.Text.Surrogate

namespace Calculator.Text

/-- An encoding of Unicode; of wide units the first octet is the high one or the low one. -/
inductive Encoding where
  | utf8
  | utf16 (highFirst : Bool)
  | utf32 (highFirst : Bool)
  deriving DecidableEq, Repr

/-- The octets of a text in UTF-8. -/
def octets (text : List Char) : List Nat :=
  text.flatMap fun c => (String.utf8EncodeChar c).map UInt8.toNat

namespace Encoding

/-- The encoding that the octets of a JSON text seem to have. -/
def guess (octets : List Nat) : Encoding :=
  match octets with
  | 0 :: second :: _ :: _ :: _ => if second = 0 then utf32 true else utf16 true
  | _ :: 0 :: third :: fourth :: _ =>
    if third = 0 ∧ fourth = 0 then utf32 false else utf16 false
  | [0, _] => utf16 true
  | [_, 0] => utf16 false
  | _ => utf8

/-- Units of which one comes from two parts below `base` each; there has to be an even number
of parts. -/
def join? (base : Nat) (highFirst : Bool) : List Nat → Option (List Nat)
  | [] => some []
  | [_] => none
  | a :: b :: rest =>
    let unit := if highFirst then a * base + b else b * base + a
    (join? base highFirst rest).map (unit :: ·)

/-- The characters of code units of which some are pairs. -/
def ofUnits : List Nat → List Char
  | [] => []
  | [unit] => [charOfUnit unit]
  | unit :: next :: rest =>
    if isHighSurrogate unit && isLowSurrogate next then charOfPair unit next :: ofUnits rest
    else charOfUnit unit :: ofUnits (next :: rest)

/-- The greatest code point. -/
def greatest : Nat := 0x10ffff

/-- The characters of octets in wide units, of which each has to be whole and a code point. -/
def decodeWide? (octets : List Nat) : Encoding → Option (List Char)
  | utf8 => none
  | utf16 highFirst => (join? 256 highFirst octets).map ofUnits
  | utf32 highFirst =>
    ((join? 256 highFirst octets).bind (join? 65536 highFirst)).bind fun units =>
      if units.all (· ≤ greatest) then some (units.map charOfUnit) else none

end Encoding

end Calculator.Text
