/-
The addresses that requests are sent to.

An address may name a scheme and a host, as in `http://host/path`; then it is
absolute. Any other one is taken as a path of the service. Single and double
dots in a path mean what they do in paths of files, and a percent sign with two
hexadecimal digits stands for a character, also for one that is part of another
such sign.
-/
import Calculator.Service.Host

namespace Calculator.Service

/-- An address cut into its parts; query and fragment are left out. -/
structure Address where
  scheme : List Char
  user : List Char
  host : List Char
  /-- the number of the channel behind the host -/
  channel : Option Int
  path : List Char
  deriving DecidableEq, Repr

/-- Why an address leads nowhere. -/
inductive AddressFault where
  /-- it is no address -/
  | invalid
  /-- its scheme is not the service's -/
  | scheme
  /-- its scheme asks for a lasting connection -/
  | connection
  /-- its host is given in brackets -/
  | bracketed
  deriving DecidableEq, Repr

namespace Address

/-! ## Parts -/

/-- The character may stand in a scheme. -/
def isSchemeCharacter (c : Char) : Bool := c.isAlphanum || c = '+' || c = '.' || c = '-'

/-- The scheme at the front of an address, and what stands behind its colon. -/
def cutScheme (text : List Char) : List Char × List Char :=
  let scheme := text.takeWhile isSchemeCharacter
  match text.drop scheme.length with
  | ':' :: rest => if scheme.head?.all Char.isAlpha then (scheme, rest) else ([], text)
  | _ => ([], text)

/-- The character ends the part of an address that names the host. -/
def endsAuthority (c : Char) : Bool := c = '/' || c = '?' || c = '#'

/-- The part that names the host, behind two slashes at the front of a text, and what follows. -/
def cutAuthority (text : List Char) : List Char × List Char :=
  match text with
  | '/' :: '/' :: rest =>
    let authority := rest.takeWhile fun c => !endsAuthority c
    (authority, rest.drop authority.length)
  | _ => ([], text)

/-- What stands before the last of a character, and what stands behind it; if there is none, all
stands behind. -/
def cutAtLast (c : Char) (text : List Char) : List Char × List Char :=
  let behind := (text.reverse.takeWhile (· ≠ c)).reverse
  ((text.take (text.length - behind.length)).dropLast, behind)

/-- The host at the front of a text: it stands in brackets, or before a colon. -/
def hostAt (text : List Char) : List Char :=
  if text.head? = some '[' ∧ ']' ∈ text then
    text.take (text.length - (text.reverse.takeWhile (· ≠ ']')).length)
  else text.takeWhile fun c => c ≠ ':' ∧ c ≠ '@'

/-- The channels of a host that go without saying. -/
def usualChannels : List (String × Int) := [
  ("ftp", 21), ("http", 80), ("https", 443), ("ws", 80), ("wss", 443)]

/-- The channel that a number names, unless it is the usual one of the scheme. -/
def channelOf (scheme text : List Char) : Except AddressFault (Option Int) :=
  if text = [] then .ok none
  else
    match Numeral.signed? (Text.trim text) with
    | none => .error .invalid
    | some number =>
      .ok (some number |>.filter (usualChannels.lookup (String.ofList scheme) ≠ some ·))

/-! ## Dots -/

/-- The segments of a path behind those in `done`, of which the latest is first. A double dot
takes the segment before it away, but not the empty one before the first slash. -/
def resolve (done : List (List Char)) : List (List Char) → List (List Char)
  | [] => done.reverse
  | segment :: rest =>
    if segment = ['.'] then resolve done rest
    else if segment = ['.', '.'] then resolve (if done = [[]] then done else done.tail) rest
    else resolve (segment :: done) rest

/-- A path without single and double dots. -/
def withoutDots (path : List Char) : List Char :=
  let segments := Text.cutAt (· = '/') path
  if ['.'] ∈ segments ∨ ['.', '.'] ∈ segments then ['/'].intercalate (resolve [] segments)
  else path

/-! ## Reading -/

/-- The longest address. -/
def longest : Nat := 65536

/-- The character is a control. -/
def isControl (c : Char) : Bool := c.toNat < 0x20 || c.toNat = 0x7f

/-- The parts of an address. -/
def cut (text : List Char) : Except AddressFault Address := do
  let (scheme, rest) := cutScheme text
  let (authority, rest) := cutAuthority rest
  let (user, place) := cutAtLast '@' authority
  let host := hostAt place
  let behind := place.drop host.length
  let channel ← channelOf scheme (if behind.head? = some ':' then behind.tail else behind)
  return ⟨scheme, user, host, channel, rest.takeWhile fun c => c ≠ '?' ∧ c ≠ '#'⟩

/-- The address names a host, or a part of how to get there. -/
def hasAuthority (a : Address) : Bool := a.user ≠ [] || a.host ≠ [] || a.channel.isSome

/-- The path by itself can be told from a scheme or a host. -/
def isPlainPath (path : List Char) : Bool :=
  path.head? ≠ some ':' && path.take 2 ≠ ['/', '/']

/-- The address that a text is. -/
def read (text : List Char) : Except AddressFault Address := do
  if longest < text.length ∨ text.any isControl then throw .invalid
  let a ← cut text
  if !Host.isValid a.host then throw .invalid
  if a.scheme = [] ∧ !a.hasAuthority then
    if isPlainPath a.path then return a else throw .invalid
  else return { a with path := withoutDots a.path }

/-! ## Leading to a path -/

/-- The address names a scheme and a host. -/
def isAbsolute (a : Address) : Bool := a.scheme ≠ [] && a.host ≠ []

/-- The text with characters for the percent signs with two hexadecimal digits behind them. One
that is not ASCII is left open. -/
def decode : List Char → List Char
  | [] => []
  | '%' :: a :: b :: rest =>
    match Text.hexadecimal? [a, b] with
    | some n => (if n < 0x80 then Char.ofNat n else '\ufffd') :: decode rest
    | none => '%' :: decode (a :: b :: rest)
  | c :: rest => c :: decode rest

/-- The path of the service that an address means. -/
def servicePath (a : Address) : List Char :=
  let path := if a.isAbsolute then a.path else withoutDots ('/' :: a.path.dropWhile (· = '/'))
  decode (decode path)

/-- The path of the service that an address leads to. -/
def target (a : Address) : Except AddressFault (List Char) :=
  if !a.isAbsolute then .ok a.servicePath
  else
    let scheme := String.ofList (a.scheme.map Char.toLower)
    if scheme ∈ ["http", "https", "ws", "wss"] then
      if Host.isBracketed a.host then .error .bracketed
      else if scheme ∈ ["ws", "wss"] then .error .connection
      else .ok a.servicePath
    else .error .scheme

end Address

end Calculator.Service
