import ClientCompiler.Number.Natural
import ClientCompiler.Number.Reading
import ClientCompiler.Web.HostName

/-!
Addresses that a document can be asked from: which of them name a host and a port at all.
-/

namespace ClientCompiler.Web

/-- The parts of an address between its two slashes and its path, without the name of a user. -/
structure Authority where
  host : List Char
  port : List Char
  deriving DecidableEq, Repr

namespace Authority

def afterLast (sign : Char) (s : List Char) : List Char :=
  (s.reverse.takeWhile (· ≠ sign)).reverse

def throughLast (sign : Char) (s : List Char) : List Char × List Char :=
  let rest := afterLast sign s
  (s.take (s.length - rest.length), rest)

/-- A host in brackets may hold colons. -/
def hostAndRest (s : List Char) : List Char × List Char :=
  if s.head? = some '[' && s.contains ']' then throughLast ']' s
  else s.span (· ≠ ':')

def ofText (s : List Char) : Authority :=
  let (host, rest) := hostAndRest (afterLast '@' s)
  ⟨host, (Text.dropPrefix? [':'] rest).getD rest⟩

def ofAddress (address : List Char) : Authority :=
  let rest := (address.dropWhile (· ≠ '/')).drop 2
  ofText (rest.takeWhile fun c => c ≠ '/' && c ≠ '?' && c ≠ '#')

end Authority

/-! ## Hosts by number -/

namespace Host

def isByte (s : List Char) : Bool :=
  !s.isEmpty && s.length ≤ 3 && s.all Char.isDigit && (s.length = 1 || s.head? ≠ some '0') &&
    ofDigits s ≤ 255

def isShort (s : List Char) : Bool :=
  let parts := Text.splitOn '.' s
  parts.length = 4 && parts.all isByte

def digitRuns (s : List Char) : List (List Char) :=
  Text.splitOn '.' (s.map fun c => if c.isDigit then c else '.')

/-- A text reads as four numbers with any one character between each two. A run of `m` digits reads
as up to `(m + 1) / 2` numbers, since a digit may be what stands between them. -/
def looksShort (s : List Char) : Bool :=
  let runs := digitRuns s
  runs.all (!·.isEmpty) && runs.length ≤ 4 && 4 ≤ total (runs.map fun r => (r.length + 1) / 2)

def isHexGroup (s : List Char) : Bool :=
  !s.isEmpty && s.length ≤ 4 && s.all fun c => (digitIn? 16 c).isSome

/-- The groups of a long number, where a short number stands for its last two. -/
def groups? (s : List Char) : Option (List (List Char)) :=
  let parts := Text.splitOn ':' s
  match parts.getLast? with
  | some last =>
    if last.contains '.' then
      if isShort last then some (parts.dropLast ++ [['0'], ['0']]) else none
    else some parts
  | none => none

def isSide (gs : List (List Char)) : Bool := gs = [[]] || gs.all isHexGroup

def sideCount (gs : List (List Char)) : Nat := if gs = [[]] then 0 else gs.length

/-- Eight groups with colons between them, or fewer with two colons for those that are left out. -/
def isLong (s : List Char) : Bool :=
  match groups? s with
  | none => false
  | some gs =>
    let first := gs.take 1
    let between := (gs.drop 1).dropLast
    let last := (gs.drop 1).drop between.length
    match between.findIdx? List.isEmpty with
    | none => gs.length = 8 && gs.all isHexGroup
    | some i =>
      let left := first ++ between.take i
      let right := between.drop (i + 1) ++ last
      isSide left && isSide right && sideCount left + sideCount right ≤ 7

def isZoned (s : List Char) : Bool :=
  let (number, zone) := s.span (· ≠ '%')
  isLong number && (zone.isEmpty || (1 < zone.length && !(zone.drop 1).contains '%'))

def isBracketed (s : List Char) : Bool :=
  2 ≤ s.length && s.head? = some '[' && s.getLast? = some ']'

def unbracketed (s : List Char) : List Char := (s.drop 1).dropLast

end Host

/-! ## Checks -/

def isHostCharacter (c : Char) : Bool :=
  c.isAlphanum || "-._~!$&'()*+,;=\"`%|\\\x7b\x7d".toList.contains c

def plainHost (host : List Char) : List Char :=
  (Text.lowerAscii host).flatMap fun c =>
    if isHostCharacter c then [c]
    else ['%', Value.hexDigit (c.toNat / 16), Value.hexDigit (c.toNat % 16)].map Char.toUpper

def refused {α : Type} : Except ForeignFault α := .error ⟨.badAddress, rfl⟩

/-- Checks the host of an address. A host that is not ASCII needs an ASCII spelling, and one that
spells another needs to spell it well. -/
def checkHost (host : List Char) : Except ForeignFault Unit :=
  if host.isEmpty then .ok ()
  else if Host.looksShort host then if Host.isShort host then .ok () else refused
  else if Host.isBracketed host then
    if !Host.isZoned (Host.unbracketed host) then refused
    else if Label.isAscii host then .ok () else .error ⟨.unencodable, rfl⟩
  else if Label.isAscii host then
    let plain := plainHost host
    if (Text.dropPrefix? Label.spelledMark plain).isSome then
      (HostName.checkSpelled plain).mapError fun f => ⟨.badHost f, rfl⟩
    else .ok ()
  else match HostName.spelled (Text.lower host) with
    | .ok _ => .ok ()
    | .error _ => refused

def ungrouped? : List Char → Option (List Char)
  | [] => some []
  | ['_'] => none
  | '_' :: '_' :: _ => none
  | '_' :: rest => ungrouped? rest
  | c :: rest => (ungrouped? rest).map (c :: ·)

/-- A port is empty or an integer, of any sign and size. -/
def isPort (s : List Char) : Bool :=
  s.isEmpty ||
    let (_, ds) := signed ((Text.trim s).map Text.plainDigit)
    ds.head? ≠ some '_' && (ungrouped? ds).any fun ds =>
      ds.length ≤ maxDecimalDigits && (natIn? 10 ds).isSome

def maxAddressLength : Nat := 65536

def isControl (c : Char) : Bool := c.toNat < 0x20 || c.toNat = 0x7F

def checkAddress (address : List Char) : Except ForeignFault Unit :=
  if maxAddressLength < address.length || address.any isControl then refused
  else
    let authority := Authority.ofAddress address
    if isPort authority.port then checkHost authority.host else refused

end ClientCompiler.Web
