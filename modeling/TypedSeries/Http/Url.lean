import TypedSeries.Number.Decimal
import TypedSeries.Text.Percent
import TypedSeries.Text.Pieces

/-!
# Web addresses

1. `Url.parse` reads an address as browsers do: spaces around it, tabs and line ends in it do not
   count, user names are left out, the host is brought to one form, and dot segments are taken out
   of the path.
2. `Url.target` is what is sent of it, `Url.toText` what is shown.
-/

namespace TypedSeries.Http

/-- What is wrong with an address. -/
inductive UrlFault where
  | noScheme
  | emptyHost
  | badName
  | badDottedAddress
  | badColonAddress
  | badPort
deriving DecidableEq, Repr

namespace UrlFault

def message : UrlFault → String
  | noScheme => "relative URL without a base"
  | emptyHost => "empty host"
  | badName => "invalid international domain name"
  | badDottedAddress => "invalid IPv4 address"
  | badColonAddress => "invalid IPv6 address"
  | badPort => "invalid port number"

end UrlFault

/-- An address in its parts. A path without a host is kept as it is written. -/
structure Url where
  scheme : List Char
  host : Option (List Char)
  port : Option Nat
  path : List Char
  query : Option (List Char)
  fragment : Option (List Char)
deriving DecidableEq, Repr

namespace Url

/-! ## Parts of the text -/

/-- Schemes whose addresses name a host after slashes, with their usual ports. -/
def webSchemes : List (List Char × Nat) :=
  [("http".toList, 80), ("https".toList, 443), ("ws".toList, 80), ("wss".toList, 443),
   ("ftp".toList, 21)]

/-- Leave out control characters and spaces at the ends and line ends and tabs anywhere. -/
def clean (cs : List Char) : List Char :=
  let outer (c : Char) : Bool := c.toNat ≤ 32
  (((cs.dropWhile outer).reverse.dropWhile outer).reverse).filter fun c =>
    c ≠ '\t' ∧ c ≠ '\n' ∧ c ≠ '\r'

/-- The scheme in lower case and what follows its colon. -/
def readScheme (cs : List Char) : Option (List Char × List Char) :=
  match cut ':' cs with
  | (c :: name, some rest) =>
    if c.isAlpha ∧ name.all (fun d => d.isAlphanum || d = '+' || d = '-' || d = '.') then
      some ((c :: name).map Char.toLower, rest)
    else none
  | _ => none

def isSlash (c : Char) : Bool := c = '/' || c = '\\'

/-- Whether a character ends the part that names the host. -/
def endsAuthority (c : Char) : Bool := isSlash c || c = '?' || c = '#'

/-- What follows the last `@`: a user name stands before it. -/
def withoutUser (cs : List Char) : List Char := (cs.reverse.takeWhile (· ≠ '@')).reverse

/-- The host and what follows the colon after it; a colon in brackets is part of the host. -/
def splitPort : Bool → List Char → List Char × Option (List Char)
  | _, [] => ([], none)
  | inside, c :: cs =>
    if c = ':' ∧ !inside then ([], some cs)
    else
      let (h, p) := splitPort (if c = '[' then true else if c = ']' then false else inside) cs
      (c :: h, p)

/-! ## Hosts -/

/-- Characters no host name holds. -/
def isForbidden (c : Char) : Bool :=
  c.toNat ≤ 32 || c.toNat = 127 || "#/:<>?@[\\]^|%".toList.contains c

/-- The value of digits of a base, none at all being zero. -/
def digitsOf (base : Nat) (cs : List Char) : Option Nat :=
  cs.foldlM (fun n c => (Percent.digitValue? c).bind fun d =>
    if d < base then some (base * n + d) else none) 0

/-- One part of a dotted address: decimal, octal after `0` or hexadecimal after `0x`. -/
def dottedPart? : List Char → Option Nat
  | [] => none
  | '0' :: x :: cs => if x = 'x' ∨ x = 'X' then digitsOf 16 cs else digitsOf 8 (x :: cs)
  | cs => digitsOf 10 cs

/-- The labels of a name without the empty one after a final dot. -/
def labels (cs : List Char) : List (List Char) :=
  let ps := pieces '.' cs
  if 1 < ps.length ∧ ps.getLast? = some [] then ps.dropLast else ps

/-- Whether a name ends in a number and so must be a dotted address. -/
def endsInNumber (cs : List Char) : Bool :=
  match (labels cs).getLast? with
  | some label =>
    label ≠ [] ∧ (label.all Char.isDigit ∨
      (["0x".toList, "0X".toList].contains (label.take 2) ∧ (dottedPart? label).isSome))
  | none => false

/-- The number of a dotted address: its last part fills the bytes the others leave. -/
def dottedNumber? (parts : List Nat) : Option Nat :=
  match parts.reverse with
  | [] => none
  | last :: front =>
    if parts.length ≤ 4 ∧ front.all (· < 256) ∧ last < Nat.pow 256 (5 - parts.length) then
      some (front.reverse.foldl (fun n p => 256 * n + p) 0 * Nat.pow 256 (5 - parts.length) + last)
    else none

/-- Four bytes as a dotted address. -/
def dottedText (n : Nat) : List Char :=
  ['.'].intercalate ([n / 16777216, n / 65536 % 256, n / 256 % 256, n % 256].map decimalDigits)

def readDotted (cs : List Char) : Except UrlFault (List Char) :=
  match (labels cs).mapM dottedPart? >>= dottedNumber? with
  | some n => .ok (dottedText n)
  | none => .error .badDottedAddress

/-- One group of a colon address. -/
def group? (cs : List Char) : Option Nat :=
  if cs ≠ [] ∧ cs.length ≤ 4 then digitsOf 16 cs else none

/-- Groups with colons between them; the last two may be written as a dotted address. -/
def groups? : List (List Char) → Option (List Nat)
  | [] => some []
  | [last] =>
    if last.contains '.' then
      match (pieces '.' last).mapM (fun p =>
        if p.all Char.isDigit ∧ (p.length = 1 ∨ p.head? ≠ some '0') then dottedPart? p
        else none) with
      | some [a, b, c, d] =>
        if a < 256 ∧ b < 256 ∧ c < 256 ∧ d < 256 then some [256 * a + b, 256 * c + d] else none
      | _ => none
    else (group? last).map fun g => [g]
  | p :: ps => do
    let g ← group? p
    let gs ← groups? ps
    return g :: gs

/-- The text before and after the first double colon. -/
def cutDoubleColon : List Char → Option (List Char × List Char)
  | ':' :: ':' :: rest => some ([], rest)
  | c :: rest => (cutDoubleColon rest).map fun p => (c :: p.1, p.2)
  | [] => none

def groupList? (cs : List Char) : Option (List Nat) :=
  if cs = [] then some [] else groups? (pieces ':' cs)

/-- The eight groups of a colon address; a double colon stands for at least one zero. -/
def colonGroups? (cs : List Char) : Option (List Nat) :=
  match cutDoubleColon cs with
  | some (front, back) =>
    if front.contains '.' then none
    else match groupList? front, groupList? back with
      | some f, some b =>
        if f.length + b.length ≤ 7 then
          some (f ++ List.replicate (8 - f.length - b.length) 0 ++ b)
        else none
      | _, _ => none
  | none => (groupList? cs).bind fun gs => if gs.length = 8 then some gs else none

/-- How many zeros stand in front. -/
def zeroRun (gs : List Nat) : Nat := (gs.takeWhile (· = 0)).length

/-- The place and length of the first longest run of zeros. -/
def longestRun (gs : List Nat) : Nat × Nat :=
  (List.range gs.length).foldl (fun best i =>
    if best.2 < zeroRun (gs.drop i) then (i, zeroRun (gs.drop i)) else best) (0, 0)

/-- Groups in hexadecimal, the longest run of two or more zeros as a double colon. -/
def colonText (gs : List Nat) : List Char :=
  let (i, n) := longestRun gs
  let text (gs : List Nat) : List Char := [':'].intercalate (gs.map (Nat.toDigits 16))
  if 2 ≤ n then text (gs.take i) ++ [':', ':'] ++ text (gs.drop (i + n)) else text gs

/-- A host in its one form: an address of either kind, or a name in lower case. -/
def readHost : List Char → Except UrlFault (List Char)
  | [] => .error .emptyHost
  | '[' :: cs =>
    match cs.reverse with
    | ']' :: inner =>
      match colonGroups? inner.reverse with
      | some gs => .ok ('[' :: (colonText gs ++ [']']))
      | none => .error .badColonAddress
    | _ => .error .badColonAddress
  | cs =>
    match Percent.decodeText? cs with
    | none => .error .badName
    | some name =>
      let name := name.toList.map Char.toLower
      if name = [] then .error .emptyHost
      else if name.any isForbidden then .error .badName
      else if endsInNumber name then readDotted name
      else .ok name

/-- A port below 65536; the usual one is left out. -/
def readPort (usual : Nat) : Option (List Char) → Except UrlFault (Option Nat)
  | none => .ok none
  | some [] => .ok none
  | some cs =>
    match (if cs.all Char.isDigit then some (digitsValue cs) else none) with
    | some n =>
      if n < 65536 then .ok (if n = usual then none else some n) else .error .badPort
    | none => .error .badPort

/-! ## Paths -/

/-- Whether a segment is a dot, one way or another. -/
def isDot (segment : List Char) : Bool :=
  let s := String.ofList (segment.map Char.toLower)
  s = "." || s = "%2e"

/-- Whether a segment is two dots, one way or another. -/
def isDoubleDot (segment : List Char) : Bool :=
  let s := String.ofList (segment.map Char.toLower)
  s = ".." || s = ".%2e" || s = "%2e." || s = "%2e%2e"

/-- Follow dot segments, given the segments passed so far. -/
def followDots (passed : List (List Char)) : List (List Char) → List (List Char)
  | [] => passed
  | segment :: rest =>
    let here :=
      if isDoubleDot segment then passed.dropLast
      else if isDot segment then passed
      else passed ++ [segment]
    if rest = [] ∧ (isDoubleDot segment ∨ isDot segment) then here ++ [[]]
    else followDots here rest

/-- Whether a character of any part is written as percent codes. -/
def isUnprintable (c : Char) : Bool := c.toNat < 32 || 126 < c.toNat

def escapedInPath (c : Char) : Bool :=
  isUnprintable c || " \"#<>?\x60\x7b\x7d".toList.contains c

def escapedInQuery (c : Char) : Bool := isUnprintable c || " \"#<>'".toList.contains c

def escapedInFragment (c : Char) : Bool := isUnprintable c || " \"<>\x60".toList.contains c

/-- A path from the root, its segments cleared of dots and its characters escaped. -/
def readPath (cs : List Char) : List Char :=
  let cs := cs.map fun c => if c = '\\' then '/' else c
  let segments := pieces '/' (match cs with | '/' :: rest => rest | _ => cs)
  (followDots [] segments).flatMap fun s => '/' :: Percent.escapeWhere escapedInPath s

/-- The parts after the host. -/
def readRest (scheme : List Char) (host : List Char) (port : Option Nat) (cs : List Char) : Url :=
  let (front, fragment) := cut '#' cs
  let (path, query) := cut '?' front
  ⟨scheme, some host, port, readPath path, query.map (Percent.escapeWhere escapedInQuery),
    fragment.map (Percent.escapeWhere escapedInFragment)⟩

/-! ## Reading and writing -/

def parse (s : String) : Except UrlFault Url :=
  match readScheme (clean s.toList) with
  | none => .error .noScheme
  | some (scheme, rest) =>
    match webSchemes.lookup scheme with
    | none => .ok ⟨scheme, none, none, Percent.escapeWhere isUnprintable rest, none, none⟩
    | some usual => do
      let cs := rest.dropWhile isSlash
      let authority := withoutUser (cs.takeWhile fun c => !endsAuthority c)
      let (name, digits) := splitPort false authority
      let host ← readHost name
      let port ← readPort usual digits
      return readRest scheme host port (cs.dropWhile fun c => !endsAuthority c)

/-- A part behind its mark, if there is one. -/
def marked (mark : Char) : Option (List Char) → List Char
  | some cs => mark :: cs
  | none => []

/-- What is sent of an address to its host. -/
def target (u : Url) : List Char := u.path ++ marked '?' u.query

/-- An address as it is shown. -/
def toText (u : Url) : String :=
  String.ofList (u.scheme ++ ':' ::
    (match u.host with
      | some host => '/' :: '/' :: (host ++ marked ':' (u.port.map decimalDigits))
      | none => []) ++
    u.path ++ marked '?' u.query ++ marked '#' u.fragment)

/-- Whether requests can be sent to an address. -/
def isHttp (u : Url) : Bool := u.scheme = "http".toList || u.scheme = "https".toList

/-- The port of an address, or the usual one of its scheme. -/
def portOrUsual (u : Url) : Option Nat := u.port.or (webSchemes.lookup u.scheme)

/-- Whether two addresses are of one host and port. -/
def sharesSite (u v : Url) : Bool := u.host = v.host && u.portOrUsual = v.portOrUsual

end Url

end TypedSeries.Http
