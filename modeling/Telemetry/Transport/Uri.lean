import Telemetry.Decimal.Digits
import Telemetry.Text.Blank

/-! Absolute `http` and `https` URIs: which texts are accepted, how they are written, and
what they say about where to connect. -/
namespace Telemetry.Transport

/-- Why a URI text is refused. -/
inductive UriFault where
  | tooLong
  | badChar
  | badAuthority
  | badFormat
deriving DecidableEq, Repr

def UriFault.message : UriFault → String
  | tooLong => "uri too long"
  | badChar => "invalid uri character"
  | badAuthority => "invalid authority"
  | badFormat => "invalid format"

/-- A URI in parts. The path is empty or starts with a slash; a fragment is not kept. -/
structure Uri where
  secure : Bool
  authority : String
  path : String
  query : Option String
deriving DecidableEq, Repr

namespace Uri

/-- The greatest length of a URI in bytes. -/
def maxLength : Nat := 65534

/-- The characters that a URI may hold as they are: letters, digits, and the punctuation
that separates parts or stands for itself. -/
def isUriChar (c : Char) : Bool := c.isAlphanum || "!#$&'()*+,-./:;=?@[]_~".toList.contains c

def endsAuthority (c : Char) : Bool := c = '/' || c = '?' || c = '#'

/-- What a reader of an authority has seen of it. Colons and percent signs count from the
last bracket or user part on. -/
structure AuthorityScan where
  colons : Nat := 0
  opened : Bool := false
  closed : Bool := false
  percent : Bool := false
  endsInUser : Bool := false

/-- One character of an authority. -/
def AuthorityScan.step (s : AuthorityScan) (c : Char) : Except UriFault AuthorityScan :=
  let s := { s with endsInUser := false }
  if c = ':' then if 8 ≤ s.colons then .error .badAuthority else .ok { s with colons := s.colons + 1 }
  else if c = '[' then
    if s.percent || s.opened then .error .badAuthority else .ok { s with opened := true }
  else if c = ']' then
    if !s.opened || s.closed then .error .badAuthority
    else .ok { s with closed := true, colons := 0, percent := false }
  else if c = '@' then .ok { s with colons := 0, percent := false, endsInUser := true }
  else if c = '%' then .ok { s with percent := true }
  else if isUriChar c then .ok s
  else .error .badChar

/-- Brackets come in a pair, at most one colon is outside them, a user part is followed by
a host, and a host has no percent signs. -/
def AuthorityScan.isComplete (s : AuthorityScan) : Bool :=
  s.opened == s.closed && s.colons ≤ 1 && !s.endsInUser && !s.percent

def checkAuthority (l : List Char) : Except UriFault Unit := do
  let scan ← l.foldlM AuthorityScan.step {}
  if scan.isComplete then .ok () else .error .badAuthority

/-- The characters of a path: all that need no escape there, quotes and braces as well, and
everything beyond ASCII. -/
def isPathChar (c : Char) : Bool :=
  let n := c.toNat
  n = 0x21 || n = 0x22 || (0x24 ≤ n && n ≤ 0x3B) || n = 0x3D || (0x40 ≤ n && n ≤ 0x5F) ||
    (0x61 ≤ n && n ≤ 0x7E) || 0x80 ≤ n

def isQueryChar (c : Char) : Bool :=
  let n := c.toNat
  n = 0x21 || (0x24 ≤ n && n ≤ 0x3B) || n = 0x3D || (0x3F ≤ n && n ≤ 0x7E) || 0x80 ≤ n

/-- The path and the query of what follows the authority, up to a fragment. -/
def readPath (l : List Char) : Except UriFault (String × Option String) :=
  let path := l.takeWhile fun c => c != '?' && c != '#'
  let rest := l.dropWhile fun c => c != '?' && c != '#'
  if !path.all isPathChar then .error .badChar
  else
    match rest with
    | '?' :: rest =>
      let query := rest.takeWhile (· != '#')
      if query.all isQueryChar then .ok (String.ofList path, some (String.ofList query))
      else .error .badChar
    | _ => .ok (String.ofList path, none)

/-- Reads a URI that starts with its scheme. -/
def parse (text : String) : Except UriFault Uri := do
  if maxLength < text.utf8ByteSize then .error .tooLong
  else
    let (secure, rest) ← match Text.after? "https://".toList text.toList with
      | some rest => .ok (true, rest)
      | none =>
        match Text.after? "http://".toList text.toList with
        | some rest => .ok (false, rest)
        | none => .error .badFormat
    let authority := rest.takeWhile (!endsAuthority ·)
    checkAuthority authority
    if authority.isEmpty then .error .badFormat
    else
      let (path, query) ← readPath (rest.dropWhile (!endsAuthority ·))
      .ok ⟨secure, String.ofList authority, path, query⟩

/-- The URI as text; an empty path is written as a slash. -/
def text (u : Uri) : String :=
  let query := match u.query with
    | some query => "?" ++ query
    | none => ""
  (if u.secure then "https://" else "http://") ++ u.authority ++
    (if u.path.isEmpty then "/" else u.path) ++ query

/-- The host and port part of the authority, without the user part. -/
def hostAndPort (u : Uri) : List Char :=
  match Text.cutLast '@' u.authority.toList with
  | some (_, rest) => rest
  | none => u.authority.toList

/-- The host to connect to; an address in brackets stands without them. -/
def host (u : Uri) : String :=
  match u.hostAndPort with
  | '[' :: rest => String.ofList (rest.takeWhile (· != ']'))
  | l => String.ofList (l.takeWhile (· != ':'))

/-- The port after the last colon, or the scheme's own. -/
def port (u : Uri) : Nat :=
  ((Text.cutLast ':' u.authority.toList).bind fun (_, port) =>
    Decimal.readUnsigned 0x10000 port).getD (if u.secure then 443 else 80)

end Uri
end Telemetry.Transport
