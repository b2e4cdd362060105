import SearchClient.Http.Host.Domain
import SearchClient.Http.Host.Numeric
import SearchClient.Text.Case
import SearchClient.Text.Percent

set_option autoImplicit false

/-! # Addresses

An address has a scheme, a place and a path, with a query and a fragment behind it. The host is in
small letters, the usual port of a scheme is left out, and single and double dots in the path of a
full address walk along it. A path is resolved by putting it behind the path of a base address. -/

namespace SearchClient.Http

/-- An address in normal form. -/
structure Address where
  scheme : List Char
  userinfo : List Char
  host : List Char
  port : Option Int
  path : List Char
  query : Option (List Char)
  fragment : Option (List Char)
deriving DecidableEq

namespace Address

/-! ## Safe characters -/

/-- Printable ASCII characters other than the given ones. -/
def isAsciiBut (excluded : String) (c : Char) : Bool :=
  0x20 < c.toNat && c.toNat < 0x7F && !excluded.toList.contains c

/-- The characters that a path keeps. -/
def isPathChar : Char → Bool :=
  isAsciiBut "\"#<>?`\x7b\x7d"

/-- The characters that a query keeps. -/
def isQueryChar : Char → Bool :=
  isAsciiBut "\"#<>"

/-- The characters that a fragment keeps. -/
def isFragmentChar : Char → Bool :=
  isAsciiBut "\"<>`"

/-- The characters that a name and password keep. -/
def isUserinfoChar : Char → Bool :=
  isAsciiBut "\"#<>?`\x7b\x7d/;=@[\\]^|"

/-- The characters that a host keeps. -/
def isHostChar (c : Char) : Bool :=
  Text.Percent.isUnreserved c || "!$&'()*+,;=\"`\x7b\x7d%|\\".toList.contains c

/-! ## Parts -/

/-- The port that a scheme uses unless told otherwise. -/
def usualPort (scheme : List Char) : Option Int :=
  [("ftp", 21), ("http", 80), ("https", 443), ("ws", 80), ("wss", 443)].findSome?
    fun (name, port) => if name.toList = scheme then some port else none

/-- Splits a scheme off, if a colon follows one. -/
def splitScheme (cs : List Char) : List Char × List Char :=
  let isSchemeChar (c : Char) : Bool := c.isAlphanum || c = '+' || c = '.' || c = '-'
  let (scheme, rest) := cs.span isSchemeChar
  match rest with
  | ':' :: rest =>
    if scheme.isEmpty || (scheme.head?.map Char.isAlpha).getD false then (scheme, rest)
    else ([], cs)
  | _ => ([], cs)

/-- Splits the place off that two slashes announce. -/
def splitPlace : List Char → List Char × List Char
  | '/' :: '/' :: cs => cs.span fun c => c != '/' && c != '?' && c != '#'
  | cs => ([], cs)

/-- The normal form of a host, if it is valid. A host in brackets is one in groups. One in ASCII
    keeps what it may hold in small letters, and any other is a domain. -/
def normalHost? (host : List Char) : Option (List Char) :=
  if host.head? = some '[' && host.getLast? = some ']' then
    let inner := (host.drop 1).dropLast
    if Host.isGrouped inner then some inner else none
  else if Host.looksNumeric host then if Host.isNumbers host then some host else none
  else if host.all (·.toNat < 0x80) then
    some (Text.Percent.encodeBy isHostChar (host.map Char.toLower))
  else (Host.sendDomain (Text.lowerFrom [] host)).toOption

/-- Splits a host and the text of a port. -/
def splitPort (cs : List Char) : List Char × List Char :=
  match cs with
  | '[' :: rest =>
    match Text.cutLast? ']' rest with
    | some (inner, port) =>
      ('[' :: inner ++ [']'], if port.head? = some ':' then port.drop 1 else port)
    | none => colon cs
  | cs => colon cs
where
  /-- Splits at the first colon. -/
  colon (cs : List Char) : List Char × List Char :=
    let (host, rest) := cs.span fun c => c != ':' && c != '@'
    (host, if rest.head? = some ':' then rest.drop 1 else rest)

/-- The port that a text denotes, without the usual one of the scheme as it is written; `none` if it
    is no number. -/
def normalPort? (scheme port : List Char) : Option (Option Int) :=
  if port.isEmpty then some none
  else
    match Literal.int? (String.ofList port) with
    | none => none
    | some n => some (if usualPort scheme = some n then none else some n)

/-- One step along a path. -/
def walkStep (walked : List (List Char)) (segment : List Char) : List (List Char) :=
  if segment = ['.'] then walked
  else if segment = ['.', '.'] then
    if walked = [] || walked = [[]] then walked else walked.dropLast
  else walked ++ [segment]

/-- A path without single and double dots. -/
def walk (path : List Char) : List Char :=
  Text.joinOn '/' ((Text.splitOn '/' path).foldl walkStep [])

/-! ## Addresses -/

/-- Whether an address names a place or at least a scheme. -/
def isRooted (a : Address) : Bool :=
  !a.scheme.isEmpty || !a.userinfo.isEmpty || !a.host.isEmpty || a.port.isSome

/-- Whether an address names a place. -/
def hasPlace (a : Address) : Bool :=
  !a.userinfo.isEmpty || !a.host.isEmpty || a.port.isSome

/-- Gives an address a path and a query, in normal form, if they fit it. -/
def withPath? (a : Address) (path : List Char) (query : Option (List Char)) : Option Address :=
  let encoded (path : List Char) : Option Address :=
    some { a with
      path := Text.Percent.encodeBy isPathChar path,
      query := query.map (Text.Percent.encodeBy isQueryChar) }
  if a.hasPlace && !path.isEmpty && path.head? ≠ some '/' then none
  else if a.isRooted then encoded (walk path)
  else
    match path with
    | '/' :: '/' :: _ => none
    | ':' :: _ => none
    | path => encoded path

/-- Cuts the fragment and the query off the end of a text. -/
def splitTail (cs : List Char) : List Char × Option (List Char) × Option (List Char) :=
  let (cs, fragment) :=
    match Text.cut? '#' cs with
    | some (cs, fragment) => (cs, some (Text.Percent.encodeBy isFragmentChar fragment))
    | none => (cs, none)
  match Text.cut? '?' cs with
  | some (cs, query) => (cs, some query, fragment)
  | none => (cs, none, fragment)

/-- The length that an address, and each part put into one, may have. -/
def longest : Nat :=
  65536

/-- Reads an address; it must not be too long, and hold no control characters. -/
def parse? (s : String) : Option Address :=
  let cs := s.toList
  if longest < cs.length || cs.any (fun c => c.toNat < 0x20 || c.toNat = 0x7F) then none
  else
    let (scheme, rest) := splitScheme cs
    let (place, rest) := splitPlace rest
    let (userinfo, place) := (Text.cutLast? '@' place).getD ([], place)
    let (host, port) := splitPort place
    let (path, query, fragment) := splitTail rest
    match normalHost? host, normalPort? scheme port with
    | some host, some port =>
      let userinfo := Text.Percent.encodeBy isUserinfoChar userinfo
      withPath? ⟨scheme.map Char.toLower, userinfo, host, port, [], none, fragment⟩ path query
    | _, _ => none

/-- The path and query of an address; an empty path is a slash. -/
def target (a : Address) : List Char :=
  (if a.path.isEmpty then ['/'] else a.path) ++
    match a.query with
    | some q => '?' :: q
    | none => []

/-- The host of an address as it is written; one in groups stands in brackets. -/
def hostText (a : Address) : List Char :=
  if a.host.contains ':' then '[' :: a.host ++ [']'] else a.host

/-- An address whose host and port are read once more, as they are when a part of the address is
    replaced. -/
def reread? (a : Address) : Option Address :=
  (normalHost? a.hostText).map fun host =>
    { a with host, port := a.port.filter (usualPort a.scheme ≠ some ·) }

/-- Replaces the path and query of an address, if neither is too long. -/
def withTarget? (a : Address) (target : List Char) : Option Address := do
  let a ← a.reread?
  match Text.cut? '?' target with
  | some (path, query) =>
    if longest < path.length || longest < query.length then none else a.withPath? path (some query)
  | none => if longest < target.length then none else a.withPath? target none

/-- The base of a service: its path ends with a slash. -/
def asBase? (a : Address) : Option Address :=
  if a.target.getLast? = some '/' then some a else a.withTarget? (a.target ++ ['/'])

/-- The address of a path relative to a base; a full address is its own. -/
def resolve? (base : Address) (path : String) : Option Address := do
  let a ← parse? path
  if !a.scheme.isEmpty && !a.host.isEmpty then return a
  else base.withTarget? (base.target ++ a.target.dropWhile (· = '/'))

/-- Replaces the query of an address by an encoded one, if that is not too long. -/
def withQuery? (a : Address) (query : List Char) : Option Address := do
  let a ← a.reread?
  if longest < query.length then none else some { a with query := some query }

/-- The host of an address, and its port if it is not the usual one. -/
def authority (a : Address) : List Char :=
  a.hostText ++ ((a.port.map fun n => ':' :: Decimal.ofInt n).getD [])

/-- The text of an address. -/
def render (a : Address) : List Char :=
  (if a.scheme.isEmpty then [] else a.scheme ++ [':']) ++
    (if a.hasPlace then
      '/' :: '/' :: (if a.userinfo.isEmpty then [] else a.userinfo ++ ['@']) ++
        a.authority
    else []) ++
    a.target ++ ((a.fragment.map fun f => '#' :: f).getD [])

end Address

end SearchClient.Http
