import Tenancy.Url
import Tenancy.Url.Domain
import Tenancy.Url.Percent

namespace Tenancy.Url

inductive Error where
  | emptyHost
  | invalidDomain
  | invalidPort
  | invalidIpv4
  | invalidIpv6
  | invalidDomainCharacter
  | relativeWithoutBase
  deriving DecidableEq, Repr

def Error.message : Error → String
  | emptyHost => "empty host"
  | invalidDomain => "invalid international domain name"
  | invalidPort => "invalid port number"
  | invalidIpv4 => "invalid IPv4 address"
  | invalidIpv6 => "invalid IPv6 address"
  | invalidDomainCharacter => "invalid domain character"
  | relativeWithoutBase => "relative URL without a base"

def isLetter (c : Char) : Bool := ('a' ≤ c && c ≤ 'z') || ('A' ≤ c && c ≤ 'Z')

def isSchemeChar (c : Char) : Bool := isLetter c || Text.isDigit c || c == '+' || c == '-' || c == '.'

def isEdge (c : Char) : Bool := c.toNat ≤ 0x20

def isLineChar (c : Char) : Bool := c == '\t' || c == '\n' || c == '\r'

/-- The text without what does not count. -/
def tidy (cs : List Char) : List Char :=
  let cs := (((cs.dropWhile isEdge).reverse).dropWhile isEdge).reverse
  cs.filter (!isLineChar ·)

/-- The scheme in small letters, and what follows its colon. -/
def readScheme? (cs : List Char) : Option (String × List Char) :=
  match cs.dropWhile isSchemeChar with
  | ':' :: rest =>
    if (cs.head?.map isLetter).getD false then
      some (String.ofList ((cs.takeWhile isSchemeChar).map Char.toLower), rest)
    else none
  | _ => none

/-- What ends the host and the path alike. -/
def isSlash (special : Bool) (c : Char) : Bool := c == '/' || (special && c == '\\')

def isMarker (c : Char) : Bool := c == '?' || c == '#'

def endsAuthority (special : Bool) (c : Char) : Bool := isSlash special c || isMarker c

/-- The host of a special scheme: an address or a domain name. -/
def readSpecialHost (cs : List Char) : Except Error Host :=
  match cs with
  | '[' :: inner =>
    if inner.getLast? == some ']' then
      match Ipv6.read? inner.dropLast with
      | some groups => .ok (.ipv6 groups)
      | none => .error .invalidIpv6
    else .error .invalidIpv6
  | _ =>
    match (Percent.decode? cs).bind Domain.toAscii? with
    | none => .error .invalidDomain
    | some [] => .error .emptyHost
    | some name =>
      if Ipv4.endsInNumber name then
        match Ipv4.read? name with
        | some address => .ok (.ipv4 address)
        | none => .error .invalidIpv4
      else .ok (.name (String.ofList name))

def isForbiddenInHost (c : Char) : Bool :=
  c == '\x00' || isLineChar c || " #/:<>?@[\\]^|".toList.contains c

/-- The host of any other scheme is taken as it is, but for brackets around an address. -/
def readPlainHost (cs : List Char) : Except Error Host :=
  match cs with
  | '[' :: inner =>
    if inner.getLast? == some ']' then
      match Ipv6.read? inner.dropLast with
      | some groups => .ok (.ipv6 groups)
      | none => .error .invalidIpv6
    else .error .invalidIpv6
  | _ =>
    if cs.any isForbiddenInHost then .error .invalidDomainCharacter
    else .ok (.name (String.ofList (Percent.encode Percent.inControls cs)))

/-- Splits off a host: it ends at the authority's end or at a colon outside brackets. -/
def spanHost (special bracketed : Bool) : List Char → List Char × List Char
  | [] => ([], [])
  | c :: rest =>
    if endsAuthority special c || (c == ':' && !bracketed) then ([], c :: rest)
    else
      let bracketed := c == '[' || (bracketed && c != ']')
      let (host, rest) := spanHost special bracketed rest
      (c :: host, rest)

/-- The digits behind the colon; they end where the path starts. -/
def readPort (scheme : String) (cs : List Char) : Except Error (Option Nat × List Char) :=
  let digits := cs.takeWhile Text.isDigit
  let rest := cs.dropWhile Text.isDigit
  let ended := match rest with
    | [] => true
    | c :: _ => endsAuthority true c
  if !ended || 65535 < Text.value digits then .error .invalidPort
  else if digits.isEmpty || defaultPort? scheme == some (Text.value digits) then .ok (none, rest)
  else .ok (some (Text.value digits), rest)

structure Userinfo where
  username : String := ""
  password : Option String := none

def Userinfo.isEmpty (u : Userinfo) : Bool := u.username.isEmpty && u.password.isNone

def encodeUserinfo (cs : List Char) : String := String.ofList (Percent.encode Percent.inUserinfo cs)

/-- Everything behind the first colon is the password. -/
def readUserinfo (cs : List Char) : Userinfo :=
  let username := encodeUserinfo (cs.takeWhile (· != ':'))
  match cs.dropWhile (· != ':') with
  | _ :: c :: rest => ⟨username, some (encodeUserinfo (c :: rest))⟩
  | _ => ⟨username, none⟩

/-- Splits at the last `@` before the path. -/
def splitUserinfo (special : Bool) (cs : List Char) : Option (List Char) × List Char :=
  let authority := cs.takeWhile (!endsAuthority special ·)
  let rest := cs.dropWhile (!endsAuthority special ·)
  if authority.contains '@' then
    let host := (authority.reverse.takeWhile (· != '@')).reverse
    (some (authority.take (authority.length - host.length - 1)), host ++ rest)
  else (none, cs)

/-- The authority behind `//`, for every scheme but `file`. -/
def readAuthority (scheme : String) (cs : List Char) : Except Error (Authority × List Char) := do
  let special := isSpecial scheme
  let (userText, afterUser) := splitUserinfo special cs
  if userText == some [] && (afterUser.head?.map (endsAuthority special)).getD false then
    throw .emptyHost
  let user := (userText.map readUserinfo).getD {}
  let (hostText, afterHost) := spanHost special false afterUser
  if hostText.isEmpty && (special || afterHost.head? == some ':' || !user.isEmpty) then
    throw .emptyHost
  let host ← if hostText.isEmpty then pure none
    else (if special then readSpecialHost hostText else readPlainHost hostText).map some
  let (port, rest) ← match afterHost with
    | ':' :: rest => readPort scheme rest
    | _ => pure (none, afterHost)
  return (⟨user.username, user.password, host, port⟩, rest)

def isDriveLetter (cs : List Char) : Bool :=
  match cs with
  | [c, mark] => isLetter c && (mark == ':' || mark == '|')
  | _ => false

def isSingleDot (cs : List Char) : Bool :=
  let s := cs.map Char.toLower
  s == ".".toList || s == "%2e".toList

def isDoubleDot (cs : List Char) : Bool :=
  let s := cs.map Char.toLower
  s == "..".toList || s == ".%2e".toList || s == "%2e.".toList || s == "%2e%2e".toList

/-- A backslash ends a drive letter even where it does not end a segment. -/
def startsWithDrive (segment : List Char) : Bool :=
  isDriveLetter (segment.take 2) && (segment.drop 2).head?.all (· == '\\')

/-- Takes the last segment away; a drive letter stays. Segments are held last first. -/
def dropSegment : List (List Char) → List (List Char)
  | [] => []
  | segment :: rest => if startsWithDrive segment then segment :: rest else rest

/-- In a `file` URL a drive letter that comes first is written with a colon. -/
def placeSegment (file : Bool) (done : List (List Char)) (segment : List Char) : List (List Char) :=
  if file && done.isEmpty && isDriveLetter segment then [segment.take 1 ++ [':']]
  else Percent.encode Percent.inPath segment :: done

/-- Resolves dots. A dot segment at the end leaves an empty segment. -/
def resolve (file : Bool) (done : List (List Char)) : List (List Char) → List (List Char)
  | [] => done.reverse
  | [last] =>
    if isDoubleDot last then ([] :: dropSegment done).reverse
    else if isSingleDot last then ([] :: done).reverse
    else (placeSegment file done last).reverse
  | segment :: rest =>
    if isDoubleDot segment then resolve file (dropSegment done) rest
    else if isSingleDot segment then resolve file done rest
    else resolve file (placeSegment file done segment) rest

/-- Empty segments at the start of a `file` path do not count. -/
def dropEmpty : List (List Char) → List (List Char)
  | [] :: next :: rest => dropEmpty (next :: rest)
  | segments => segments

/-- The segments behind a slash. -/
def readSegments (scheme : String) (cs : List Char) : List (List Char) × List Char :=
  let text := cs.takeWhile (!isMarker ·)
  (resolve (scheme == "file") [] (Text.split (isSlash (isSpecial scheme)) text),
    cs.dropWhile (!isMarker ·))

def Path.ofSegments (segments : List (List Char)) : Path := .rooted (segments.map String.ofList)

/-- The path behind an authority. -/
def readPath (scheme : String) (cs : List Char) : Path × List Char :=
  let rooted (cs : List Char) :=
    let (segments, rest) := readSegments scheme cs
    (Path.ofSegments segments, rest)
  match cs with
  | [] => if isSpecial scheme then rooted [] else (.rootless "", [])
  | c :: rest =>
    if isSlash (isSpecial scheme) c then rooted rest
    else if isSpecial scheme || !isMarker c then rooted (c :: rest)
    else (.rootless "", c :: rest)

def readFragment : List Char → Option String
  | '#' :: rest => some (String.ofList (Percent.encode Percent.inFragment rest))
  | _ => none

def readQuery (special : Bool) : List Char → Option String × List Char
  | '?' :: rest =>
    let set := if special then Percent.inSpecialQuery else Percent.inQuery
    (some (String.ofList (Percent.encode set (rest.takeWhile (· != '#')))), rest.dropWhile (· != '#'))
  | cs => (none, cs)

def finish (scheme : String) (authority : Option Authority) (path : Path) (cs : List Char) : Url :=
  let (query, rest) := readQuery (isSpecial scheme) cs
  ⟨scheme, authority, path, query, readFragment rest⟩

def bare : Authority := ⟨"", none, none, none⟩

/-- `file` URLs have no user and no port. The host `localhost` counts as none, and so does any
host before a drive letter. Behind no host, the slash at the start of the path leaves an empty
segment before the first, and a drive letter after it is not the first: its bar stays a bar. -/
def readFile (cs : List Char) : Except Error Url := do
  let rooted (host : Option Host) (cs : List Char) :=
    let (segments, rest) := readSegments "file" cs
    let drive := (segments.head?.map isDriveLetter).getD false
    finish "file" (some { bare with host := if drive then none else host })
      (.ofSegments (dropEmpty segments)) rest
  match cs with
  | a :: b :: rest =>
    if isSlash true a && isSlash true b then
      let hostText := rest.takeWhile (!endsAuthority true ·)
      let after := rest.dropWhile (!endsAuthority true ·)
      if isDriveLetter hostText then return rooted none rest
      if hostText.isEmpty then return rooted none after
      match ← readSpecialHost hostText with
      | .name "localhost" => return rooted none after
      | host =>
        let slashed := (after.head?.map (isSlash true)).getD false
        return rooted (some host) (if slashed then after.drop 1 else after)
    else if isSlash true a then return rooted none (b :: rest)
    else return rooted none (a :: b :: rest)
  | [a] => return rooted none (if isSlash true a then [] else [a])
  | [] => return rooted none []

/-- A URL of a scheme that is not special. -/
def readPlain (scheme : String) (cs : List Char) : Except Error Url :=
  match cs with
  | '/' :: '/' :: rest => do
    let (authority, rest) ← readAuthority scheme rest
    let (path, rest) := readPath scheme rest
    return finish scheme (some authority) path rest
  | '/' :: rest =>
    let (segments, rest) := readSegments scheme rest
    .ok (finish scheme none (.ofSegments segments) rest)
  | cs =>
    let text := Percent.encode Percent.inControls (cs.takeWhile (!isMarker ·))
    .ok (finish scheme none (.rootless (String.ofList text)) (cs.dropWhile (!isMarker ·)))

def read (s : String) : Except Error Url :=
  match readScheme? (tidy s.toList) with
  | none => .error .relativeWithoutBase
  | some (scheme, rest) =>
    if scheme == "file" then readFile rest
    else if isSpecial scheme then do
      let (authority, rest) ← readAuthority scheme (rest.dropWhile (isSlash true))
      let (path, rest) := readPath scheme rest
      return finish scheme (some authority) path rest
    else readPlain scheme rest

def read? (s : String) : Option Url := (read s).toOption

end Tenancy.Url
