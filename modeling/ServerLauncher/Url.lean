import ServerLauncher.Text.Split
import ServerLauncher.Text.Quoted

/-!
# Web addresses

A server may answer a request with the address of another one.  That address may be relative; it is
then completed from the address that was requested.

## Main definitions

* `Url`: the six parts of a web address.
* `Url.parse`: the parts of a text.
* `Url.join`: a reference completed from a base address.
-/

namespace ServerLauncher

/-- Why a text is no web address. -/
inductive UrlError where
  | unbalancedBrackets
  | badVersionedHost
  | versionFourHost
  | notAnAddress (host : String)
  | ambiguousAuthority (authority : String)
deriving DecidableEq, Repr

/-- The error in words. -/
def UrlError.message : UrlError → String
  | unbalancedBrackets => "Invalid IPv6 URL"
  | badVersionedHost => "IPvFuture address is invalid"
  | versionFourHost => "An IPv4 address cannot be in brackets"
  | notAnAddress host => Text.quoted host ++ " does not appear to be an IPv4 or IPv6 address"
  | ambiguousAuthority authority =>
    "netloc '" ++ authority ++ "' contains invalid characters under NFKC normalization"

/-- The parts of a web address: `scheme://authority/path;parameters?query#fragment`. -/
structure Url where
  scheme : List Char
  authority : List Char
  path : List Char
  parameters : List Char
  query : List Char
  fragment : List Char
deriving DecidableEq, Repr

namespace Url

/-! ## Schemes -/

/-- The schemes whose addresses can be relative.  An address without a scheme counts as one. -/
def relativeSchemes : List String :=
  ["", "ftp", "http", "gopher", "nntp", "imap", "wais", "file", "https", "shttp", "mms", "prospero",
   "rtsp", "rtspu", "sftp", "svn", "svn+ssh", "ws", "wss"]

/-- The schemes whose addresses name an authority. -/
def authoritySchemes : List String :=
  ["", "ftp", "http", "gopher", "nntp", "telnet", "imap", "wais", "file", "mms", "https", "shttp",
   "snews", "prospero", "rtsp", "rtspu", "rsync", "svn", "svn+ssh", "sftp", "nfs", "git", "git+ssh",
   "ws", "wss"]

/-- The schemes whose paths can carry parameters. -/
def parameterSchemes : List String :=
  ["", "ftp", "hdl", "prospero", "http", "imap", "https", "shttp", "rtsp", "rtspu", "sip", "sips",
   "mms", "sftp", "tel"]

/-- The characters of scheme names. -/
def isSchemeChar (c : Char) : Bool := c.isAlphanum || c = '+' || c = '-' || c = '.'

/-! ## Hosts in brackets -/

/-- A decimal number below 256 without a leading zero. -/
def isByte (s : List Char) : Bool :=
  !s.isEmpty && s.all Char.isDigit && s.length ≤ 3 && (s = ['0'] || s.head? != some '0') &&
    s.foldl (fun n c => 10 * n + (c.toNat - 48)) 0 ≤ 255

/-- Four numbers below 256 between points. -/
def isVersionFour (s : List Char) : Bool :=
  let parts := Text.splitAt '.' s
  parts.length == 4 && parts.all isByte

/-- A hexadecimal digit. -/
def isHexDigit (c : Char) : Bool :=
  c.isDigit || ('a' ≤ c && c ≤ 'f') || ('A' ≤ c && c ≤ 'F')

/-- At most four hexadecimal digits. -/
def isGroup (s : List Char) : Bool := s.length ≤ 4 && s.all isHexDigit

/-- Groups between colons, the last two of which may be written as an address of version 4.  One run
of groups may be left out between two colons. -/
def isVersionSixGroups (parts : List (List Char)) : Bool :=
  let inner := (parts.drop 1).dropLast
  let gaps := inner.filter List.isEmpty
  if parts.length < 3 || 9 < parts.length || !parts.all isGroup || 1 < gaps.length then false
  else match inner.findIdx? List.isEmpty with
    | none =>
      parts.length == 8 && parts.head? != some [] && parts.getLast? != some []
    | some i =>
      let before := i + 1
      let after := parts.length - i - 2
      let before' := if parts.head? = some [] then before - 1 else before
      let after' := if parts.getLast? = some [] then after - 1 else after
      (parts.head? != some [] || before' == 0) && (parts.getLast? != some [] || after' == 0) &&
        before' + after' < 8

/-- An address of version 6, perhaps with the name of a zone after a percent sign. -/
def isVersionSix (s : List Char) : Bool :=
  let zoned : Option (List Char) := match Text.cutFirst '%' s with
    | none => some s
    | some (address, zone) => if zone.isEmpty || zone.contains '%' then none else some address
  match zoned with
  | none => false
  | some address =>
    let parts := Text.splitAt ':' address
    match parts.getLast? with
    | none => false
    | some last =>
      if parts.length < 3 then false
      else if last.contains '.' then
        isVersionFour last && isVersionSixGroups (parts.dropLast ++ [['0'], ['0']])
      else isVersionSixGroups parts

/-- A host of a later version: `v`, hexadecimal digits, a point and more. -/
def isVersioned (s : List Char) : Bool :=
  match s with
  | 'v' :: rest =>
    let digits := rest.takeWhile isHexDigit
    match rest.dropWhile isHexDigit with
    | '.' :: tail => !digits.isEmpty && !tail.isEmpty && !tail.contains '\n'
    | _ => false
  | _ => false

/-- The test of a host between brackets. -/
def checkHost (host : List Char) : Except UrlError Unit :=
  if host.head? = some 'v' then if isVersioned host then .ok () else .error .badVersionedHost
  else if isVersionFour host then .error .versionFourHost
  else if isVersionSix host then .ok ()
  else .error (.notAnAddress (String.ofList host))

/-- Characters beyond ASCII whose compatibility form holds a delimiter of addresses. -/
def disguisedDelimiters : List Nat :=
  [0x2047, 0x2048, 0x2049, 0x2100, 0x2101, 0x2105, 0x2106, 0x2a74, 0xfe13, 0xfe16, 0xfe55, 0xfe56,
   0xfe5f, 0xfe6b, 0xff03, 0xff0f, 0xff1a, 0xff1f, 0xff20]

/-- The test of an authority.  Brackets may only surround the whole host behind the name of a user;
only what a colon begins may follow them. -/
def checkAuthority (authority : List Char) : Except UrlError Unit := do
  if authority.contains '[' != authority.contains ']' then .error .unbalancedBrackets
  else if authority.contains '[' then
    let place := ((Text.cutLast '@' authority).map (·.2)).getD authority
    match Text.cutFirst '[' place with
    | some (before, bracketed) =>
      let (host, behind) := (Text.cutFirst ']' bracketed).getD (bracketed, [])
      if !before.isEmpty || (!behind.isEmpty && behind.head? != some ':') then
        .error .unbalancedBrackets
      else checkHost host
    | none => checkHost (((Text.cutFirst ':' place).map (·.1)).getD place)

/-! ## Parsing -/

/-- Control characters and the space are ignored in front of an address. -/
def dropControls (s : List Char) : List Char := s.dropWhile fun c => c.toNat ≤ 0x20

/-- The parts of a text.  `scheme` is the scheme of addresses that name none. -/
def parse (scheme : List Char) (text : List Char) : Except UrlError Url := do
  let text := (dropControls text).filter fun c => c != '\t' && c != '\r' && c != '\n'
  let (scheme, text) := match Text.cutFirst ':' text with
    | some (c :: name, rest) =>
      if c.isAlpha && (c :: name).all isSchemeChar then ((c :: name).map Char.toLower, rest)
      else (scheme, text)
    | _ => (scheme, text)
  let isDelimiter (c : Char) : Bool := c = '/' || c = '?' || c = '#'
  let (authority, text) := match text with
    | '/' :: '/' :: rest =>
      (rest.takeWhile (!isDelimiter ·), rest.dropWhile (!isDelimiter ·))
    | _ => ([], text)
  checkAuthority authority
  let (text, fragment) := (Text.cutFirst '#' text).getD (text, [])
  let (text, query) := (Text.cutFirst '?' text).getD (text, [])
  if authority.any fun c => disguisedDelimiters.contains c.toNat then
    .error (.ambiguousAuthority (String.ofList authority))
  let (path, parameters) :=
    if parameterSchemes.contains (String.ofList scheme) then
      match Text.cutLast '/' text with
      | none => (Text.cutFirst ';' text).getD (text, [])
      | some (before, last) =>
        match Text.cutFirst ';' last with
        | none => (text, [])
        | some (name, parameters) => (before ++ '/' :: name, parameters)
    else (text, [])
  return { scheme, authority, path, parameters, query, fragment }

/-! ## Writing -/

/-- The text of an address.  A path that begins with two slashes stands for itself where there is no
authority. -/
def render (url : Url) : List Char :=
  let path := if url.parameters.isEmpty then url.path else url.path ++ ';' :: url.parameters
  let located :=
    if !url.authority.isEmpty ||
        (!url.scheme.isEmpty && authoritySchemes.contains (String.ofList url.scheme) &&
          path.take 2 ≠ ['/', '/']) then
      let rooted := if !path.isEmpty && path.head? != some '/' then '/' :: path else path
      '/' :: '/' :: (url.authority ++ rooted)
    else path
  let named := if url.scheme.isEmpty then located else url.scheme ++ ':' :: located
  let asked := if url.query.isEmpty then named else named ++ '?' :: url.query
  if url.fragment.isEmpty then asked else asked ++ '#' :: url.fragment

/-! ## Relative references -/

/-- The segments of a path with `.` left out and `..` cancelled against the segment before it;
`kept` holds the segments so far, the last one first. -/
def cancelSegments : List (List Char) → List (List Char) → List (List Char)
  | kept, [] => kept.reverse
  | kept, c :: rest =>
    if c = ['.', '.'] then cancelSegments kept.tail rest
    else if c = ['.'] then cancelSegments kept rest
    else cancelSegments (c :: kept) rest

/-- The path of a reference seen from the path of a base address. -/
def joinPaths (base path : List Char) : List Char :=
  let own := Text.splitAt '/' path
  let segments :=
    if path.head? = some '/' then own
    else
      let parts := Text.splitAt '/' base
      let parent := if parts.getLast? = some [] then parts else parts.dropLast
      let both := parent ++ own
      both.take 1 ++ ((both.drop 1).dropLast.filter (!·.isEmpty)) ++
        (if 1 < both.length then both.drop (both.length - 1) else [])
  let resolved := cancelSegments [] segments
  let resolved :=
    if segments.getLast? = some ['.'] || segments.getLast? = some ['.', '.'] then resolved ++ [[]]
    else resolved
  let joined := Text.joinWith ['/'] resolved
  if joined.isEmpty then ['/'] else joined

/-- A reference completed from a base address. -/
def join (base reference : String) : Except UrlError String := do
  if base.isEmpty then return reference
  if reference.isEmpty then return base
  let b ← parse [] base.toList
  let r ← parse b.scheme reference.toList
  let scheme := String.ofList r.scheme
  if r.scheme ≠ b.scheme || !relativeSchemes.contains scheme then return reference
  let usesAuthority := authoritySchemes.contains scheme
  if usesAuthority && !r.authority.isEmpty then return String.ofList r.render
  let r := if usesAuthority then { r with authority := b.authority } else r
  if r.path.isEmpty && r.parameters.isEmpty then
    let query := if r.query.isEmpty then b.query else r.query
    let joined := { r with path := b.path, parameters := b.parameters, query := query }
    return String.ofList joined.render
  return String.ofList { r with path := joinPaths b.path r.path }.render

end Url

end ServerLauncher
