/-
  ObjectStream.Url

  Reading a URL without a base, as web browsers do: blanks around it and line
  breaks and tabs in it do not count, the scheme decides how the rest is read,
  and hosts, ports and paths are brought into one form.
-/
import ObjectStream.Url.Host
import ObjectStream.Url.Path

namespace ObjectStream

/-- A URL in its parts. -/
structure Url where
  scheme : String
  username : String
  password : String
  host : Option Url.Host
  /-- The port, where it is not the one of the scheme. -/
  port : Option UInt16
  path : Url.Path
  query : Option String
  fragment : Option String
deriving DecidableEq, Repr

namespace Url

/-! ## Scheme -/

/-- How the URLs of a scheme are read. -/
def kindOf (scheme : String) : SchemeKind :=
  if scheme = "file" then .file
  else if ["http", "https", "ws", "wss", "ftp"].contains scheme then .web
  else .other

/-- The port that a scheme stands for. -/
def defaultPort? (scheme : String) : Option UInt16 :=
  if scheme = "http" || scheme = "ws" then some 80
  else if scheme = "https" || scheme = "wss" then some 443
  else if scheme = "ftp" then some 21
  else none

/-- Whether a character may stand in a scheme, after its first letter. -/
def isSchemeChar (c : Char) : Bool :=
  c.isAlphanum || c = '+' || c = '-' || c = '.'

/-- The scheme in small letters, and the text after its colon. -/
def splitScheme? (text : List Char) : Option (String × List Char) :=
  match text, text.dropWhile isSchemeChar with
  | c :: _, ':' :: rest =>
    if c.isAlpha then some (Ascii.lower (String.ofList (text.takeWhile isSchemeChar)), rest)
    else none
  | _, _ => none

/-! ## Authority -/

/-- The parts between the two slashes and the path. -/
structure Authority where
  username : String
  password : String
  host : Option Host
  port : Option UInt16
  /-- The text after the authority. -/
  rest : List Char

/-- Whether a character ends the authority. -/
def endsAuthority (kind : SchemeKind) (c : Char) : Bool :=
  kind.isSlash c || c = '?' || c = '#'

/-- The text before the last `@`, if there is one, and the text after it. -/
def splitUserInfo (text : List Char) : Option (List Char) × List Char :=
  if text.contains '@' then
    let after := (text.reverse.takeWhile (· ≠ '@')).reverse
    (some (text.take (text.length - after.length - 1)), after)
  else (none, text)

/-- The host and what follows it: a colon ends it, but not inside brackets. -/
def splitHost (inBrackets : Bool) : List Char → List Char × List Char
  | [] => ([], [])
  | c :: rest =>
    if c = ':' && !inBrackets then ([], c :: rest)
    else
      let inside := if c = '[' then true else if c = ']' then false else inBrackets
      let (host, left) := splitHost inside rest
      (c :: host, left)

/-- Reads what follows a host: nothing, or a colon and a port. In a scheme that is not special a
backslash ends the port; the text from there on is left. -/
def readPort : List Char → Except Error (Option UInt16 × List Char)
  | ':' :: text =>
    let digits := text.takeWhile Char.isDigit
    let left := text.dropWhile Char.isDigit
    if !left.isEmpty && left.head? ≠ some '\\' then .error .invalidPort
    else if digits.isEmpty then .ok (none, left)
    else
      match Number.unsigned? 65536 digits with
      | some n => .ok (some (UInt16.ofNat n), left)
      | none => .error .invalidPort
  | text => .ok (none, text)

/-- Reads a host with the port after it. -/
def readHost (kind : SchemeKind) (text : List Char) :
    Except Error (Option Host × Option UInt16 × List Char) :=
  let (hostText, afterHost) := splitHost false text
  if hostText.isEmpty then
    if kind.isSpecial || !afterHost.isEmpty then .error .emptyHost else .ok (none, none, [])
  else do
    let host ← if kind.isSpecial then Host.ofSpecial hostText else Host.ofOpaque hostText
    let (port, left) ← readPort afterHost
    .ok (some host, port, left)

/-- Reads an authority and leaves the text after it. -/
def readAuthority (kind : SchemeKind) (text : List Char) : Except Error Authority :=
  let inner := text.takeWhile fun c => !endsAuthority kind c
  let rest := text.dropWhile fun c => !endsAuthority kind c
  let (userInfo, hostText) := splitUserInfo inner
  let encode (part : List Char) := String.ofList (Percent.encode Percent.inUserInfo part)
  let info := userInfo.getD []
  let username := encode (info.takeWhile (· ≠ ':'))
  let password := encode ((info.dropWhile (· ≠ ':')).drop 1)
  if userInfo = some [] && hostText.isEmpty && !rest.isEmpty then .error .emptyHost
  else do
    let (host, port, left) ← readHost kind hostText
    if host.isNone && !(username.isEmpty && password.isEmpty) then .error .emptyHost
    else .ok { username, password, host, port, rest := left ++ rest }

/-! ## Path, query and fragment -/

/-- The text before the first of some characters, and the text from there on. -/
def splitBefore (stop : List Char) (text : List Char) : List Char × List Char :=
  (text.takeWhile fun c => !stop.contains c, text.dropWhile fun c => !stop.contains c)

/-- The query and the fragment that follow a path. -/
def readTail (kind : SchemeKind) (text : List Char) : Option String × Option String :=
  let (queryText, fragmentText) := splitBefore ['#'] text
  let inQuery := if kind.isSpecial then Percent.inSpecialQuery else Percent.inQuery
  let query := match queryText with
    | '?' :: query => some (String.ofList (Percent.encode inQuery query))
    | _ => none
  let fragment := match fragmentText with
    | '#' :: fragment => some (String.ofList (Percent.encode Percent.inFragment fragment))
    | _ => none
  (query, fragment)

/-- The URL of a scheme with an authority. -/
def withAuthority (scheme : String) (a : Authority) : Url :=
  let kind := kindOf scheme
  let (pathText, tail) := splitBefore ['?', '#'] a.rest
  let (path, drive) := Path.read kind pathText
  let (query, fragment) := readTail kind tail
  { scheme
    username := a.username
    password := a.password
    host := if drive then none else a.host
    port := a.port.filter fun p => defaultPort? scheme ≠ some p
    path, query, fragment }

/-- The URL of a scheme without an authority. -/
def withoutAuthority (scheme : String) (text : List Char) : Url :=
  let kind := kindOf scheme
  let (pathText, tail) := splitBefore ['?', '#'] text
  let path :=
    if kind.isSpecial || pathText.head? = some '/' then (Path.read kind pathText).1
    else .opaqueText (String.ofList (Percent.encode Percent.isControl pathText))
  let (query, fragment) := readTail kind tail
  { scheme, username := "", password := "", host := none, port := none, path, query, fragment }

/-- Reads what follows `file:` and two slashes. A drive is no host, and `localhost` is none either. -/
def readFileHost (text : List Char) : Except Error Authority :=
  let hostText := text.takeWhile fun c => !endsAuthority .file c
  let rest := text.dropWhile fun c => !endsAuthority .file c
  let authority (host : Option Host) (rest : List Char) : Authority :=
    { username := "", password := "", host, port := none, rest }
  if Path.isDrive hostText then .ok (authority none text)
  else if hostText.isEmpty then .ok (authority none rest)
  else do
    let host ← Host.ofSpecial hostText
    .ok (authority (if host = .domain "localhost" then none else some host) rest)

/-! ## Whole URLs -/

/-- Whether a character does not count at the ends of a URL. -/
def isEdge (c : Char) : Bool := c.toNat ≤ 0x20

/-- Whether a character does not count inside a URL. -/
def isBreak (c : Char) : Bool := c = '\t' || c = '\n' || c = '\r'

/-- The characters of a URL that count. -/
def significant (text : List Char) : List Char :=
  (((text.dropWhile isEdge).reverse.dropWhile isEdge).reverse).filter fun c => !isBreak c

/-- Reads a URL. -/
def parse (text : String) : Except Error Url :=
  match splitScheme? (significant text.toList) with
  | none => .error .relative
  | some (scheme, rest) =>
    match kindOf scheme with
    | .web => do
      let a ← readAuthority .web (rest.dropWhile SchemeKind.web.isSlash)
      .ok (withAuthority scheme a)
    | .file =>
      match rest with
      | a :: b :: after =>
        if SchemeKind.file.isSlash a && SchemeKind.file.isSlash b then do
          let a ← readFileHost after
          .ok (withAuthority scheme a)
        else .ok (withoutAuthority scheme rest)
      | _ => .ok (withoutAuthority scheme rest)
    | .other =>
      match rest with
      | '/' :: '/' :: after => do
        let a ← readAuthority .other after
        .ok (withAuthority scheme a)
      | _ => .ok (withoutAuthority scheme rest)

/-- The port of a URL, or the one of its scheme. -/
def effectivePort? (url : Url) : Option UInt16 :=
  url.port <|> defaultPort? url.scheme

end Url

end ObjectStream
