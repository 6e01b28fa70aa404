import WebCrawl.Url.Basic
import WebCrawl.Url.Path

/-!
# Parsing URLs

Absolute URLs only: there is no base that a relative one could be resolved against. Special schemes
take any number of slashes and backslashes before their authority; the scheme `file` has rules of
its own for hosts and drive letters; other schemes have an authority only behind `//`.
-/

namespace WebCrawl.Url

/-- The text without controls and blanks at its ends and without ignored characters. -/
def cleaned (text : String) : List Char :=
  let edge (c : Char) : Bool := c.toNat ≤ 0x20
  let s := (text.toList.dropWhile edge).reverse.dropWhile edge |>.reverse
  s.filter fun c => !isIgnored c

def isSchemeChar (c : Char) : Bool := c.isAlphanum || c = '+' || c = '-' || c = '.'

/-- The scheme, in lower case, and the text behind its colon. -/
def splitScheme? (s : List Char) : Option (String × List Char) :=
  if s.head?.any Char.isAlpha then
    match s.dropWhile isSchemeChar with
    | ':' :: rest => some (String.ofList ((s.takeWhile isSchemeChar).map Char.toLower), rest)
    | _ => none
  else none

def endsAuthority (special : Bool) (c : Char) : Bool :=
  c = '/' || c = '?' || c = '#' || (special && c = '\\')

/-- User and password before the last `@` of an authority, and the text behind it. -/
def splitUserinfo (special : Bool) (s : List Char) :
    Except UrlError (String × Option String × List Char) :=
  let authority := s.takeWhile fun c => !endsAuthority special c
  if authority.contains '@' then
    let hostPart := (authority.reverse.takeWhile (· ≠ '@')).reverse
    let userinfo := (authority.reverse.dropWhile (· ≠ '@')).drop 1 |>.reverse
    let rest := hostPart ++ s.drop authority.length
    if userinfo.isEmpty then
      if hostPart.isEmpty ∧ ¬rest.isEmpty then .error .emptyHost else .ok ("", none, rest)
    else
      let encode (t : List Char) := String.ofList (Percent.encode Percent.userinfoSet t)
      let password := (userinfo.dropWhile (· ≠ ':')).drop 1
      .ok (encode (userinfo.takeWhile (· ≠ ':')),
        if password.isEmpty then none else some (encode password), rest)
  else .ok ("", none, s)

/-- The text of a host and what follows it; a colon inside brackets does not end a host. -/
def splitHost (special inBrackets : Bool) : List Char → List Char × List Char
  | [] => ([], [])
  | c :: rest =>
    if (c = ':' && !inBrackets) || endsAuthority special c then ([], c :: rest)
    else
      let inside := if c = '[' then true else if c = ']' then false else inBrackets
      let (host, tail) := splitHost special inside rest
      (c :: host, tail)

/-- The digits of a port, up to the end of the authority; the default port of a scheme is left
out. -/
def splitPort (scheme : String) (s : List Char) : Except UrlError (Option Nat × List Char) :=
  let digits := s.takeWhile Char.isDigit
  let rest := s.dropWhile Char.isDigit
  let value := digits.foldl (fun n c => min 65536 (n * 10 + (c.toNat - '0'.toNat))) 0
  if 65535 < value then .error .badPort
  else if rest.head?.any fun c => !(c = '/' || c = '\\' || c = '?' || c = '#') then .error .badPort
  else if digits.isEmpty ∨ defaultPort? scheme = some value then .ok (none, rest)
  else .ok (some value, rest)

def splitAuthority (scheme : String) (s : List Char) : Except UrlError (Authority × List Char) :=
  let special := isSpecialScheme scheme
  match splitUserinfo special s with
  | .error e => .error e
  | .ok (username, password, s) =>
    let (hostText, rest) := splitHost special false s
    if special ∧ hostText.isEmpty then .error .emptyHost
    else
      match (if special then Host.parseSpecial hostText else Host.parseOpaque hostText) with
      | .error e => .error e
      | .ok host =>
        let host := if host = .name "" then none else some host
        if host.isNone ∧ rest.head? = some ':' then .error .emptyHost
        else
          let port := match rest with
            | ':' :: tail => splitPort scheme tail
            | tail => .ok (none, tail)
          match port with
          | .error e => .error e
          | .ok (port, rest) =>
            if host.isNone ∧ (¬username.isEmpty ∨ password.isSome) then .error .emptyHost
            else .ok (⟨username, password, host, port⟩, rest)

def splitTail (s : List Char) : List Char × List Char :=
  (s.takeWhile fun c => c ≠ '?' && c ≠ '#', s.dropWhile fun c => c ≠ '?' && c ≠ '#')

def readTail (scheme : String) (s : List Char) : Option String × Option String :=
  let set := if isSpecialScheme scheme then Percent.specialQuerySet else Percent.querySet
  let fragment (s : List Char) : Option String := match s with
    | '#' :: rest => some (String.ofList (Percent.encode Percent.fragmentSet rest))
    | _ => none
  match s with
  | '?' :: rest =>
    (some (String.ofList (Percent.encode set (rest.takeWhile (· ≠ '#')))),
      fragment (rest.dropWhile (· ≠ '#')))
  | rest => (none, fragment rest)

def assemble (scheme : String) (authority : Option Authority) (path : List Char)
    (tail : List Char) : Url :=
  let (query, fragment) := readTail scheme tail
  ⟨scheme, authority, String.ofList path, query, fragment⟩

def rulesOf (scheme : String) : UrlPath.Rules := ⟨isSpecialScheme scheme, scheme == "file"⟩

def parseAuthority (scheme : String) (s : List Char) : Except UrlError Url :=
  match splitAuthority scheme s with
  | .error e => .error e
  | .ok (authority, rest) =>
    let (pathText, tail) := splitTail rest
    let rules := rulesOf scheme
    let path :=
      if rules.special then
        match pathText with
        | c :: more =>
          if UrlPath.isSeparator rules c then (UrlPath.extend rules ['/'] more).path
          else (UrlPath.extend rules ['/'] (c :: more)).path
        | [] => ['/']
      else match pathText with
        | [] => []
        | '/' :: more => (UrlPath.extend rules [] ('/' :: more)).path
        | text => (UrlPath.extend rules ['/'] text).path
    .ok (assemble scheme (some authority) path tail)

def noAuthority : Authority := ⟨"", none, none, none⟩

def fileUrl (host : Option Host) (start s : List Char) : Url :=
  let (pathText, tail) := splitTail s
  let p := UrlPath.extend (rulesOf "file") start pathText
  let host := if p.hostDropped then none else host
  assemble "file" (some { noAuthority with host := host }) p.path tail

/-- A file URL from behind its colon. Two slashes open a host, unless a drive letter stands in its
place. -/
def parseFileUrl (s : List Char) : Except UrlError Url :=
  let slash (c : Char) : Bool := c = '/' || c = '\\'
  match s with
  | a :: b :: rest =>
    if slash a && slash b then
      let hostText := rest.takeWhile fun c => !endsAuthority true c
      if UrlPath.isDriveLetter hostText then .ok (fileUrl none ['/'] rest)
      else
        match Host.parseFile hostText with
        | .error e => .error e
        | .ok host =>
          let s := rest.drop hostText.length
          match host, s with
          | some h, c :: more =>
            if slash c then .ok (fileUrl (some h) ['/'] more)
            else .ok (fileUrl (some h) ['/'] (c :: more))
          | some h, [] => .ok (fileUrl (some h) ['/'] [])
          | none, s => .ok (fileUrl none [] s)
    else if slash a then .ok (fileUrl none [] s)
    else .ok (fileUrl none ['/'] s)
  | s => .ok (fileUrl none (if s.head?.any slash then [] else ['/']) s)

/-- A URL of a scheme that is not special, from behind its colon. -/
def parseGeneral (scheme : String) (s : List Char) : Except UrlError Url :=
  match s with
  | '/' :: '/' :: rest => parseAuthority scheme rest
  | '/' :: rest =>
    let (pathText, tail) := splitTail rest
    .ok (assemble scheme none (UrlPath.extend (rulesOf scheme) ['/'] pathText).path tail)
  | rest =>
    let (pathText, tail) := splitTail rest
    .ok (assemble scheme none (Percent.encode Percent.controlSet pathText) tail)

def parse (text : String) : Except UrlError Url :=
  match splitScheme? (cleaned text) with
  | none => .error .noBase
  | some (scheme, rest) =>
    if scheme = "file" then parseFileUrl rest
    else if isSpecialScheme scheme then
      parseAuthority scheme (rest.dropWhile fun c => c = '/' || c = '\\')
    else parseGeneral scheme rest

end WebCrawl.Url
