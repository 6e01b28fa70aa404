import WebCrawl.Url.Host

/-!
# URLs

The parts of an absolute URL and its written form. A URL without authority whose path does not
begin with a slash has an opaque path.
-/

namespace WebCrawl

structure Authority where
  username : String
  password : Option String
  host : Option Host
  port : Option Nat
  deriving Repr, DecidableEq

namespace Authority

def userinfo (a : Authority) : String :=
  match a.password with
  | some password => a.username ++ ":" ++ password ++ "@"
  | none => if a.username.isEmpty then "" else a.username ++ "@"

def hostText (a : Authority) : String := (a.host.map Host.render).getD ""

def portText (a : Authority) : String :=
  match a.port with
  | some port => ":" ++ toString port
  | none => ""

def render (a : Authority) : String := a.userinfo ++ a.hostText ++ a.portText

end Authority

structure Url where
  scheme : String
  authority : Option Authority
  path : String
  query : Option String
  fragment : Option String
  deriving Repr, DecidableEq, Inhabited

namespace Url

def isOpaque (u : Url) : Bool := u.authority.isNone && !u.path.startsWith "/"

/-- The authority, or a mark that a path which begins with two slashes is no authority. -/
def authorityText (u : Url) : String :=
  match u.authority with
  | some a => "//" ++ a.render
  | none => if u.path.startsWith "//" then "/." else ""

def render (u : Url) : String :=
  u.scheme ++ ":" ++ u.authorityText ++ u.path ++
    (u.query.map ("?" ++ ·)).getD "" ++ (u.fragment.map ("#" ++ ·)).getD ""

def host? (u : Url) : Option String := (u.authority.bind Authority.host).map Host.render

def port? (u : Url) : Option Nat := u.authority.bind Authority.port

/-- Schemes whose URLs have a host and hierarchical paths. -/
def isSpecialScheme (scheme : String) : Bool :=
  ["http", "https", "ws", "wss", "ftp", "file"].contains scheme

def defaultPort? (scheme : String) : Option Nat :=
  if scheme = "http" ∨ scheme = "ws" then some 80
  else if scheme = "https" ∨ scheme = "wss" then some 443
  else if scheme = "ftp" then some 21
  else none

def trimBlanks (s : String) : String :=
  String.ofList (s.toList.reverse.dropWhile (· = ' ')).reverse

/-- Drops the fragment. An opaque path that ends the URL loses its trailing blanks with it. -/
def withoutFragment (u : Url) : Url :=
  { u with
    path := if u.isOpaque && u.query.isNone then trimBlanks u.path else u.path
    fragment := none }

/-- Line breaks and tabs in URLs are ignored. -/
def isIgnored (c : Char) : Bool := c = '\t' || c = '\n' || c = '\r'

def withFragment (u : Url) (text : String) : Url :=
  let s := text.toList.filter fun c => !isIgnored c
  { u with fragment := some (String.ofList (Percent.encode Percent.fragmentSet s)) }

end Url

end WebCrawl
