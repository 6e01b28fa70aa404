import WebCrawl.Url.DomainName
import WebCrawl.Url.Ipv6
import WebCrawl.Url.Percent

/-!
# Hosts

The host of a special scheme is a domain name or an address. Other schemes have opaque hosts, which
are kept as they are but for percent-encoding.
-/

namespace WebCrawl

inductive UrlError where
  | emptyHost
  | badDomainName
  | badPort
  | badIpv4
  | badIpv6
  | badDomainCharacter
  | noBase
  deriving Repr, DecidableEq

def UrlError.message : UrlError → String
  | .emptyHost => "empty host"
  | .badDomainName => "invalid international domain name"
  | .badPort => "invalid port number"
  | .badIpv4 => "invalid IPv4 address"
  | .badIpv6 => "invalid IPv6 address"
  | .badDomainCharacter => "invalid domain character"
  | .noBase => "relative URL without a base"

inductive Host where
  | name (text : String)
  | ipv4 (address : Nat)
  | ipv6 (pieces : List Nat)
  deriving Repr, DecidableEq

namespace Host

def render : Host → String
  | .name text => text
  | .ipv4 address => Ipv4.render address
  | .ipv6 pieces => "[" ++ Ipv6.render pieces ++ "]"

/-- A text in brackets is an IPv6 address. -/
def bracketed (s : List Char) : Except UrlError Host :=
  match s.getLast? with
  | some ']' =>
    match Ipv6.parse? (s.drop 1).dropLast with
    | some pieces => .ok (.ipv6 pieces)
    | none => .error .badIpv6
  | _ => .error .badIpv6

def parseSpecial (s : List Char) : Except UrlError Host :=
  if s.head? = some '[' then bracketed s
  else
    match (Utf8.decode? (Percent.decode (Utf8.encode s))).bind DomainName.toAscii? with
    | none => .error .badDomainName
    | some [] => .error .emptyHost
    | some domain =>
      if Ipv4.endsInNumber domain then
        match Ipv4.parse? domain with
        | some address => .ok (.ipv4 address)
        | none => .error .badIpv4
      else .ok (.name (String.ofList domain))

def opaqueForbidden : List Char :=
  ['\x00', '\t', '\n', '\r', ' ', '#', '/', ':', '<', '>', '?', '@', '[', '\\', ']', '^', '|']

def parseOpaque (s : List Char) : Except UrlError Host :=
  if s.head? = some '[' then bracketed s
  else if s.any opaqueForbidden.contains then .error .badDomainCharacter
  else .ok (.name (String.ofList (Percent.encode Percent.controlSet s)))

/-- A file on this machine has no host. -/
def parseFile (s : List Char) : Except UrlError (Option Host) :=
  if s.isEmpty then .ok none
  else
    match parseSpecial s with
    | .ok host => .ok (if host = .name "localhost" then none else some host)
    | .error e => .error e

end Host

end WebCrawl
