import WebCrawl.Url.Percent

/-!
# Paths of URLs

A path is built segment by segment. `.` and `..`, also percent-encoded, are resolved on the way;
drive letters at the start of a file path are never removed.
-/

namespace WebCrawl.UrlPath

/-- What the building of a path depends on. -/
structure Rules where
  /-- Backslashes part segments too. -/
  special : Bool
  file : Bool

def isLetter (c : Char) : Bool := c.isAlpha

/-- Two characters, a letter and a colon or bar. -/
def isDriveLetter : List Char → Bool
  | [a, b] => isLetter a && (b = ':' || b = '|')
  | _ => false

def isNormalDriveLetter : List Char → Bool
  | [a, b] => isLetter a && b = ':'
  | _ => false

/-- A drive letter that is a whole segment of the text. -/
def startsWithDriveLetter : List Char → Bool
  | a :: b :: rest =>
    isLetter a && (b = ':' || b = '|') &&
      (match rest with
      | [] => true
      | c :: _ => c = '/' || c = '\\' || c = '?' || c = '#')
  | _ => false

def isDot (segment : List Char) : Bool :=
  ["." , "%2e", "%2E"].any fun s => s.toList == segment

def isDoubleDot (segment : List Char) : Bool :=
  ["..", "%2e%2e", "%2e%2E", "%2E%2e", "%2E%2E", "%2e.", "%2E.", ".%2e", ".%2E"].any fun s =>
    s.toList == segment

def endsWithSlash (path : List Char) : Bool := path.getLast? == some '/'

def lastSegment (path : List Char) : List Char :=
  (path.reverse.takeWhile (· ≠ '/')).reverse

def upToLastSlash (path : List Char) : List Char :=
  (path.reverse.dropWhile (· ≠ '/')).reverse

/-- Whether the slash that ends the path stands behind a segment that may be removed. -/
def lastSlashRemovable (path : List Char) : Bool :=
  let before := path.dropLast
  before.contains '/' && !startsWithDriveLetter (lastSegment before ++ ['/'])

/-- Removes the last segment, but no drive letter of a file path. -/
def shorten (rules : Rules) (path : List Char) : List Char :=
  if rules.file && (isNormalDriveLetter path || isNormalDriveLetter (lastSegment path)) then path
  else upToLastSlash path

/-- A path under construction. A drive letter at its start takes the host away. -/
structure Progress where
  path : List Char
  hostDropped : Bool
  deriving Repr, DecidableEq

/-- Adds an encoded segment, with the slash behind it if `more`. -/
def addSegment (rules : Rules) (p : Progress) (segment : List Char) (more : Bool) : Progress :=
  let slash := if more then ['/'] else []
  if isDoubleDot segment then
    let trimmed :=
      if endsWithSlash p.path && lastSlashRemovable p.path then p.path.dropLast else p.path
    let path := shorten rules trimmed
    { p with path := if more && !endsWithSlash path then path ++ ['/'] else path }
  else if isDot segment then
    { p with path := if endsWithSlash p.path then p.path else p.path ++ ['/'] }
  else if rules.file && p.path.length == 1 && isDriveLetter segment then
    { path := p.path ++ segment.take 1 ++ [':'] ++ slash, hostDropped := true }
  else { p with path := p.path ++ segment ++ slash }

def isSeparator (rules : Rules) (c : Char) : Bool := c = '/' || (rules.special && c = '\\')

/-- The segments of a text; all but the last stand before a separator. -/
def segments (rules : Rules) (s : List Char) : List (List Char) :=
  s.splitOnP (isSeparator rules)

def addSegments (rules : Rules) (p : Progress) : List (List Char) → Progress
  | [] => p
  | [last] => addSegment rules p (Percent.encode Percent.pathSet last) false
  | segment :: rest =>
    addSegments rules (addSegment rules p (Percent.encode Percent.pathSet segment) true) rest

/-- Continues the path `start` with a text; a file path begins with one slash only. -/
def extend (rules : Rules) (start s : List Char) : Progress :=
  let p := addSegments rules ⟨start, false⟩ (segments rules s)
  if rules.file then { p with path := '/' :: p.path.dropWhile (· = '/') } else p

end WebCrawl.UrlPath
