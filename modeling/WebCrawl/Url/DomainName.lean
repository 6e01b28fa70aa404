import WebCrawl.Text.Utf8
import WebCrawl.Unicode.Composition
import WebCrawl.Unicode.Properties
import WebCrawl.Unicode.Punycode

/-!
# Internationalised domain names

A name is mapped character by character, composed, and cut into labels at its points. Labels
outside ASCII are written in punycode behind `xn--`; labels that come so written are decoded and
held to the same rules. Names in right-to-left scripts obey the directional rule in every label.
Lengths and the places of hyphens are not checked.
-/

namespace WebCrawl.DomainName

open Unicode

/-- Characters that no host may hold. -/
def isForbidden (c : Char) : Bool :=
  c.toNat ≤ 0x20 || c.toNat = 0x7F ||
    ['#', '%', '/', ':', '<', '>', '?', '@', '[', '\\', ']', '^', '|'].contains c

/-- Maps the characters of a name; `none` if one of them is refused. -/
def mapped : List Char → Option (List Char)
  | [] => some []
  | c :: rest =>
    match nameMapping c with
    | .kept => (mapped rest).map (c :: ·)
    | .dropped => mapped rest
    | .replaced cs => (mapped rest).map (cs ++ ·)
    | .refused => none

def splitLabels (s : List Char) : List (List Char) := s.splitOn '.'

def isAscii (s : List Char) : Bool := s.all fun c => c.toNat < 0x80

/-- A joiner is admitted behind a virama; a non-joiner also between letters that would join. -/
def joinersFit (before : List Char) : List Char → Bool
  | [] => true
  | c :: rest =>
    let behindVirama := before.head?.any fun p => combiningClass p == 9
    let fits :=
      if c = '\u200D' then behindVirama
      else if c = '\u200C' then
        behindVirama ||
          (let left := before.dropWhile fun p => joining p == .transparent
           let right := rest.dropWhile fun p => joining p == .transparent
           (left.head?.any fun p => joining p == .left || joining p == .both) &&
             (right.head?.any fun p => joining p == .right || joining p == .both))
      else true
    fits && joinersFit (c :: before) rest

def isRightToLeft (c : Char) : Bool :=
  direction c == .right || direction c == .arabicLetter || direction c == .arabicNumber

def rightToLeftClasses : List Direction :=
  [.right, .arabicLetter, .arabicNumber, .europeanNumber, .europeanSeparator, .commonSeparator,
    .europeanTerminator, .neutral, .boundary, .mark]

def leftToRightClasses : List Direction :=
  [.left, .europeanNumber, .europeanSeparator, .commonSeparator, .europeanTerminator, .neutral,
    .boundary, .mark]

/-- The directional rule: a label runs in the direction of its first character, holds and ends in
classes of that direction, and does not mix two kinds of digits when it runs from the right. -/
def directionFits (label : List Char) : Bool :=
  let classes := label.map direction
  let last := (classes.reverse.dropWhile (· == .mark)).head?
  match classes.head? with
  | none => true
  | some .left =>
    classes.all leftToRightClasses.contains &&
      (last == some .left || last == some .europeanNumber)
  | some first =>
    (first == .right || first == .arabicLetter) &&
      classes.all rightToLeftClasses.contains &&
      (last == some .right || last == some .arabicLetter || last == some .europeanNumber ||
        last == some .arabicNumber) &&
      !(classes.contains .europeanNumber && classes.contains .arabicNumber)

def labelFits (label : List Char) : Bool :=
  !(label.head?.any isMark) && joinersFit [] label

def isKept (c : Char) : Bool :=
  match nameMapping c with
  | .kept => true
  | _ => false

/-- A label that came in punycode must be what encoding some mapped label gives. -/
def decodedFits (label : List Char) : Bool :=
  !isAscii label && label.all isKept && composed label == label && labelFits label

def acePrefix : List Char := ['x', 'n', '-', '-']

def decodeLabel (label : List Char) : Option (List Char) :=
  if acePrefix.isPrefixOf label then
    match Punycode.decode (label.drop 4) with
    | some decoded => if decodedFits decoded then some decoded else none
    | none => none
  else if labelFits label then some label
  else none

def encodeLabel (label : List Char) : List Char :=
  if isAscii label then label else acePrefix ++ Punycode.encode label

def toAscii? (name : List Char) : Option (List Char) := do
  let name := composed (← mapped name)
  let labels ← (splitLabels name).mapM decodeLabel
  if labels.any fun l => l.any isForbidden then none
  else if labels.any (·.any isRightToLeft) && !labels.all directionFits then none
  else some (['.'].intercalate (labels.map encodeLabel))

end WebCrawl.DomainName
