import WebCrawl.Config.Basic
import WebCrawl.Json.Reader
import WebCrawl.Unicode.Properties

/-!
# Reading configurations

A configuration is an object with members in any order, or a list of the same values in the order
of the fields. What is missing takes its default, a member of another name is passed over unread,
and a member given twice is refused. A filter is an object whose member `kind` says which it is, or
a list that begins with the kind; its other members are read in full before they are judged.

A value that is JSON but does not fit is complained about behind the value. The members of a filter
are judged only when the whole filter has been read, so the complaint stands behind what follows
the filter: blanks, and the closing bracket of what holds it.
-/

namespace WebCrawl.Config

open Json

def describe : Json → String
  | .null => "null"
  | .bool b => if b then "boolean `true`" else "boolean `false`"
  | .int n => s!"integer `{n}`"
  | .float x => "floating point `" ++ Json.floatText x ++ "`"
  | .string s => "string " ++ Text.quoted s
  | .array _ => "sequence"
  | .object _ => "map"

def wrongType (found : Json) (expected : String) : Issue :=
  .unfit ("invalid type: " ++ describe found ++ ", expected " ++ expected)

def wrongValue (found : Json) (expected : String) : Issue :=
  .unfit ("invalid value: " ++ describe found ++ ", expected " ++ expected)

def missingField (name : String) : Issue := .unfit s!"missing field `{name}`"

def duplicateField (name : String) : Issue := .unfit s!"duplicate field `{name}`"

def wrongLength (found expected : Nat) : Issue :=
  let noun := if expected = 1 then "element" else "elements"
  .unfit s!"invalid length {found}, expected {expected} {noun} in sequence"

/-- The complaint about a value that stands where something else is expected. A scalar is read, a
list or object only looked at. -/
def mismatch (expected : String) (s : List Char) : Failure :=
  let scalar (r : Reading Json) : Failure :=
    match r with
    | .ok (v, rest) => .before (wrongType v expected) rest
    | .error e => e
  match s with
  | '[' :: _ => .before (wrongType (.array []) expected) s
  | '\x7b' :: _ => .before (wrongType (.object []) expected) s
  | _ => scalar (value 0 s)

def unsigned? (expected : String) (v : Json) : Except Issue UInt64 :=
  match v with
  | .int n => if 0 ≤ n then .ok (UInt64.ofNat n.toNat) else .error (wrongValue v expected)
  | v => .error (wrongType v expected)

def readUnsigned (expected : String) (s : List Char) : Reading UInt64 :=
  let number (r : Reading Json) : Reading UInt64 :=
    match r with
    | .error e => .error e
    | .ok (v, rest) =>
      match unsigned? expected v with
      | .ok n => .ok (n, rest)
      | .error issue => .error (.before issue rest)
  match skipBlanks s with
  | [] => .error (.within .endInValue [])
  | '-' :: rest => number (numberTail true rest)
  | c :: rest =>
    if c.isDigit then number (numberTail false (c :: rest))
    else .error (mismatch expected (c :: rest))

/-- Where a complaint about what an object holds stands once the object is left. -/
def leaveObject (s : List Char) : List Char :=
  match skipBlanks s with
  | '\x7d' :: rest => rest
  | rest => rest

/-- Where a complaint about what a list holds stands once the list is left. -/
def leaveList (s : List Char) : List Char :=
  match skipBlanks s with
  | ']' :: rest => rest
  | ',' :: rest => skipBlanks rest
  | rest => rest

inductive FilterTag where
  | none
  | distinct
  | bloom
  deriving Repr, DecidableEq

def readTag (s : List Char) : Except Failure (FilterTag × List Char) :=
  match skipBlanks s with
  | [] => .error (.within .endInValue [])
  | '"' :: rest => do
    let (name, rest) ← stringTail [] rest
    match name with
    | "none" => .ok (.none, rest)
    | "distinct" => .ok (.distinct, rest)
    | "bloom" => .ok (.bloom, rest)
    | name =>
      let issue := s!"unknown variant `{name}`, expected one of `none`, `distinct`, `bloom`"
      .error (.before (.unfit issue) rest)
  | rest => .error (mismatch "variant identifier" rest)

/-- What stands beside the kind of a filter, in either form. -/
inductive FilterBody where
  | listed (values : List Json)
  | named (members : List (String × Json))

/-- The members of a filter from behind its brace; `tag` is the kind if it was met. -/
def filterMembers (depth fuel : Nat) (first : Bool) (tag : Option FilterTag) (s : List Char) :
    Except Failure (Option FilterTag × List (String × Json) × List Char) :=
  match fuel with
  | 0 => .ok (tag, [], s)
  | fuel + 1 => do
    match ← nextMember first s with
    | none => .ok (tag, [], s)
    | some s =>
      let (name, s) ← stringTail [] s
      if name = "kind" then
        if tag.isSome then .error (.loose (duplicateField "kind") s)
        else
          let (t, s) ← readTag (← colon s)
          filterMembers depth fuel false (some t) s
      else
        let (v, s) ← value depth (← colon s)
        let (tag, rest, s) ← filterMembers depth fuel false tag s
        .ok (tag, (name, v) :: rest, s)

def filterObject (depth : Nat) (s : List Char) :
    Except Failure (FilterTag × FilterBody × List Char) := do
  let (tag, members, s) ← filterMembers depth (s.length + 1) true none s
  match tag with
  | none => .error (.loose (missingField "kind") s)
  | some tag => .ok (tag, .named members, s)

def filterList (depth : Nat) (s : List Char) :
    Except Failure (FilterTag × FilterBody × List Char) := do
  match ← nextItem true s with
  | none => .error (.loose (missingField "kind") s)
  | some s =>
    let (tag, s) ← readTag s
    let (values, s) ← items (value depth) (s.length + 1) false s
    .ok (tag, .listed values, s)

def filterShape (depth : Nat) (s : List Char) :
    Except Failure (FilterTag × FilterBody × List Char) :=
  match skipBlanks s with
  | [] => .error (.within .endInValue [])
  | '[' :: rest => do
    let (tag, body, rest) ← (filterList depth rest).mapError (Failure.settle leaveList)
    .ok (tag, body, ← closeList rest)
  | '\x7b' :: rest => do
    let (tag, body, rest) ← (filterObject depth rest).mapError (Failure.settle leaveObject)
    .ok (tag, body, ← closeObject rest)
  | rest => .error (mismatch "internally tagged enum FilterKind" rest)

def rate? (v : Json) : Except Issue Float :=
  match v with
  | .float x => .ok x
  | .int n =>
    let magnitude := (UInt64.ofNat n.natAbs).toFloat
    .ok (if 0 ≤ n then magnitude else -magnitude)
  | v => .error (wrongType v "f64")

/-- The sizes of a Bloom filter from named members. -/
def bloomMembers (expected : Option UInt64) (rate : Option Float) :
    List (String × Json) → Except Issue FilterKind
  | [] => .ok (.bloom (expected.getD FilterKind.defaultExpected) (rate.getD FilterKind.defaultRate))
  | (name, v) :: rest =>
    if name = "expected_insertions" then
      if expected.isSome then .error (duplicateField name)
      else match unsigned? "usize" v with
        | .ok n => bloomMembers (some n) rate rest
        | .error issue => .error issue
    else if name = "false_positive_rate" then
      if rate.isSome then .error (duplicateField name)
      else match rate? v with
        | .ok x => bloomMembers expected (some x) rest
        | .error issue => .error issue
    else bloomMembers expected rate rest

def bloomValues (values : List Json) : Except Issue FilterKind := do
  let expected ← match values[0]? with
    | some v => unsigned? "usize" v
    | none => .ok FilterKind.defaultExpected
  let rate ← match values[1]? with
    | some v => rate? v
    | none => .ok FilterKind.defaultRate
  if 2 < values.length then .error (wrongLength values.length 2) else .ok (.bloom expected rate)

def judge (tag : FilterTag) (body : FilterBody) : Except Issue FilterKind :=
  let plain (k : FilterKind) : Except Issue FilterKind :=
    match body with
    | .listed values => if values.isEmpty then .ok k else .error (wrongLength values.length 0)
    | .named _ => .ok k
  match tag with
  | .none => plain .none
  | .distinct => plain .distinct
  | .bloom =>
    match body with
    | .listed values => bloomValues values
    | .named members => bloomMembers none none members

/-- A filter; `depth` more levels may be opened inside it. -/
def readFilter (depth : Nat) (s : List Char) : Except Failure (FilterKind × List Char) := do
  let (tag, body, rest) ← filterShape depth s
  match judge tag body with
  | .ok k => .ok (k, rest)
  | .error issue => .error (.loose issue rest)

structure Draft where
  fetchWorkers : Option UInt64
  processWorkers : Option UInt64
  waitMillis : Option UInt64
  filter : Option FilterKind

namespace Draft

def empty : Draft := ⟨none, none, none, none⟩

def complete (d : Draft) : Config :=
  { fetchWorkers := d.fetchWorkers.getD Config.default.fetchWorkers
    processWorkers := d.processWorkers.getD Config.default.processWorkers
    waitMillis := d.waitMillis.getD Config.default.waitMillis
    filter := d.filter.getD Config.default.filter }

end Draft

inductive Field where
  | fetchWorkers
  | processWorkers
  | waitMillis
  | filter
  deriving Repr, DecidableEq

namespace Field

def name : Field → String
  | .fetchWorkers => "fetch_workers"
  | .processWorkers => "process_workers"
  | .waitMillis => "wait_millis"
  | .filter => "filter"

def all : List Field := [.fetchWorkers, .processWorkers, .waitMillis, .filter]

def ofName? (name : String) : Option Field := all.find? fun f => f.name == name

def isGiven (f : Field) (d : Draft) : Bool :=
  match f with
  | .fetchWorkers => d.fetchWorkers.isSome
  | .processWorkers => d.processWorkers.isSome
  | .waitMillis => d.waitMillis.isSome
  | .filter => d.filter.isSome

def read (f : Field) (d : Draft) (s : List Char) : Except Failure (Draft × List Char) :=
  match f with
  | .fetchWorkers => do
    let (n, s) ← readUnsigned "usize" s
    .ok ({ d with fetchWorkers := some n }, s)
  | .processWorkers => do
    let (n, s) ← readUnsigned "usize" s
    .ok ({ d with processWorkers := some n }, s)
  | .waitMillis => do
    let (n, s) ← readUnsigned "u64" s
    .ok ({ d with waitMillis := some n }, s)
  | .filter => do
    let (k, s) ← readFilter (depthBound - 2) s
    .ok ({ d with filter := some k }, s)

end Field

/-- The members of a configuration from behind its brace. -/
def readMembers (fuel : Nat) (first : Bool) (d : Draft) (s : List Char) :
    Except Failure (Draft × List Char) :=
  match fuel with
  | 0 => .ok (d, s)
  | fuel + 1 => do
    match ← nextMember first s with
    | none => .ok (d, s)
    | some s =>
      let (name, s) ← stringTail [] s
      match Field.ofName? name with
      | some f =>
        if f.isGiven d then .error (.loose (duplicateField name) s)
        else
          let (d, s) ← f.read d (← colon s)
          readMembers fuel false d s
      | none =>
        let s ← skip (← colon s)
        readMembers fuel false d s

/-- The values of a configuration from behind its bracket; values may be left out at the end. -/
def readValues (first : Bool) (d : Draft) (s : List Char) :
    List Field → Except Failure (Draft × List Char)
  | [] => .ok (d, s)
  | f :: fields => do
    match ← nextItem first s with
    | none => .ok (d, s)
    | some s =>
      let (d, s) ← f.read d s
      readValues false d s fields

def read (s : List Char) : Except Failure (Config × List Char) :=
  match skipBlanks s with
  | [] => .error (.within .endInValue [])
  | '[' :: rest => do
    let (d, rest) ← (readValues true .empty rest Field.all).mapError (Failure.settle leaveList)
    .ok (d.complete, ← closeList rest)
  | '\x7b' :: rest => do
    let (d, rest) ← (readMembers (rest.length + 1) true .empty rest).mapError
      (Failure.settle leaveObject)
    .ok (d.complete, ← closeObject rest)
  | rest => .error (mismatch "struct CrawlerConfig" rest)

def ofText (text : String) : Except CrawlError Config :=
  match wholeText read text with
  | .error refusal => .error (.json refusal)
  | .ok c =>
    match c.validate with
    | .error issue => .error (.configuration issue)
    | .ok () => .ok c

/-- The filter of a JSON text, whether it could be built or not. -/
def filterOfText (text : String) : Except Refusal FilterKind :=
  wholeText (readFilter (depthBound - 1)) text

end WebCrawl.Config
