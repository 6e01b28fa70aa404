import WebCrawl.Dict

/-!
# JSON values

Whole numbers that fit in 64 bits are kept apart from doubles, so `1` and `1.0` differ. The members
of an object are listed by increasing key.
-/

namespace WebCrawl

inductive Json where
  | null
  | bool (value : Bool)
  | int (value : Int)
  | float (value : Float)
  | string (text : String)
  | array (items : List Json)
  | object (members : List (String × Json))
  deriving Inhabited, BEq

namespace Json

/-- An object with the given members; of two members of one name the later counts. -/
def ofMembers (members : List (String × Json)) : Json :=
  .object (members.foldl (fun xs m => insertBinding m.1 m.2 xs) [])

def ofDict (d : Dict Json) : Json := .object d.entries

def ofNat (n : Nat) : Json := .int n

def ofOption {α : Type} (f : α → Json) : Option α → Json
  | none => .null
  | some a => f a

def strings (xs : List String) : Json := .array (xs.map .string)

def member? (key : String) : Json → Option Json
  | .object members => (members.find? fun b => b.1 == key).map Prod.snd
  | _ => none

def string? : Json → Option String
  | .string s => some s
  | _ => none

/-! ## Canonical values

In a canonical value the members of every object are in the order of their names.
-/

mutual

def canonical : Json → Json
  | .array items => .array (canonicalItems items)
  | .object members => .ofMembers (canonicalMembers members)
  | v => v

def canonicalItems : List Json → List Json
  | [] => []
  | v :: rest => v.canonical :: canonicalItems rest

def canonicalMembers : List (String × Json) → List (String × Json)
  | [] => []
  | (name, v) :: rest => (name, v.canonical) :: canonicalMembers rest

end

end Json

end WebCrawl
