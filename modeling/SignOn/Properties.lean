import SignOn.Error
import SignOn.Text.Blank
import SignOn.Text.Case

/-!
# Properties

A configuration as a map from keys to texts, with readers for required values, truth values and
integers. Entries are kept in the order of their keys, so two maps with the same entries are equal.
-/

namespace SignOn

/-- Puts an entry into a list that is sorted by its keys, in the place of one with the same key. -/
def insertSorted (key value : String) : List (String × String) → List (String × String)
  | [] => [(key, value)]
  | (k, v) :: rest =>
    if key = k then (key, value) :: rest
    else if key < k then (key, value) :: (k, v) :: rest
    else (k, v) :: insertSorted key value rest

/-- A map from keys to texts. -/
structure Properties where
  /-- The entries in ascending order of their keys. -/
  entries : List (String × String) := []
deriving DecidableEq, Repr

namespace Properties

/-- Adds an entry, in the place of one with the same key. -/
def insert (p : Properties) (key value : String) : Properties :=
  ⟨insertSorted key value p.entries⟩

/-- The map with the given entries; of entries with the same key the last one counts. -/
def ofList (entries : List (String × String)) : Properties :=
  entries.foldl (fun p (k, v) => p.insert k v) {}

/-- The text under a key. -/
def get? (p : Properties) (key : String) : Option String :=
  p.entries.lookup key

/-- The text under a key without the white space at its ends. -/
def getTrimmed? (p : Properties) (key : String) : Option String :=
  (p.get? key).map Text.trim

/-- The text under a key, or a default. -/
def getD (p : Properties) (key default : String) : String :=
  (p.get? key).getD default

/-- The trimmed text under a key, which must be there and not blank. -/
def require (p : Properties) (key : String) : Result String :=
  match p.getTrimmed? key with
  | some value => if value = "" then misconfigured (.unspecified key) else .ok value
  | none => misconfigured (.unspecified key)

/-- The truth value under a key, or a default if the key is absent. -/
def getBool (p : Properties) (key : String) (default : Bool) : Result Bool :=
  match p.getTrimmed? key with
  | none => .ok default
  | some value =>
    if Text.sameText value "true" then .ok true
    else if Text.sameText value "false" then .ok false
    else misconfigured (.notBoolean key value)

/-- The 64-bit integer under a key, or a default if the key is absent. -/
def getInt64 (p : Properties) (key : String) (default : Int64) : Result Int64 :=
  match p.getTrimmed? key with
  | none => .ok default
  | some value =>
    match Text.Decimal.int64? value with
    | some n => .ok n
    | none => misconfigured (.notInteger key value)

/-- What stands behind `head` in a text that begins with it. -/
def behind? (head text : String) : Option String :=
  if head.toList.isPrefixOf text.toList then
    some (String.ofList (text.toList.drop head.toList.length))
  else none

/-- The entries whose keys begin with `head`, under the rest of their keys. -/
def within (p : Properties) (head : String) : Properties :=
  ofList (p.entries.filterMap fun (k, v) => (behind? head k).map fun rest => (rest, v))

/-- The keys of a map as a developer sees them; values stay hidden since they may be secrets. -/
def inspect (p : Properties) : String :=
  Text.Inspect.set (p.entries.map fun (k, _) => Text.Inspect.quote k)

end Properties

end SignOn
