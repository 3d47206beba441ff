import SignOn.Pattern.CharSet
import SignOn.Pattern.Reading

/-!
# Sets as they are written

A set in brackets: characters, ranges and classes side by side, further brackets, and operations
between such sets. `SetExpr.set?` says which characters are meant: where letter case does not
count, the variants of a set join it before its complement is taken. Where classes are those of
ASCII, a set must consist of ASCII characters, so nothing may be negated.
-/

namespace SignOn.Pattern

/-- The classes that a letter behind a backslash names. -/
inductive ClassKind where
  | digit
  | blank
  | word
deriving DecidableEq, Repr

/-- An operation on two sets. -/
inductive SetOp where
  | inter
  | minus
  /-- The characters of just one of the sets. -/
  | oneOf
deriving DecidableEq, Repr

/-- A set as it is written. -/
inductive SetExpr where
  | nothing
  | char (c : Char)
  | range (first last : Char)
  | class (kind : ClassKind) (negated : Bool)
  /-- An ASCII class with a name. -/
  | named (s : CharSet) (negated : Bool)
  | bracket (negated : Bool) (e : SetExpr)
  | both (a b : SetExpr)
  | op (op : SetOp) (a b : SetExpr)
deriving DecidableEq, Repr

/-- The characters of a class. -/
def ClassKind.set (kind : ClassKind) : CharSet :=
  match kind with
  | .digit => .digit
  | .blank => .blank
  | .word => .word

/-- The ASCII characters of a class. -/
def ClassKind.asciiSet (kind : ClassKind) : CharSet :=
  let ascii : CharSet := .range '\x00' '\x7f'
  kind.set.inter ascii

/-- The result of an operation. -/
def SetOp.join : SetOp → CharSet → CharSet → CharSet
  | .inter, s, t => s.inter t
  | .minus, s, t => s.minus t
  | .oneOf, s, t => (s.minus t).union (t.minus s)

/-- The set with the variants of its characters, where letter case does not count. -/
def Reading.fold (r : Reading) (s : CharSet) : CharSet :=
  if r.anyCase then if r.ascii then s.anyAsciiCase else s.anyCase else s

/-- A set or its complement, which is not at hand where sets consist of ASCII characters. -/
def Reading.negate? (r : Reading) (negated : Bool) (s : CharSet) : Option CharSet :=
  if !negated then some s
  else if r.ascii then none
  else some s.complement

namespace SetExpr

/-- The characters that are meant. -/
def set? (r : Reading) : SetExpr → Option CharSet
  | nothing => some .nothing
  | char c => if r.ascii && 128 ≤ c.toNat then none else some (.one c)
  | range first last => if r.ascii && 128 ≤ last.toNat then none else some (.range first last)
  | .class kind negated => r.negate? negated (if r.ascii then kind.asciiSet else kind.set)
  | named s negated => r.negate? negated (r.fold s)
  | bracket negated e => do
    let s ← e.set? r
    r.negate? negated (r.fold s)
  | both a b => do
    let s ← a.set? r
    let t ← b.set? r
    some (s.union t)
  | op o a b => do
    let s ← a.set? r
    let t ← b.set? r
    some (o.join (r.fold s) (r.fold t))

/-- How deep brackets, rows of items and operations stand within each other. Items side by side
are one row; `within` tells whether a row has begun. -/
def depth (within : Bool) : SetExpr → Nat
  | bracket _ e => e.depth false + 1
  | both a b => Nat.max (a.depth true) (b.depth true) + if within then 0 else 1
  | op _ a b => Nat.max (a.depth false) (b.depth false) + 1
  | _ => 0

/-- Two sets side by side. -/
def beside (a b : SetExpr) : SetExpr :=
  match a with
  | nothing => b
  | a => both a b

end SetExpr

end SignOn.Pattern
