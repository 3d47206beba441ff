import SignOn.Pattern.SetExpr
import SignOn.Text.Decimal
import SignOn.Text.LetterTable
import SignOn.Text.Split

/-!
# Tokens of patterns

The characters of a pattern read as tokens: characters, sets, anchors, brackets of groups, bars
and repetitions. A pattern may ask that white space and comments within it do not count; the
readers are told so by `spaced`. A pattern with a malformed token, or one that asks for something
that patterns do not offer, such as a reference to a group, has no tokens.
-/

namespace SignOn.Pattern

/-- An edge of a word, which is a place between two characters. -/
inductive WordEdge where
  | edge
  | noEdge
  | start
  | finish
  /-- No word character stands in front. -/
  | startHalf
  /-- No word character follows. -/
  | finishHalf
deriving DecidableEq, Repr

/-- A token of a pattern. -/
inductive Token where
  /-- A character; `isByte` tells whether it was written as two hexadecimal digits. -/
  | char (c : Char) (isByte : Bool)
  | set (e : SetExpr)
  | dot
  | caret
  | dollar
  | textStart
  | textEnd
  | edge (e : WordEdge)
  | openGroup (name : Option String)
  | openPlain (modes : Modes)
  | setModes (modes : Modes)
  | close
  | bar
  | repeated (min : Nat) (max : Option Nat) (greedy : Bool)
deriving DecidableEq, Repr

/-! ## White space and comments -/

/-- A text without the white space and the comments at its start. A comment goes from a number
sign to the end of the line. -/
def skipBlank (inComment : Bool) : List Char → List Char
  | [] => []
  | c :: rest =>
    if inComment then skipBlank (c != '\n') rest
    else if c = '#' then skipBlank true rest
    else if Text.isBlank c then skipBlank false rest
    else c :: rest

/-- A text without the white space and the comments at its start, if they do not count. -/
def skip (spaced : Bool) (cs : List Char) : List Char :=
  if spaced then skipBlank false cs else cs

/-- The characters that count in front of a closing brace, and what stands behind it. -/
def cutBrace? (spaced inComment : Bool) : List Char → Option (List Char × List Char)
  | [] => none
  | c :: rest =>
    if inComment then cutBrace? spaced (c != '\n') rest
    else if spaced && c == '#' then cutBrace? spaced true rest
    else if spaced && Text.isBlank c then cutBrace? spaced false rest
    else if c = '\x7d' then some ([], rest)
    else (cutBrace? spaced false rest).map fun (front, rest) => (c :: front, rest)

/-- The first characters that count, as many as given, and the rest. -/
def takeChars? (spaced : Bool) : Nat → List Char → Option (List Char × List Char)
  | 0, cs => some ([], cs)
  | n + 1, cs =>
    match skip spaced cs with
    | [] => none
    | c :: rest => (takeChars? spaced n rest).map fun (front, rest) => (c :: front, rest)

/-! ## Escapes -/

/-- The characters with a meaning of their own. -/
def isMeta (c : Char) : Bool :=
  "\\.+*?()|[]\x7b\x7d^$#&-~".toList.contains c

/-- Whether a backslash in front of a character is allowed and leaves it as it is. -/
def mayBeEscaped (c : Char) : Bool :=
  isMeta c || (c.toNat < 128 && !c.isAlphanum && c != '<' && c != '>')

/-- The value of a hexadecimal digit. -/
def hexDigit? (c : Char) : Option Nat :=
  if '0' ≤ c ∧ c ≤ '9' then some (c.toNat - '0'.toNat)
  else if 'a' ≤ c ∧ c ≤ 'f' then some (c.toNat - 'a'.toNat + 10)
  else if 'A' ≤ c ∧ c ≤ 'F' then some (c.toNat - 'A'.toNat + 10)
  else none

/-- The character with the code point in hexadecimal digits. -/
def hexChar? (digits : List Char) : Option Char := do
  let values ← digits.mapM hexDigit?
  let n := values.foldl (fun n d => 16 * n + d) 0
  if values.isEmpty then none
  else if n < 0xD800 ∨ (0xDFFF < n ∧ n < 0x110000) then some (Char.ofNat n)
  else none

/-- Reads a code point of so many digits, or of any number of digits in braces. -/
def readHex (spaced : Bool) (count : Nat) (cs : List Char) : Option (Token × List Char) := do
  let (isFixed, digits, rest) ← match skip spaced cs with
    | '\x7b' :: rest => (cutBrace? spaced false rest).map fun p => (false, p)
    | cs => (takeChars? spaced count cs).map fun p => (true, p)
  let c ← hexChar? digits
  some (.char c (isFixed && count == 2), rest)

/-- The edge of a word with a name. -/
def edgeNamed? : String → Option WordEdge
  | "start" => some .start
  | "end" => some .finish
  | "start-half" => some .startHalf
  | "end-half" => some .finishHalf
  | _ => none

/-- Reads which edge of a word is meant. Braces that begin with neither a letter nor a hyphen are
the counts of a repetition. -/
def readEdge (spaced : Bool) (cs : List Char) : Option (Token × List Char) :=
  match cs with
  | '\x7b' :: inner =>
    match skip spaced inner with
    | [] => none
    | c :: _ =>
      if c.isAlpha || c == '-' then do
        let (name, rest) ← cutBrace? spaced false inner
        let e ← edgeNamed? (String.ofList name)
        some (.edge e, rest)
      else some (.edge .edge, cs)
  | _ => some (.edge .edge, cs)

/-- Reads what follows a backslash. -/
def readEscape (spaced : Bool) : List Char → Option (Token × List Char)
  | [] => none
  | 'd' :: rest => some (.set (.class .digit false), rest)
  | 'D' :: rest => some (.set (.class .digit true), rest)
  | 's' :: rest => some (.set (.class .blank false), rest)
  | 'S' :: rest => some (.set (.class .blank true), rest)
  | 'w' :: rest => some (.set (.class .word false), rest)
  | 'W' :: rest => some (.set (.class .word true), rest)
  | 'x' :: rest => readHex spaced 2 rest
  | 'u' :: rest => readHex spaced 4 rest
  | 'U' :: rest => readHex spaced 8 rest
  | 'a' :: rest => some (.char '\x07' false, rest)
  | 'f' :: rest => some (.char '\x0c' false, rest)
  | 't' :: rest => some (.char '\t' false, rest)
  | 'n' :: rest => some (.char '\n' false, rest)
  | 'r' :: rest => some (.char '\r' false, rest)
  | 'v' :: rest => some (.char '\x0b' false, rest)
  | 'A' :: rest => some (.textStart, rest)
  | 'z' :: rest => some (.textEnd, rest)
  | 'b' :: rest => readEdge spaced rest
  | 'B' :: rest => some (.edge .noEdge, rest)
  | '<' :: rest => some (.edge .start, rest)
  | '>' :: rest => some (.edge .finish, rest)
  | c :: rest => if mayBeEscaped c then some (.char c false, rest) else none

/-! ## Sets in brackets -/

/-- Reads one item between brackets: a character or a class. -/
def readItem (spaced : Bool) : List Char → Option (Token × List Char)
  | [] => none
  | '\\' :: rest => readEscape spaced rest
  | c :: rest => some (.char c false, rest)

/-- The set of one item that is not the beginning of a range. -/
def itemSet? : Token → Option SetExpr
  | .char c _ => some (.char c)
  | .set e => some e
  | _ => none

/-- Reads a range or a single item. A hyphen in front of a bracket or of another hyphen does not
make a range. -/
def readRange (spaced : Bool) (cs : List Char) : Option (SetExpr × List Char) := do
  let (first, rest) ← readItem spaced cs
  match skip spaced rest with
  | [] => none
  | '-' :: rest =>
    match skip spaced rest with
    | [] => none
    | ']' :: _ | '-' :: _ => do
      let e ← itemSet? first
      some (e, '-' :: rest)
    | rest => do
      let (last, rest) ← readItem spaced rest
      match first, last with
      | .char a _, .char b _ => if a ≤ b then some (.range a b, rest) else none
      | _, _ => none
  | rest => do
    let e ← itemSet? first
    some (e, rest)

/-- Reads the name of an ASCII class behind the opening bracket. -/
def readNamed (cs : List Char) : Option (SetExpr × List Char) :=
  match cs with
  | ':' :: rest => do
    let (negated, rest) := match rest with
      | '^' :: rest => (true, rest)
      | _ => (false, rest)
    let (name, rest) ← Text.cut? ':' rest
    let s ← CharSet.named? (String.ofList name)
    match rest with
    | ']' :: rest => some (.named s negated, rest)
    | _ => none
  | _ => none

/-- A bracket that is still open. -/
structure OpenSet where
  negated : Bool
  /-- What stands in front of the last operator, with the operator. -/
  left : Option (SetExpr × SetOp) := none
  /-- The items since then. -/
  items : SetExpr := .nothing

/-- The items of a bracket, joined with what stands in front of the last operator. -/
def OpenSet.content (b : OpenSet) : SetExpr :=
  match b.left with
  | some (e, op) => .op op e b.items
  | none => b.items

/-- The set of a bracket when it closes. -/
def OpenSet.done (b : OpenSet) : SetExpr :=
  .bracket b.negated b.content

/-- Adds an item. -/
def OpenSet.add (b : OpenSet) (e : SetExpr) : OpenSet :=
  { b with items := b.items.beside e }

/-- Begins the right side of an operator. -/
def OpenSet.operate (b : OpenSet) (op : SetOp) : OpenSet :=
  { b with left := some (b.content, op), items := .nothing }

/-- Adds the hyphens at the start of a bracket, in so many rounds at most. -/
def addHyphens (spaced : Bool) : Nat → OpenSet → List Char → OpenSet × List Char
  | 0, b, cs => (b, cs)
  | rounds + 1, b, cs =>
    match cs with
    | '-' :: rest => addHyphens spaced rounds (b.add (.char '-')) (skip spaced rest)
    | _ => (b, cs)

/-- Reads what may stand right behind an opening bracket: a complement sign, hyphens, and without
those a closing bracket that stands for itself. -/
def openSet (spaced : Bool) (cs : List Char) : OpenSet × List Char :=
  let (negated, cs) := match skip spaced cs with
    | '^' :: rest => (true, skip spaced rest)
    | cs => (false, cs)
  let (b, rest) := addHyphens spaced cs.length { negated } cs
  match b.items, rest with
  | .nothing, ']' :: rest => (b.add (.char ']'), rest)
  | _, _ => (b, rest)

/-- Reads a set up to the bracket that closes it; `outer` holds the brackets around. Every round
uses up characters, so as many rounds as there are characters are enough. -/
def readSet (spaced : Bool) :
    Nat → List OpenSet → OpenSet → List Char → Option (SetExpr × List Char)
  | 0, _, _, _ => none
  | rounds + 1, outer, b, cs =>
    match skip spaced cs with
    | [] => none
    | '[' :: rest =>
      match readNamed rest with
      | some (e, rest) => readSet spaced rounds outer (b.add e) rest
      | none =>
        let (inner, rest) := openSet spaced rest
        readSet spaced rounds (b :: outer) inner rest
    | ']' :: rest =>
      match outer with
      | [] => some (b.done, rest)
      | around :: outer => readSet spaced rounds outer (around.add b.done) rest
    | '&' :: '&' :: rest => readSet spaced rounds outer (b.operate .inter) rest
    | '-' :: '-' :: rest => readSet spaced rounds outer (b.operate .minus) rest
    | '~' :: '~' :: rest => readSet spaced rounds outer (b.operate .oneOf) rest
    | cs =>
      match readRange spaced cs with
      | some (e, rest) => readSet spaced rounds outer (b.add e) rest
      | none => none

/-! ## Groups and repetitions -/

/-- Whether a text may name a group: letters, numbers, underscores, dots and brackets, of which a
letter or an underscore comes first. -/
def isGroupName : List Char → Bool
  | [] => false
  | c :: cs =>
    (c == '_' || Text.isLetter c) &&
      cs.all fun c => "_.[]".toList.contains c || Text.isLetterOrNumber c

/-- Reads the name of a group up to the angle bracket. -/
def readGroupName (cs : List Char) : Option (Token × List Char) := do
  let (name, rest) ← Text.cut? '>' cs
  if isGroupName name then some (.openGroup (some (String.ofList name)), rest) else none

/-- Reads modes up to a colon, which opens a group, or a parenthesis. Behind a hyphen, which must
not come last, modes are taken away. -/
def readModes (m : Modes) (on : Bool) (isEmpty : Bool) : List Char → Option (Token × List Char)
  | [] => none
  | ':' :: rest => if on || !isEmpty then some (.openPlain m, rest) else none
  | ')' :: rest => if isEmpty then none else some (.setModes m, rest)
  | '-' :: rest => if on then readModes m false true rest else none
  | c :: rest =>
    match m.set? c on with
    | some m => readModes m on false rest
    | none => none

/-- Reads what follows the parenthesis that opens a group. -/
def readGroup : List Char → Option (Token × List Char)
  | '?' :: 'P' :: '<' :: rest => readGroupName rest
  | '?' :: '<' :: '=' :: _ | '?' :: '<' :: '!' :: _ => none
  | '?' :: '<' :: rest => readGroupName rest
  | '?' :: rest => readModes {} true true rest
  | rest => some (.openGroup none, rest)

/-- Reads the sign that makes a repetition reluctant. -/
def readGreed (min : Nat) (max : Option Nat) : List Char → Token × List Char
  | '?' :: rest => (.repeated min max false, rest)
  | rest => (.repeated min max true, rest)

/-- A count within braces, possibly with white space around it. -/
def count? (cs : List Char) : Option Nat := do
  let n ← Text.Decimal.natural? (Text.stripBy Text.isBlank cs)
  if n ≤ 4294967295 then some n else none

/-- Reads the counts of a repetition behind the brace that opens them. Nothing at all behind the
comma means that there is no greatest count. -/
def readCounts (spaced : Bool) (cs : List Char) : Option (Token × List Char) := do
  let (inner, rest) ← cutBrace? spaced false cs
  let rest := skip spaced rest
  match Text.cut? ',' inner with
  | none =>
    let n ← count? inner
    some (readGreed n (some n) rest)
  | some (low, high) =>
    let min ← count? low
    if high.isEmpty then some (readGreed min none rest)
    else
      let max ← count? high
      if min ≤ max then some (readGreed min (some max) rest) else none

/-- Reads one token off a text that is not empty. -/
def readToken (spaced : Bool) (c : Char) (rest : List Char) : Option (Token × List Char) :=
  match c with
  | '\\' => readEscape spaced rest
  | '.' => some (.dot, rest)
  | '^' => some (.caret, rest)
  | '$' => some (.dollar, rest)
  | '(' => readGroup (skip spaced rest)
  | ')' => some (.close, rest)
  | '|' => some (.bar, rest)
  | '?' => some (readGreed 0 (some 1) rest)
  | '*' => some (readGreed 0 none rest)
  | '+' => some (readGreed 1 none rest)
  | '\x7b' => readCounts spaced rest
  | '[' =>
    let (b, inner) := openSet spaced rest
    (readSet spaced (inner.length + 1) [] b inner).map fun (e, rest) => (.set e, rest)
  | c => some (.char c false, rest)

/-- Whether white space counts behind a token, and how it counts in the groups around. -/
def Token.spacing (spaced : Bool) (outer : List Bool) : Token → Bool × List Bool
  | .openGroup _ => (spaced, spaced :: outer)
  | .openPlain m => (m.spaced.getD spaced, spaced :: outer)
  | .setModes m => (m.spaced.getD spaced, outer)
  | .close =>
    match outer with
    | [] => (spaced, [])
    | around :: outer => (around, outer)
  | _ => (spaced, outer)

/-- The tokens of a text, in so many rounds at most. -/
def tokensIn : Nat → Bool → List Bool → List Char → Option (List Token)
  | 0, _, _, cs => if cs.isEmpty then some [] else none
  | rounds + 1, spaced, outer, cs =>
    match skip spaced cs with
    | [] => some []
    | c :: rest => do
      let (token, rest) ← readToken spaced c rest
      let (spaced, outer) := token.spacing spaced outer
      let tokens ← tokensIn rounds spaced outer rest
      some (token :: tokens)

/-- The tokens of a pattern. Every token uses up characters. -/
def tokens? (cs : List Char) : Option (List Token) :=
  tokensIn cs.length false [] cs

end SignOn.Pattern
