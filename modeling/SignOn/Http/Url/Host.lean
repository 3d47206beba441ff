import SignOn.Error
import SignOn.Http.Domain.Label
import SignOn.Http.Percent
import SignOn.Text.Case
import SignOn.Text.Split

/-!
# Hosts of URLs

A host is a name or an address. In URLs of the web a host whose last part is a number must be an
IPv4 address, whose one to four parts may be decimal, octal or hexadecimal; the last part fills
the bytes that are left. An address of IPv6 stands in brackets; it is written with the longest row
of zeros left out.
-/

namespace SignOn.Http

/-- The host of a URL. -/
inductive Host where
  | name (text : String)
  /-- An IPv4 address as one number. -/
  | four (address : Nat)
  /-- The eight numbers of an IPv6 address. -/
  | six (groups : List Nat)
deriving DecidableEq, Repr

namespace Host

/-! ## IPv4 -/

/-- The value of digits in a base, or `none` if one of the characters is no digit. -/
def numeral? (base : Nat) (cs : List Char) : Option Nat :=
  cs.foldlM (fun n c =>
    (Percent.digit? c).bind fun d => if d < base then some (n * base + d) else none) 0

/-- The value of one part of an address: `0x` introduces hexadecimal and `0` octal digits. -/
def part? (cs : List Char) : Option Nat :=
  match cs with
  | [] => none
  | '0' :: 'x' :: digits | '0' :: 'X' :: digits => numeral? 16 digits
  | '0' :: digits => numeral? 8 digits
  | digits => numeral? 10 digits

/-- The parts of a host between dots; an empty last part does not count. -/
def parts (cs : List Char) : List (List Char) :=
  let all := Text.pieces '.' cs
  if 1 < all.length && all.getLast? == some [] then all.dropLast else all

/-- Whether the last part of a host is a number. -/
def endsInNumber (cs : List Char) : Bool :=
  match (parts cs).getLast? with
  | some last => !last.isEmpty && (last.all Char.isDigit || (part? last).isSome)
  | none => false

/-- How many values the bytes behind the first `n` bytes of an address can have. -/
def room (n : Nat) : Nat :=
  [4294967296, 16777216, 65536, 256].getD n 0

/-- The address with the given parts, of which the last one fills the bytes that are left. -/
def fourOf? (numbers : List Nat) : Option Nat :=
  match numbers.getLast? with
  | some last =>
    let front := numbers.dropLast
    if front.any (255 < ·) || room front.length ≤ last then none
    else some (front.foldl (fun n b => n * 256 + b) 0 * room front.length + last)
  | none => none

/-- The parts of an IPv4 address in decimal. -/
def fourText (address : Nat) : String :=
  ".".intercalate ([16777216, 65536, 256, 1].map fun scale => toString (address / scale % 256))

/-! ## IPv6 -/

/-- One group of an address: one to four hexadecimal digits. -/
def group? (cs : List Char) : Option Nat :=
  if cs.isEmpty || 4 < cs.length then none else numeral? 16 cs

/-- One number of an address in dotted decimal: up to 255, without zeros in front. -/
def byte? (cs : List Char) : Option Nat :=
  if cs.isEmpty || (1 < cs.length && cs.head? == some '0') then none
  else (numeral? 10 cs).bind fun n => if n ≤ 255 then some n else none

/-- The two groups that four numbers in dotted decimal stand for. -/
def dotted? (cs : List Char) : Option (List Nat) := do
  let bytes ← (Text.pieces '.' cs).mapM byte?
  match bytes with
  | [a, b, c, d] => some [a * 256 + b, c * 256 + d]
  | _ => none

/-- The groups of a text between colons, of which the last may be in dotted decimal. -/
def groups? (mayEndDotted : Bool) : List (List Char) → Option (List Nat)
  | [] => some []
  | [last] =>
    if mayEndDotted && last.contains '.' then dotted? last
    else (group? last).map fun g => [g]
  | first :: rest => do
    let g ← group? first
    let gs ← groups? mayEndDotted rest
    some (g :: gs)

/-- The groups of a text that may be empty. -/
def side? (mayEndDotted : Bool) (cs : List Char) : Option (List Nat) :=
  if cs.isEmpty then some [] else groups? mayEndDotted (Text.pieces ':' cs)

/-- What stands in front of and behind the first two colons in a row. -/
def cutDoubleColon? : List Char → Option (List Char × List Char)
  | ':' :: ':' :: rest => some ([], rest)
  | c :: rest => (cutDoubleColon? rest).map fun (a, b) => (c :: a, b)
  | [] => none

/-- The eight groups of an address. Two colons in a row stand for one group or more. -/
def sixOf? (cs : List Char) : Option (List Nat) :=
  match cutDoubleColon? cs with
  | some (left, right) => do
    let front ← side? false left
    let back ← side? true right
    if front.length + back.length ≤ 7 then
      some (front ++ List.replicate (8 - front.length - back.length) 0 ++ back)
    else none
  | none => do
    let groups ← groups? true (Text.pieces ':' cs)
    if groups.length = 8 then some groups else none

/-- The number of zeros at the start of a list. -/
def zeros (groups : List Nat) : Nat :=
  (groups.takeWhile (· == 0)).length

/-- Where the longest row of two zeros or more begins, and its length; of several the first. -/
def longestZeros? (groups : List Nat) : Option (Nat × Nat) :=
  (List.range groups.length).foldl
    (fun best i =>
      let n := zeros (groups.drop i)
      if n ≤ (best.map Prod.snd).getD 1 then best else some (i, n))
    none

/-- Groups in hexadecimal between colons. -/
def groupsText (groups : List Nat) : String :=
  ":".intercalate (groups.map fun g => String.ofList (Nat.toDigits 16 g))

/-- The text of an IPv6 address. -/
def sixText (groups : List Nat) : String :=
  match longestZeros? groups with
  | some (start, length) =>
    groupsText (groups.take start) ++ "::" ++ groupsText (groups.drop (start + length))
  | none => groupsText groups

/-! ## Hosts -/

/-- The text of a host as it stands in a URL. -/
def text : Host → String
  | .name s => s
  | .four address => fourText address
  | .six groups => "[" ++ sixText groups ++ "]"

/-- Whether a character may stand in no host. -/
def isForbidden (c : Char) : Bool :=
  "\x00\t\n\r #/:<>?@[\\]^|".toList.contains c

/-- Whether a character may stand in no name of the web. -/
def isForbiddenInDomain (c : Char) : Bool :=
  isForbidden c || c.toNat ≤ 0x1F || c == '%' || 0x7F ≤ c.toNat

/-- Reads an address in brackets. -/
def inBrackets (cs : List Char) : Except UrlFault Host :=
  match cs.getLast? with
  | some ']' =>
    match sixOf? cs.dropLast with
    | some groups => .ok (.six groups)
    | none => .error .invalidIpv6
  | _ => .error .invalidIpv6

/-- Reads a name or an address of IPv4, after its escapes have been resolved. -/
def ofDomain (domain : List Char) : Except UrlFault Host :=
  if domain.any isForbiddenInDomain || !Domain.isWellFormed domain then .error .invalidDomain
  else if domain.isEmpty then .error .emptyHost
  else if endsInNumber domain then
    match ((parts domain).mapM part?).bind fourOf? with
    | some address => .ok (.four address)
    | none => .error .invalidIpv4
  else .ok (.name (String.ofList domain))

/-- Reads the host of a URL of the web. -/
def ofWeb (cs : List Char) : Except UrlFault Host :=
  match cs with
  | '[' :: rest => inBrackets rest
  | _ =>
    let domain := Text.Utf8.decodeLenient
      (Percent.decode (Text.Utf8.encode (String.ofList cs)))
    ofDomain (domain.toList.map Char.toLower)

/-- Reads the host of any other URL, which is taken as it is. -/
def ofOther (cs : List Char) : Except UrlFault Host :=
  match cs with
  | '[' :: rest => inBrackets rest
  | _ =>
    if cs.any isForbidden then .error .invalidDomainCharacter
    else .ok (.name (String.ofList
      (Percent.encode (fun c => 0x20 ≤ c.toNat && c.toNat ≤ 0x7E) cs)))

end Host

end SignOn.Http
