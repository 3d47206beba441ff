import SignOn.Error
import SignOn.Text.Quoted
import SignOn.Text.Split

/-!
# Session tokens

A session token names an authenticated user and says until when it is good. Its text form is a list
of attributes joined by ampersands, which the session cookie carries behind a signature:

    u=bob&p=bob@EXAMPLE.COM&t=kerberos&e=1700000000000

A token keeps its text form instead of writing it whenever it is asked for, so whatever changes a
token has to write it again. `TokenState` is what a token keeps, and the functions on it say when
the text is written. A `Token` is a state whose text is up to date; every function that makes or
changes a token leaves such a state.

The anonymous token stands for access without a user; it never changes and has no text form.
-/

namespace SignOn

namespace Token

/-- Whether a text can be a field of a token: not empty, and without the separator. -/
def isField (s : String) : Bool :=
  !s.isEmpty && !s.toList.contains '&'

/-- A failure of decoding. -/
def decodingFails {α : Type} (fault : TokenFault) : Result α :=
  .error ⟨.decode fault, none⟩

/-- The attributes of a text: parts that are not empty, each cut at its first equals sign. -/
def attributes? (cs : List Char) : Option (List (String × String)) :=
  ((Text.pieces '&' cs).filter (!·.isEmpty)).mapM fun part =>
    (Text.cut? '=' part).map fun (k, v) => (String.ofList k, String.ofList v)

/-- The value of the last attribute with a key. -/
def lastValue? (attributes : List (String × String)) (key : String) : Option String :=
  attributes.reverse.lookup key

/-- Reads a deadline. -/
def readDeadline (key value : String) : Result Int64 :=
  match Text.Decimal.int64? value with
  | some n => .ok n
  | none => decodingFails (.badNumber key value)

/-- Reads the deadline for inactivity, if the attributes have one. -/
def readInactivity (attributes : List (String × String)) (otherwise : Int64) : Result Int64 :=
  match lastValue? attributes "i" with
  | some i => readDeadline "i" i
  | none => .ok otherwise

/-- Whether a deadline has passed. -/
def isPast (deadline now : Int64) : Bool :=
  deadline != -1 && deadline < now

end Token

/-! ## What a token keeps -/

/-- An identity with the way it was authenticated and its deadlines, and its text form as it was
written last. -/
structure TokenState where
  user : String
  /-- The full identity, such as a name with a realm. -/
  principal : String
  /-- The kind of handler that authenticated the user. -/
  kind : String
  /-- When inactivity ends the session, in epoch milliseconds; `-1` is never. -/
  maxInactive : Int64 := -1
  /-- When the session ends, in epoch milliseconds; `-1` is never. -/
  expires : Int64 := -1
  encoded : String := ""
deriving DecidableEq, Repr

namespace TokenState

/-- Whether a token names no user. -/
def isAnonymous (s : TokenState) : Bool :=
  s.user.isEmpty

/-- The attribute with the deadline for inactivity, if there is one. -/
def inactivityText (s : TokenState) : String :=
  if s.maxInactive = -1 then "" else "i=" ++ Text.Decimal.print s.maxInactive ++ "&"

/-- The attributes of a token as a text. -/
def attributeText (s : TokenState) : String :=
  "u=" ++ s.user ++ "&p=" ++ s.principal ++ "&t=" ++ s.kind ++ "&" ++ s.inactivityText ++ "e=" ++
    Text.Decimal.print s.expires

/-- Writes the text form. -/
def generate (s : TokenState) : TokenState :=
  { s with encoded := s.attributeText }

/-- A token without deadlines. -/
def make (user principal kind : String) : Result TokenState :=
  if !Token.isField user then Token.decodingFails (.badField "userName")
  else if !Token.isField principal then Token.decodingFails (.badField "principal")
  else if !Token.isField kind then Token.decodingFails (.badField "type")
  else .ok (generate { user, principal, kind })

/-- The token with another end; the anonymous token stays as it is. -/
def setExpires (s : TokenState) (deadline : Int64) : TokenState :=
  if s.isAnonymous then s else generate { s with expires := deadline }

/-- The token with another end by inactivity; the anonymous token stays as it is. -/
def setMaxInactive (s : TokenState) (deadline : Int64) : TokenState :=
  if s.isAnonymous then s else generate { s with maxInactive := deadline }

/-- The token with the given attributes. Unknown attributes do not matter. -/
def ofAttributes (attributes : List (String × String)) : Result TokenState :=
  match Token.lastValue? attributes "u", Token.lastValue? attributes "p",
    Token.lastValue? attributes "t", Token.lastValue? attributes "e" with
  | some user, some principal, some kind, some e => do
    let expires ← Token.readDeadline "e" e
    let made ← make user principal kind
    let maxInactive ← Token.readInactivity attributes made.maxInactive
    .ok (generate { made with maxInactive, expires })
  | _, _, _, _ => Token.decodingFails .missingAttribute

/-- Reads the text form of a token, which may stand in double quotes. -/
def parse (text : String) : Result TokenState :=
  match Token.attributes? (Text.unquoteChars text.toList) with
  | some attributes => ofAttributes attributes
  | none => Token.decodingFails .badPair

/-! ## Texts that are up to date -/

/-- The text form that the fields call for; that of the anonymous token is empty. -/
def text (s : TokenState) : String :=
  if s.isAnonymous then "" else s.attributeText

/-- The text form was written after the last change. -/
def IsCurrent (s : TokenState) : Prop :=
  s.encoded = s.text

theorem isCurrent_generate {s : TokenState} (h : s.isAnonymous = false) :
    s.generate.IsCurrent := by
  have hGenerated : s.generate.isAnonymous = false := h
  rw [IsCurrent, text, if_neg (by simp [hGenerated])]
  rfl

theorem make_eq_ok_iff {user principal kind : String} {s : TokenState} :
    make user principal kind = .ok s ↔
      s = generate { user, principal, kind } ∧ Token.isField user = true ∧
        Token.isField principal = true ∧ Token.isField kind = true := by
  unfold make
  constructor
  · intro h
    split at h
    · cases h
    · split at h
      · cases h
      · split at h
        · cases h
        · rename_i hUser hPrincipal hKind
          cases h
          exact ⟨rfl, by simpa using hUser, by simpa using hPrincipal, by simpa using hKind⟩
  · rintro ⟨rfl, hUser, hPrincipal, hKind⟩
    simp [hUser, hPrincipal, hKind]

theorem isAnonymous_eq_false_of_make {user principal kind : String} {s : TokenState}
    (h : make user principal kind = .ok s) : s.isAnonymous = false := by
  obtain ⟨rfl, hUser, -, -⟩ := make_eq_ok_iff.mp h
  rw [Token.isField, Bool.and_eq_true, Bool.not_eq_true'] at hUser
  exact hUser.1

theorem isCurrent_of_make {user principal kind : String} {s : TokenState}
    (h : make user principal kind = .ok s) : s.IsCurrent := by
  have hNamed := isAnonymous_eq_false_of_make h
  obtain ⟨rfl, -⟩ := make_eq_ok_iff.mp h
  exact isCurrent_generate hNamed

/-- A change of a token that leaves the user writes the text anew, if there is one. -/
theorem IsCurrent.change {s changed : TokenState} (h : s.IsCurrent)
    (hUser : changed.user = s.user) :
    (if s.isAnonymous then s else changed.generate).IsCurrent := by
  split
  · exact h
  · rename_i hNamed
    apply isCurrent_generate
    rw [isAnonymous, hUser]
    simpa [isAnonymous] using hNamed

theorem IsCurrent.setExpires {s : TokenState} (h : s.IsCurrent) (deadline : Int64) :
    (s.setExpires deadline).IsCurrent :=
  h.change rfl

theorem IsCurrent.setMaxInactive {s : TokenState} (h : s.IsCurrent) (deadline : Int64) :
    (s.setMaxInactive deadline).IsCurrent :=
  h.change rfl

theorem isCurrent_of_ofAttributes {attributes : List (String × String)} {s : TokenState}
    (h : ofAttributes attributes = .ok s) : s.IsCurrent := by
  unfold ofAttributes at h
  split at h
  · simp only [bind, Except.bind] at h
    split at h
    · cases h
    · split at h
      · cases h
      · rename_i made hMade
        have hNamed : made.user.isEmpty = false := isAnonymous_eq_false_of_make hMade
        split at h
        · cases h
        · cases h
          exact isCurrent_generate hNamed
  · cases h

theorem isCurrent_of_parse {text : String} {s : TokenState} (h : parse text = .ok s) :
    s.IsCurrent := by
  unfold parse at h
  split at h
  · exact isCurrent_of_ofAttributes h
  · cases h

end TokenState

/-! ## Tokens -/

/-- A token: its text form is up to date. -/
structure Token extends TokenState where
  encoded := TokenState.text { user, principal, kind, maxInactive, expires }
  isCurrent : toTokenState.IsCurrent := by rfl
deriving DecidableEq, Repr

namespace Token

/-- The token with a state that was made, if it could be made. -/
def ofState (made : Result TokenState) (h : ∀ s, made = .ok s → s.IsCurrent) : Result Token :=
  match made, h with
  | .ok s, h => .ok { s with isCurrent := h s rfl }
  | .error e, _ => .error e

/-- Access without a user. -/
def anonymous : Token where
  user := ""
  principal := ""
  kind := ""

/-- A token without deadlines. -/
def make (user principal kind : String) : Result Token :=
  ofState (TokenState.make user principal kind) fun _ => TokenState.isCurrent_of_make

/-- Reads the text form of a token, which may stand in double quotes. -/
def parse (text : String) : Result Token :=
  ofState (TokenState.parse text) fun _ => TokenState.isCurrent_of_parse

/-- The token with another end; the anonymous token stays as it is. -/
def setExpires (t : Token) (deadline : Int64) : Token :=
  { t.toTokenState.setExpires deadline with isCurrent := t.isCurrent.setExpires deadline }

/-- The token with another end by inactivity; the anonymous token stays as it is. -/
def setMaxInactive (t : Token) (deadline : Int64) : Token :=
  { t.toTokenState.setMaxInactive deadline with
    isCurrent := t.isCurrent.setMaxInactive deadline }

/-- The text form of a token. -/
def encode (t : Token) : String :=
  t.encoded

/-- Whether one of the deadlines has passed. -/
def isExpired (t : Token) (now : Int64) : Bool :=
  isPast t.maxInactive now || isPast t.expires now

/-- A token as a developer sees it. -/
def inspect (t : Token) : String :=
  if t.isAnonymous then "AuthenticationToken(ANONYMOUS)"
  else
    Text.Inspect.record "AuthenticationToken" [
      ("user_name", Text.Inspect.quote t.user),
      ("principal", Text.Inspect.quote t.principal),
      ("type", Text.Inspect.quote t.kind),
      ("max_inactive", Text.Decimal.print t.maxInactive),
      ("expires", Text.Decimal.print t.expires)]

end Token

end SignOn
