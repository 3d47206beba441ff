import SignOn.Kerberos.ServiceToken
import SignOn.Proofs.Kerberos.Element
import SignOn.Proofs.Result
import SignOn.Proofs.Text.Utf8

/-!
# Tokens and the service they are for

A ticket says in its second and third field for which service it is; the request in which it is sent
has it in its fourth field, and the token with the request stands behind the object of the
mechanism. All other fields are passed over, whatever they hold, because the search goes by the tags
of the fields and never looks into one with another tag. A token for the negotiation of mechanisms
holds another token as it is.

`serverName_exact` says what is read from a token with a ticket, and that it is the same from a
token in which that token is wrapped.
-/

namespace SignOn.ServiceToken

open SignOn.Text (Bytes)
open SignOn.Der (holding)

/-! ## The layout of tokens -/

/-- A ticket: the service that it is for, and the contents of the fields that are not looked at. -/
structure Ticket where
  realm : String
  /-- The parts of the name of the service. -/
  parts : List String
  version : Bytes
  nameKind : Bytes
  sealed : Bytes

namespace Ticket

variable (t : Ticket)

/-- The parts of the name, each as a text. -/
def names : Der :=
  holding 0x30 (t.parts.map fun part => ⟨0x1b, Text.Utf8.encode part⟩)

/-- The field with the realm. -/
def realmField : Der :=
  holding 0xa1 [⟨0x1b, Text.Utf8.encode t.realm⟩]

/-- The field with the name of the service. -/
def nameField : Der :=
  holding 0xa2 [holding 0x30 [⟨0xa0, t.nameKind⟩, holding 0xa1 [t.names]]]

/-- The fields of the ticket. -/
def fields : Der :=
  holding 0x30 [⟨0xa0, t.version⟩, t.realmField, t.nameField, ⟨0xa3, t.sealed⟩]

end Ticket

/-- A request with a ticket, and the contents of the fields that are not looked at. -/
structure Request where
  ticket : Ticket
  version : Bytes
  kind : Bytes
  options : Bytes
  authenticator : Bytes

namespace Request

variable (r : Request)

/-- The request as an element. -/
def element : Der :=
  holding 0x6e [holding 0x30 [⟨0xa0, r.version⟩, ⟨0xa1, r.kind⟩, ⟨0xa2, r.options⟩,
    holding 0xa3 [holding 0x61 [r.ticket.fields]], ⟨0xa4, r.authenticator⟩]]

/-- The token with the request. The number of the first token of an exchange stands in front of the
request; its two bytes 01 00 are those of an element without content. -/
def token : Der :=
  holding 0x60 [⟨Der.objectTag, kerberosObject⟩, ⟨0x01, []⟩, r.element]

end Request

/-- The offer of mechanisms with a token for the first of them. -/
def offer (mechanisms inner : Bytes) : Der :=
  holding 0xa0 [holding 0x30 [⟨0xa0, mechanisms⟩, holding 0xa2 [⟨Der.octetsTag, inner⟩]]]

/-- The token for the negotiation of mechanisms with an offer. -/
def wrapping (mechanisms inner : Bytes) : Der :=
  holding 0x60 [⟨Der.objectTag, negotiationObject⟩, offer mechanisms inner]

/-- The bytes begin with a token for the negotiation of mechanisms. -/
def IsWrapped (bytes : Bytes) : Prop :=
  ∃ token object left, Der.parse bytes = .ok token ∧ token.next = (.ok object, left) ∧
    object.isObject negotiationObject = true

/-! ## Wrapped and plain tokens -/

/-- What follows the object of the mechanism names the service. -/
def Names (token : Der) (name : String) : Prop :=
  ∃ number left, token.next = (.ok number, left) ∧ number.tag = 1 ∧
    ∃ request rest, left.next = (.ok request, rest) ∧
      ∃ ticket, (request.get ticketPath).1 = .ok ticket ∧ ticketName ticket = .ok name

/-- The bytes begin with a Kerberos token that is not wrapped and names the service. -/
def NamesPlainly (bytes : Bytes) (name : String) : Prop :=
  ∃ token object left, Der.parse bytes = .ok token ∧ token.next = (.ok object, left) ∧
    object.isObject kerberosObject = true ∧ Names left name

variable {bytes : Bytes} {name : String}

theorem serverName_eq_ok_iff :
    serverName bytes = .ok name ↔
      ∃ token, Der.parse bytes = .ok token ∧ ∃ object left, unwrap token = .ok (object, left) ∧
        object.isObject kerberosObject = true ∧ Names left name := by
  unfold serverName inToken Names
  simp only [bind_eq_ok_iff, guard_eq_ok_iff, mapError_eq_ok_iff, Prod.exists, Prod.ext_iff,
    Bool.not_eq_true', Bool.not_eq_false, ne_eq, not_not, and_assoc, exists_and_left,
    exists_eq_left']

theorem not_isObject_negotiation {object : Der} (h : object.isObject kerberosObject = true) :
    object.isObject negotiationObject = false := by
  simp only [Der.isObject, Bool.and_eq_true, beq_iff_eq] at h
  simp only [Der.isObject, h.1, h.2]
  decide

theorem unwrap_of_next {token object left : Der} (hNext : token.next = (.ok object, left))
    (hObject : object.isObject negotiationObject = false) :
    unwrap token = .ok (object, left) := by
  unfold unwrap
  rw [hNext]
  simp only [bind, Except.bind, hObject]
  rfl

/-- A Kerberos token that is not wrapped is read as it stands, and only such a token. -/
theorem namesPlainly_iff :
    NamesPlainly bytes name ↔ ¬ IsWrapped bytes ∧ serverName bytes = .ok name := by
  rw [serverName_eq_ok_iff]
  constructor
  · rintro ⟨token, object, left, hToken, hNext, hObject, hNames⟩
    have hPlain := not_isObject_negotiation hObject
    refine ⟨?_, token, hToken, object, left, unwrap_of_next hNext hPlain, hObject, hNames⟩
    rintro ⟨token', object', left', hToken', hNext', hObject'⟩
    rw [hToken] at hToken'
    cases hToken'
    rw [hNext] at hNext'
    cases hNext'
    rw [hPlain] at hObject'
    cases hObject'
  · rintro ⟨hPlain, token, hToken, object, left, hUnwrap, hObject, hNames⟩
    rcases hNext : token.next with ⟨fault | first, rest⟩
    · unfold unwrap at hUnwrap
      rw [hNext] at hUnwrap
      cases hUnwrap
    · have hFirst : first.isObject negotiationObject = false := by
        by_contra hWrapped
        exact hPlain ⟨token, first, rest, hToken, hNext, by simpa using hWrapped⟩
      rw [unwrap_of_next hNext hFirst] at hUnwrap
      cases hUnwrap
      exact ⟨token, _, _, hToken, hNext, hObject, hNames⟩

/-! ## The ways through a token -/

theorem get_wrappedPath {mechanisms inner : Bytes} (h : (offer mechanisms inner).Fits) :
    ((offer mechanisms inner).get wrappedPath).1 = .ok ⟨Der.octetsTag, inner⟩ := by
  have hSequence := h.only
  have hField := hSequence.tail.only
  apply Der.get_here rfl
  refine Der.get_child [] (by decide) h (by simp) rfl (by decide) ?_
  refine Der.get_child [⟨0xa0, mechanisms⟩] (by decide) hSequence (by simp) rfl (by decide) ?_
  exact Der.get_child [] (by decide) hField (by simp) rfl (by decide) rfl

theorem unwrap_wrapping {mechanisms inner : Bytes} (h : (wrapping mechanisms inner).Fits)
    {object left : Der} :
    unwrap (wrapping mechanisms inner) = .ok (object, left) ↔
      ∃ token, (Der.next ⟨Der.octetsTag, inner⟩).1 = .ok token ∧
        token.next = (.ok object, left) := by
  have hOffer := h.tail.only
  have hObject := Der.next_holding (by decide) h
  have hNext := Der.next_holding (by decide) h.tail
  have hNegotiation : Der.isObject ⟨Der.objectTag, negotiationObject⟩ negotiationObject = true := by
    decide
  unfold unwrap
  rw [wrapping, hObject]
  simp only [bind_eq_ok_iff, hNext, get_wrappedPath hOffer, hNegotiation, if_true, Except.ok.injEq,
    exists_eq_left', Prod.ext_iff]
  constructor
  · rintro ⟨token, hToken, _, hNext, rfl, hLeft⟩
    exact ⟨token, hToken, hNext, hLeft⟩
  · rintro ⟨token, hToken, hNext, hLeft⟩
    exact ⟨token, hToken, object, hNext, rfl, hLeft⟩

/-- The token inside a string of bytes is the one at the front of the string. -/
theorem next_octets {inner : Bytes} {token : Der} :
    (Der.next ⟨Der.octetsTag, inner⟩).1 = .ok token ↔ Der.parse inner = .ok token := by
  cases inner with
  | nil => simp [Der.next, Der.hasNext, Der.parse, Der.read]
  | cons b bs =>
    have hHasNext : Der.hasNext ⟨Der.octetsTag, b :: bs⟩ = true := by simp [Der.hasNext]
    rw [Der.next, if_pos hHasNext, Der.parse]

theorem serverName_wrapping {mechanisms inner : Bytes} (h : (wrapping mechanisms inner).Fits) :
    serverName (wrapping mechanisms inner).write = .ok name ↔ NamesPlainly inner name := by
  rw [serverName_eq_ok_iff, Der.parse_write h]
  constructor
  · rintro ⟨token, hToken, object, left, hUnwrap, hObject, hNames⟩
    cases hToken
    obtain ⟨token, hOctets, hNext⟩ := (unwrap_wrapping h).mp hUnwrap
    exact ⟨token, object, left, next_octets.mp hOctets, hNext, hObject, hNames⟩
  · rintro ⟨token, object, left, hToken, hNext, hObject, hNames⟩
    have hUnwrap := (unwrap_wrapping h).mpr ⟨token, next_octets.mpr hToken, hNext⟩
    exact ⟨_, rfl, object, left, hUnwrap, hObject, hNames⟩

/-! ## The name in a ticket -/

theorem text_encode (tag : UInt8) (s : String) : Der.text ⟨tag, Text.Utf8.encode s⟩ = .ok s := by
  rw [Der.text, Text.Utf8.decode_encode]

theorem texts_names (parts : List String)
    (h : (holding 0x30 (parts.map fun part => ⟨0x1b, Text.Utf8.encode part⟩)).Fits) :
    (holding 0x30 (parts.map fun part => ⟨0x1b, Text.Utf8.encode part⟩)).texts = .ok parts := by
  induction parts with
  | nil =>
    rw [Der.texts]
    rfl
  | cons part parts ih =>
    rw [List.map_cons] at h ⊢
    have hNext := Der.next_holding (by decide) h
    exact Der.texts_of_next hNext (text_encode 0x1b part) (ih h.tail)

theorem ticketName_fields {t : Ticket} (h : t.fields.Fits) :
    ticketName t.fields = .ok ("/".intercalate t.parts ++ "@" ++ t.realm) := by
  have hRealm := h.of_mem (show t.realmField ∈ _ by simp)
  have hName := h.of_mem (show t.nameField ∈ _ by simp)
  have hSequence := hName.only
  have hNames := hSequence.tail.only
  have hGetRealm : t.fields.get realmPath =
      (.ok ⟨0x1b, Text.Utf8.encode t.realm⟩, holding 0x30 [t.nameField, ⟨0xa3, t.sealed⟩]) := by
    refine Der.get_inside [⟨0xa0, t.version⟩] (by decide) h (by simp) rfl (by decide) ?_
    exact Der.get_child [] (by decide) hRealm (by simp) rfl (by decide) rfl
  have hGetNames :
      ((holding 0x30 [t.nameField, ⟨0xa3, t.sealed⟩]).get namePath).1 = .ok t.names := by
    refine Der.get_child [] (by decide) h.tail.tail (by simp) rfl (by decide) ?_
    refine Der.get_child [] (by decide) hName (by simp) rfl (by decide) ?_
    refine Der.get_child [⟨0xa0, t.nameKind⟩] (by decide) hSequence (by simp) rfl (by decide) ?_
    exact Der.get_child [] (by decide) hNames (by simp) rfl (by decide) rfl
  have hTexts : t.names.texts = .ok t.parts :=
    texts_names t.parts hNames.only
  rw [ticketName, hGetRealm]
  simp only [bind, Except.bind, text_encode, hGetNames, hTexts]

theorem namesPlainly_token {r : Request} (h : r.token.Fits) :
    NamesPlainly r.token.write ("/".intercalate r.ticket.parts ++ "@" ++ r.ticket.realm) := by
  have hElement := h.of_mem (show r.element ∈ _ by simp)
  have hSequence := hElement.only
  have hField := hSequence.of_mem (show holding 0xa3 [holding 0x61 [r.ticket.fields]] ∈ _ by simp)
  have hTicket := hField.only
  have hFields := hTicket.only
  have hGet : (r.element.get ticketPath).1 = .ok r.ticket.fields := by
    apply Der.get_here rfl
    refine Der.get_child [] (by decide) hElement (by simp) rfl (by decide) ?_
    refine Der.get_child [⟨0xa0, r.version⟩, ⟨0xa1, r.kind⟩, ⟨0xa2, r.options⟩] (by decide)
      hSequence (by simp) rfl (by decide) ?_
    refine Der.get_child [] (by decide) hField (by simp) rfl (by decide) ?_
    exact Der.get_child [] (by decide) hTicket (by simp) rfl (by decide) rfl
  exact ⟨r.token, _, _, Der.parse_write h, Der.next_holding (by decide) h, by decide,
    _, _, Der.next_holding (by decide) h.tail, rfl, _, _,
    Der.next_holding (by decide) h.tail.tail, _, hGet, ticketName_fields hFields⟩

/-- **The name of the service is read back, from a bare token and from a wrapped one.** Whatever the
realm and the parts of the name are, and whatever stands in the other fields of the token, the
ticket and the request, as long as the lengths can be said in four bytes: what is read is the parts
joined by slashes, and the realm. And from a token that is wrapped a name is read exactly if it is
read from the token itself, and that token is not another wrapped one. -/
theorem serverName_exact :
    (∀ r : Request, r.token.Fits → serverName r.token.write =
      .ok ("/".intercalate r.ticket.parts ++ "@" ++ r.ticket.realm)) ∧
    ∀ mechanisms inner, (wrapping mechanisms inner).Fits →
      ∀ name, serverName (wrapping mechanisms inner).write = .ok name ↔
        ¬ IsWrapped inner ∧ serverName inner = .ok name := by
  constructor
  · intro r h
    exact (namesPlainly_iff.mp (namesPlainly_token h)).2
  · intro mechanisms inner h name
    rw [serverName_wrapping h, namesPlainly_iff]

/-- A request whose unread fields look like those that are read, with lengths of one and of two
bytes, bare and wrapped. -/
theorem serverName_exact_misleading :
    ∃ r : Request, r.ticket.nameKind = (Ticket.names r.ticket).write ∧ r.token.Fits ∧
      serverName r.token.write = .ok "HTTP/web@EX" ∧ (wrapping [0x30, 0x00] r.token.write).Fits ∧
      serverName (wrapping [0x30, 0x00] r.token.write).write = .ok "HTTP/web@EX" := by
  let parts := ["HTTP", "web"]
  let nameKind :=
    (holding 0x30 (parts.map fun part => ⟨0x1b, Text.Utf8.encode part⟩)).write
  let ticket : Ticket := ⟨"EX", parts, [0xa1, 0x00], nameKind, List.replicate 200 0⟩
  let r : Request := ⟨ticket, [], [0xa3], [0x61, 0x00], List.replicate 100 0x6e⟩
  have hFits : r.token.Fits := by
    unfold Der.Fits
    decide +kernel
  have hWrapped : (wrapping [0x30, 0x00] r.token.write).Fits := by
    unfold Der.Fits
    decide +kernel
  obtain ⟨hBare, hInside⟩ := serverName_exact
  have hPlain := (namesPlainly_iff.mp (namesPlainly_token hFits)).1
  exact ⟨r, rfl, hFits, hBare r hFits, hWrapped,
    (hInside _ _ hWrapped _).mpr ⟨hPlain, hBare r hFits⟩⟩

end SignOn.ServiceToken
