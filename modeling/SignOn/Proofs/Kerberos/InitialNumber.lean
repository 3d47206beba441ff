import SignOn.Proofs.Kerberos.ServiceToken

/-!
# The number of a token is not looked at

The first token of an exchange goes on behind the object of the mechanism with the number 01 00, and
only such a token should name a service. But the number is read as an element, of which only the tag
matters: whatever it holds and in whatever way its length is said, the search goes on behind it
(`number_unread`). So a name is read from tokens that are not the first of an exchange as well
(`number_unread_other`).
-/

namespace SignOn.ServiceToken

open SignOn.Text (Bytes)
open SignOn.Der (MayHold)

/-- The Kerberos token in some bytes: they begin with it, or with a token for the negotiation of
mechanisms in which it is wrapped. -/
inductive Carries (bytes : Bytes) (token : Der) : Prop
  | plain (hToken : Der.parse bytes = .ok token) (hPlain : ¬ IsWrapped bytes)
  | wrapped {outer object left offer rest octets inner : Der} (hOuter : Der.parse bytes = .ok outer)
      (hObject : outer.next = (.ok object, left))
      (hNegotiation : object.isObject negotiationObject = true)
      (hOffer : left.next = (.ok offer, rest)) (hOctets : (offer.get wrappedPath).1 = .ok octets)
      (hToken : octets.next = (.ok token, inner))

/-- The bytes stand in a token behind the object of the Kerberos mechanism. -/
def GoesOn (token : Der) (bytes : Bytes) : Prop :=
  ∃ object, Der.WrittenAs ⟨Der.objectTag, kerberosObject⟩ object ∧ token.content = object ++ bytes

variable {bytes : Bytes} {name : String}

theorem isObject_iff {d : Der} {object : Bytes} :
    d.isObject object = true ↔ d = ⟨Der.objectTag, object⟩ := by
  obtain ⟨tag, content⟩ := d
  simp [Der.isObject]

theorem GoesOn.unique {token : Der} {rest rest' : Bytes} (h : GoesOn token rest)
    (h' : GoesOn token rest') : rest = rest' := by
  obtain ⟨object, hObject, hContent⟩ := h
  obtain ⟨object', hObject', hContent'⟩ := h'
  exact (hObject.unique hObject' (hContent.symm.trans hContent')).2

/-- The object of the mechanism is taken off the Kerberos token that the bytes carry. -/
theorem unwrap_kerberos_iff {left : Der} :
    (∃ token, Der.parse bytes = .ok token ∧
        unwrap token = .ok (⟨Der.objectTag, kerberosObject⟩, left)) ↔
      ∃ token, Carries bytes token ∧ token.next = (.ok ⟨Der.objectTag, kerberosObject⟩, left) := by
  have hKerberos : Der.isObject ⟨Der.objectTag, kerberosObject⟩ kerberosObject = true :=
    isObject_iff.mpr rfl
  constructor
  · rintro ⟨outer, hOuter, hUnwrap⟩
    rw [unwrap, bind_eq_ok_iff] at hUnwrap
    obtain ⟨object, hObject, hUnwrap⟩ := hUnwrap
    have hNext : outer.next = (.ok object, outer.next.2) := Prod.ext hObject rfl
    split at hUnwrap
    · rename_i hNegotiation
      simp only [bind_eq_ok_iff, Except.ok.injEq, Prod.mk.injEq] at hUnwrap
      obtain ⟨offer, hOffer, octets, hOctets, token, hToken, _, hLast, rfl, hLeft⟩ := hUnwrap
      exact ⟨token, .wrapped hOuter hNext hNegotiation (Prod.ext hOffer rfl) hOctets
        (Prod.ext hToken rfl), Prod.ext hLast hLeft⟩
    · rename_i hPlain
      cases hUnwrap
      refine ⟨outer, .plain hOuter ?_, hNext⟩
      rintro ⟨outer', object', left', hOuter', hNext', hNegotiation⟩
      cases hOuter.symm.trans hOuter'
      cases hNext.symm.trans hNext'
      exact hPlain hNegotiation
  · rintro ⟨token, hCarries, hNext⟩
    cases hCarries with
    | plain hToken hPlain =>
      exact ⟨token, hToken, unwrap_of_next hNext (not_isObject_negotiation hKerberos)⟩
    | wrapped hOuter hObject hNegotiation hOffer hOctets hToken =>
      refine ⟨_, hOuter, ?_⟩
      unfold unwrap
      simp only [hObject, bind, Except.bind, hNegotiation, hOffer, hOctets, hToken, hNext, if_true]

/-- What stands behind the object names the service if it is an element with the tag 1 and an
element with the ticket. -/
theorem names_iff {left : Der} :
    Names left name ↔
      ∃ number content request element rest, left.content = number ++ request ++ rest ∧
        MayHold left.tag ∧ Der.WrittenAs ⟨1, content⟩ number ∧ Der.WrittenAs element request ∧
        ∃ ticket, (element.get ticketPath).1 = .ok ticket ∧ ticketName ticket = .ok name := by
  constructor
  · rintro ⟨⟨tag, content⟩, mid, hNumber, rfl, element, last, hRequest, ticket, hTicket, hName⟩
    obtain ⟨hTag, hMid, number, hNumber, hContent⟩ := Der.next_eq_ok_iff.mp hNumber
    obtain ⟨-, -, request, hRequest, hRest⟩ := Der.next_eq_ok_iff.mp hRequest
    refine ⟨number, content, request, element, last.content, ?_, hTag, hNumber, hRequest, ticket,
      hTicket, hName⟩
    rw [hContent, hRest, List.append_assoc]
  · rintro ⟨number, content, request, element, rest, hContent, hTag, hNumber, hRequest, ticket,
      hTicket, hName⟩
    rw [List.append_assoc] at hContent
    exact ⟨⟨1, content⟩, ⟨left.tag, request ++ rest⟩,
      Der.next_eq_ok_iff.mpr ⟨hTag, rfl, number, hNumber, hContent⟩, rfl, element,
      ⟨left.tag, rest⟩, Der.next_eq_ok_iff.mpr ⟨hTag, rfl, request, hRequest, rfl⟩, ticket, hTicket,
      hName⟩

/-- An element with the tag 1 that takes two bytes has no content, and its length is said in one of
two ways. -/
theorem eq_initialNumber_iff {number content : Bytes} (h : Der.WrittenAs ⟨1, content⟩ number) :
    number = [0x01, 0x00] ↔ number.length = 2 ∧ number ≠ [0x01, 0x80] := by
  constructor
  · rintro rfl
    decide
  · rintro ⟨hLength, hOther⟩
    obtain ⟨field, hField, rfl⟩ := h
    obtain ⟨n, hn⟩ : ∃ n, n = content.length := ⟨_, rfl⟩
    rw [← hn] at hField
    cases hField with
    | short hShort =>
      have hNone : content = [] := by
        rw [← List.length_eq_zero_iff]
        simpa using hLength
      subst hNone
      rw [hn]
      rfl
    | @long digits hDigits =>
      simp only [List.length_cons, List.length_append] at hLength
      have hNoDigits : digits = [] := List.length_eq_zero_iff.mp (by omega)
      have hNone : content = [] := List.length_eq_zero_iff.mp (by omega)
      subst hNoDigits hNone
      exact absurd rfl hOther

/-- **The number of a token is read as an element, and only its tag is looked at.** A name is read
from exactly those bytes that carry a token in which an element with the tag 1 stands behind the
object of the mechanism, and an element with a ticket for that name behind this one. Whatever stands
there with the tag 1, it is the number 01 00 of the first token of an exchange if and only if it
takes two bytes and these are not 01 80. -/
theorem number_unread (bytes : Bytes) (name : String) :
    (serverName bytes = .ok name ↔
      ∃ token number content request element rest, Carries bytes token ∧ MayHold token.tag ∧
        GoesOn token (number ++ request ++ rest) ∧ Der.WrittenAs ⟨1, content⟩ number ∧
        Der.WrittenAs element request ∧
        ∃ ticket, (element.get ticketPath).1 = .ok ticket ∧ ticketName ticket = .ok name) ∧
    ∀ token number content rest, GoesOn token (number ++ rest) →
      Der.WrittenAs ⟨1, content⟩ number →
        ((∃ rest', GoesOn token (0x01 :: 0x00 :: rest')) ↔
          number.length = 2 ∧ number ≠ [0x01, 0x80]) := by
  constructor
  · rw [serverName_eq_ok_iff]
    constructor
    · rintro ⟨outer, hOuter, object, left, hUnwrap, hObject, hNames⟩
      rw [isObject_iff] at hObject
      subst hObject
      obtain ⟨token, hCarries, hNext⟩ := unwrap_kerberos_iff.mp ⟨outer, hOuter, hUnwrap⟩
      obtain ⟨hTag, -, object, hObject, hContent⟩ := Der.next_eq_ok_iff.mp hNext
      obtain ⟨number, content, request, element, rest, hRest, -, hNumber, hRequest, hTicket⟩ :=
        names_iff.mp hNames
      exact ⟨token, number, content, request, element, rest, hCarries, hTag,
        ⟨object, hObject, hRest ▸ hContent⟩, hNumber, hRequest, hTicket⟩
    · rintro ⟨token, number, content, request, element, rest, hCarries, hTag,
        ⟨object, hObject, hContent⟩, hNumber, hRequest, hTicket⟩
      have hNext : token.next = (.ok ⟨Der.objectTag, kerberosObject⟩,
          ⟨token.tag, number ++ request ++ rest⟩) :=
        Der.next_eq_ok_iff.mpr ⟨hTag, rfl, object, hObject, hContent⟩
      obtain ⟨outer, hOuter, hUnwrap⟩ := unwrap_kerberos_iff.mpr ⟨token, hCarries, hNext⟩
      exact ⟨outer, hOuter, _, _, hUnwrap, isObject_iff.mpr rfl, names_iff.mpr
        ⟨number, content, request, element, rest, rfl, hTag, hNumber, hRequest, hTicket⟩⟩
  · intro token number content rest hGoesOn hNumber
    rw [← eq_initialNumber_iff hNumber]
    constructor
    · rintro ⟨rest', hInitial⟩
      have hSame : [0x01, 0x00] ++ rest' = number ++ rest := hInitial.unique hGoesOn
      have hWritten : Der.WrittenAs ⟨1, []⟩ [0x01, 0x00] := ⟨[0], .short (by decide), rfl⟩
      have hRead := Der.read_eq_ok_iff_writtenAs.mpr ⟨_, hWritten, hSame.symm⟩
      cases hRead.symm.trans (Der.read_eq_ok_iff_writtenAs.mpr ⟨number, hNumber, rfl⟩)
      exact (hWritten.unique hNumber hSame).1.symm
    · rintro rfl
      exact ⟨rest, hGoesOn⟩

/-- A Kerberos token with an element of one byte where the number of the token should be. -/
def unnumbered : Bytes :=
  [0x60, 0x45, 0x06, 0x09] ++ kerberosObject ++ [0x01, 0x01, 0xff] ++
    [0x6e, 0x35, 0x30, 0x33, 0xa0, 0x03, 0x02, 0x01, 0x05, 0xa1, 0x03, 0x02, 0x01, 0x0e, 0xa3, 0x27,
      0x61, 0x25, 0x30, 0x23, 0xa0, 0x03, 0x02, 0x01, 0x05, 0xa1, 0x04, 0x1b, 0x02, 0x45, 0x58, 0xa2,
      0x16, 0x30, 0x14, 0xa0, 0x03, 0x02, 0x01, 0x03, 0xa1, 0x0d, 0x30, 0x0b, 0x1b, 0x04, 0x48, 0x54,
      0x54, 0x50, 0x1b, 0x03, 0x77, 0x65, 0x62]

theorem goesOn_unnumbered :
    GoesOn ⟨0x60, unnumbered.drop 2⟩ ([0x01, 0x01, 0xff] ++ unnumbered.drop 16) :=
  ⟨[0x06, 0x09] ++ kerberosObject, ⟨[9], .short (by decide), rfl⟩, rfl⟩

/-- The element of one byte passes for the number of the token, which it is not, and the number
itself passes in its place. -/
theorem number_unread_unnumbered :
    Der.WrittenAs ⟨1, [0xff]⟩ [0x01, 0x01, 0xff] ∧
    (∃ token number content request element rest, Carries unnumbered token ∧ MayHold token.tag ∧
      GoesOn token (number ++ request ++ rest) ∧ Der.WrittenAs ⟨1, content⟩ number ∧
      Der.WrittenAs element request ∧
      ∃ ticket, (element.get ticketPath).1 = .ok ticket ∧ ticketName ticket = .ok "HTTP/web@EX") ∧
    (¬ ∃ rest, GoesOn ⟨0x60, unnumbered.drop 2⟩ (0x01 :: 0x00 :: rest)) ∧
    ∃ rest, GoesOn ⟨0x60, [0x06, 0x09] ++ kerberosObject ++ [0x01, 0x00]⟩ (0x01 :: 0x00 :: rest) := by
  obtain ⟨hName, hNumber⟩ := number_unread unnumbered "HTTP/web@EX"
  have hOther : Der.WrittenAs ⟨1, [0xff]⟩ [0x01, 0x01, 0xff] := ⟨[1], .short (by decide), rfl⟩
  have hInitial : Der.WrittenAs ⟨1, []⟩ [0x01, 0x00] := ⟨[0], .short (by decide), rfl⟩
  have hGoesOn : GoesOn ⟨0x60, [0x06, 0x09] ++ kerberosObject ++ [0x01, 0x00]⟩
      ([0x01, 0x00] ++ []) :=
    ⟨[0x06, 0x09] ++ kerberosObject, ⟨[9], .short (by decide), rfl⟩, rfl⟩
  refine ⟨hOther, hName.mp (by decide +kernel), ?_, ?_⟩
  · rw [hNumber _ _ _ _ goesOn_unnumbered hOther]
    decide
  · exact (hNumber _ _ _ _ hGoesOn hInitial).mpr ⟨rfl, by decide⟩

/-- A name is read from a token that does not go on with the number 01 00. -/
theorem number_unread_other :
    serverName unnumbered = .ok "HTTP/web@EX" ∧
    ∃ token, Carries unnumbered token ∧ ¬ ∃ rest, GoesOn token (0x01 :: 0x00 :: rest) := by
  let token : Der := ⟨0x60, unnumbered.drop 2⟩
  have hToken : Der.parse unnumbered = .ok token := by decide +kernel
  have hNotWrapped : ¬ IsWrapped unnumbered := by
    rintro ⟨token', object, left, hToken', hNext, hNegotiation⟩
    cases hToken.symm.trans hToken'
    have hKerberos : token.next =
        (.ok ⟨Der.objectTag, kerberosObject⟩, ⟨0x60, unnumbered.drop 13⟩) := by
      decide +kernel
    cases hKerberos.symm.trans hNext
    exact absurd hNegotiation (by decide)
  refine ⟨by decide +kernel, token, .plain hToken hNotWrapped, ?_⟩
  rintro ⟨rest, hRest⟩
  cases goesOn_unnumbered.unique hRest

end SignOn.ServiceToken
