import SignOn.Kerberos.Der

/-!
# The service a token is for

The first token of a Kerberos exchange carries a ticket for one service. The name of the service is
read here without any key, so that the right credentials can be chosen before the token is handed
to the security provider. The token may be wrapped for the negotiation of mechanisms.
-/

namespace SignOn.ServiceToken

open SignOn.Text (Bytes)

/-- The object 1.3.6.1.5.5.2: the negotiation of mechanisms. -/
def negotiationObject : Bytes := [0x2b, 0x06, 0x01, 0x05, 0x05, 0x02]

/-- The object 1.2.840.113554.1.2.2: the Kerberos mechanism. -/
def kerberosObject : Bytes := [0x2a, 0x86, 0x48, 0x86, 0xf7, 0x12, 0x01, 0x02, 0x02]

/-- The object 1.2.840.113554.1.2.2.1: the names of Kerberos principals. -/
def principalObject : Bytes := [0x2a, 0x86, 0x48, 0x86, 0xf7, 0x12, 0x01, 0x02, 0x02, 0x01]

/-- The path from a wrapped token to the token inside: the sequence of the offer, and in it the
token for the preferred mechanism. -/
def wrappedPath : List UInt8 := [0xa0, 0x30, 0xa2, Der.octetsTag]

/-- The path from a request to its ticket. -/
def ticketPath : List UInt8 := [0x6e, 0x30, 0xa3, 0x61, 0x30]

/-- The path from a ticket to the realm of its service. -/
def realmPath : List UInt8 := [0xa1, 0x1b]

/-- The path from a ticket to the parts of the name of its service. -/
def namePath : List UInt8 := [0xa2, 0x30, 0xa1, 0x30]

/-- Takes the object identifier off a token, after unwrapping the token if it is wrapped. -/
def unwrap (token : Der) : Except DerFault (Der × Der) := do
  let (object, token) := token.next
  let object ← object
  if object.isObject negotiationObject then
    let offer ← token.next.1
    let octets ← (offer.get wrappedPath).1
    let inner ← octets.next.1
    let (object, rest) := inner.next
    .ok (← object, rest)
  else .ok (object, token)

/-- The name of the service that a ticket is for: its parts joined by slashes, and the realm. -/
def ticketName (ticket : Der) : Except DerFault String := do
  let (found, ticket) := ticket.get realmPath
  let realm ← (← found).text
  let names ← (ticket.get namePath).1
  let parts ← names.texts
  .ok ("/".intercalate parts ++ "@" ++ realm)

/-- Turns a fault of an element into one of the negotiation. -/
def inToken {α : Type} (result : Except DerFault α) : Except NegotiationFault α :=
  result.mapError .der

/-- The name of the service that a token is for. -/
def serverName (bytes : Bytes) : Except NegotiationFault String := do
  let token ← inToken (Der.parse bytes)
  let (object, token) ← inToken (unwrap token)
  if !object.isObject kerberosObject then .error .otherMechanism
  -- The number of the first token of an exchange, 01 00, reads as an element without content.
  let (number, token) := token.next
  if (← inToken number).tag ≠ 1 then .error .notInitial
  let request ← inToken token.next.1
  let ticket ← inToken (request.get ticketPath).1
  inToken (ticketName ticket)

end SignOn.ServiceToken
