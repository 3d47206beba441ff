import SignOn.Client.Basic
import SignOn.Endpoint.Service
import SignOn.Fleet.Outage
import SignOn.Kerberos.RuleSet
import SignOn.Kerberos.ServiceToken
import SignOn.Keyring.Group
import SignOn.Keyring.Provider
import SignOn.Session.Signature
import SignOn.Session.Token
import SignOn.Proofs.Endpoint.Admission
import SignOn.Proofs.Fleet.History
import SignOn.Proofs.Fleet.Lineage
import SignOn.Proofs.Fleet.Round
import SignOn.Proofs.Fleet.Outages
import SignOn.Proofs.Fleet.Renewal
import SignOn.Proofs.Keyring.Grace
import SignOn.Proofs.Keyring.NonEmpty
import SignOn.Proofs.Keyring.Timing
import SignOn.Proofs.Kerberos.ServiceToken
import SignOn.Proofs.Session.RoundTrip
import SignOn.Proofs.Endpoint.Lifetime
import SignOn.Proofs.Endpoint.Scheme
import SignOn.Proofs.Endpoint.Negotiation
import SignOn.Proofs.Client.Replay
import SignOn.Proofs.Client.Exchange
import SignOn.Proofs.Client.Attempt
import SignOn.Proofs.Client.FailedLogin
import SignOn.Proofs.Fleet.FirstDelay
import SignOn.Proofs.Fleet.Joining
import SignOn.Proofs.Endpoint.Deadlines
import SignOn.Proofs.Endpoint.Refusal
import SignOn.Proofs.Session.Grammar
import SignOn.Proofs.Endpoint.Directory
import SignOn.Proofs.Endpoint.Secrecy
import SignOn.Proofs.Endpoint.Nobody
import SignOn.Proofs.Kerberos.Name
import SignOn.Proofs.Kerberos.RuleGrammar
import SignOn.Proofs.Kerberos.RulePrinting
import SignOn.Proofs.Kerberos.RuleOrder
import SignOn.Proofs.Endpoint.ShortName
import SignOn.Proofs.Endpoint.Dispatch
import SignOn.Proofs.Endpoint.Registry
import SignOn.Proofs.Http.Percent
import SignOn.Proofs.Http.Form
import SignOn.Proofs.Http.Url
import SignOn.Proofs.Client.Claim
import SignOn.Proofs.Client.TokenFields
import SignOn.Proofs.Kerberos.InitialNumber
import SignOn.Proofs.Client.Quotes
import SignOn.Proofs.Client.Execution
import SignOn.Proofs.Endpoint.RegistryNames
import SignOn.Proofs.Fleet.NoLostUpdate
import SignOn.Proofs.Kerberos.Inside
