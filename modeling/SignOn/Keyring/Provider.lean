import SignOn.Fleet.Settings
import SignOn.Keyring.Source

/-!
# Choosing a source of secrets

The configuration names the kind of source, or the kind follows from the keys that are there: a
file before a secret, and random secrets if there is neither.
-/

namespace SignOn

/-- The kinds of sources of secrets. -/
inductive SecretKind where
  | constant
  | file
  | random
  | fleet
deriving DecidableEq, Repr

namespace SecretKind

/-- The key with the name of the kind. -/
def providerKey : String := "signer.secret.provider"

/-- The key with a fixed secret. -/
def secretKey : String := "signature.secret"

/-- The key with the path of the file that holds the secret. -/
def fileKey : String := "signature.secret.file"

/-- Reads the name of a kind, in any letter case. -/
def parse (name : String) : Result SecretKind :=
  let lower := Text.lowerAscii name
  if lower = "static" then .ok .constant
  else if lower = "file" then .ok .file
  else if lower = "random" then .ok .random
  else if lower = "coordinated" then .ok .fleet
  else misconfigured (.unknownProvider lower)

/-- The kind that follows from which keys are there. -/
def implied (props : Properties) : SecretKind :=
  if (props.get? fileKey).isSome then .file
  else if (props.get? secretKey).isSome then .constant
  else .random

/-- The kind that a configuration asks for. -/
def ofProperties (props : Properties) : Result SecretKind :=
  match props.getTrimmed? providerKey with
  | some name => if name = "" then .ok (implied props) else parse name
  | none => .ok (implied props)

end SecretKind

/-- What is known of a source before it is started. -/
inductive Provision where
  | constant (source : Source)
  | random
  | fleet (settings : StoreSettings)

namespace Provision

/-- The source whose secret is the text of a file without the line breaks at its end. -/
def ofFile (files : Files) (path : String) : Result Source :=
  match files.readText path with
  | .error fault => misconfigured (.unreadableSecretFile path fault.message)
  | .ok text =>
    let secret := (text.toList.reverse.dropWhile fun c => c == '\r' || c == '\n').reverse
    if secret.isEmpty then misconfigured (.emptySecretFile path)
    else Source.ofSecret (Text.Utf8.encode (String.ofList secret))

/-- Reads what a configuration says about the source. A fleet needs a store within reach. -/
def ofProperties (files : Files) (hasStore : Bool) (props : Properties) : Result Provision := do
  match ← SecretKind.ofProperties props with
  | .constant =>
    let secret ← props.require SecretKind.secretKey
    let source ← Source.ofSecret (Text.Utf8.encode secret)
    .ok (.constant source)
  | .file =>
    let path ← props.require SecretKind.fileKey
    let source ← ofFile files path
    .ok (.constant source)
  | .random => .ok .random
  | .fleet =>
    if hasStore then
      let settings ← StoreSettings.ofProperties files props
      .ok (.fleet settings)
    else misconfigured .noConnector

/-- The settings for the store, if the source needs one. -/
def settings? : Provision → Option StoreSettings
  | .fleet settings => some settings
  | .constant _ | .random => none

/-- Starts the source; rotating sources are scheduled once in the validity. `connect` reaches the
store. -/
def start {σ : Type} (provision : Provision)
    (connect : StoreSettings → Except StoreFault (Store σ)) (validity : Duration) (now : Int64)
    (generator : Generator) (clock : Nat) (s : σ) : Result Source × σ :=
  match provision with
  | .constant source => (.ok source, s)
  | .random => ((Source.startRandom generator).scheduled clock validity validity, s)
  | .fleet settings =>
    match connect settings with
    | .error fault => (.error (.ofStore fault), s)
    | .ok store => Source.joinFleet store settings.path validity now generator clock true s

end Provision

end SignOn
