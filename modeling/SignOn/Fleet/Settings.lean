import SignOn.Files
import SignOn.Properties

/-!
# Settings for the store of a fleet

Where the store is, under which path the record of the fleet is, and how a process identifies
itself to the store. A process that is to identify itself needs a principal and a keytab; without
them setup fails, so that it never goes on without identification.
-/

namespace SignOn

/-- How a process identifies itself to the store. -/
inductive StoreAuth where
  | none
  | sasl (principal keytab : String)
deriving DecidableEq, Repr

/-- How a store is reached. -/
structure StoreSettings where
  connection : String
  path : String
  auth : StoreAuth := .none
deriving DecidableEq, Repr

namespace StoreSettings

/-- The key with the address of the store. -/
def connectionKey : String := "signer.secret.provider.store.connection.string"

/-- The key with the path of the record in the store. -/
def pathKey : String := "signer.secret.provider.store.path"

/-- The key that says how a process identifies itself. -/
def authKey : String := "signer.secret.provider.store.auth.type"

/-- The key with the keytab of the process. -/
def keytabKey : String := "signer.secret.provider.store.kerberos.keytab"

/-- The key with the principal of the process. -/
def principalKey : String := "signer.secret.provider.store.kerberos.principal"

/-- The store that is used when the configuration names none. -/
def defaultConnection : String := "localhost:2181"

/-- Reads how a process identifies itself to the store. -/
def authOf (files : Files) (props : Properties) : Result StoreAuth := do
  let kind := Text.lowerAscii (Text.trim (props.getD authKey "none"))
  if kind = "none" then .ok .none
  else if kind = "sasl" then
    let principal ← props.require principalKey
    let keytab ← props.require keytabKey
    if files.has keytab then .ok (.sasl principal keytab)
    else misconfigured (.missingStoreKeytab keytab)
  else misconfigured (.badStoreAuth authKey kind)

/-- Reads the settings from a configuration. -/
def ofProperties (files : Files) (props : Properties) : Result StoreSettings := do
  let path ← props.require pathKey
  let auth ← authOf files props
  .ok { connection := Text.trim (props.getD connectionKey defaultConnection), path, auth }

end StoreSettings

end SignOn
