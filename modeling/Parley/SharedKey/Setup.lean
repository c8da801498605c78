import Parley.SharedKey.State

/-!
Initialisation of shared-key handlers: the client needs its user and the user's key at once, the
server takes at most a name.
-/

namespace Parley.SharedKey

variable {κ : Type} [KeyStore κ]

def refuse (handler : SharedKey) (reason : String) (supplies : Supplies κ) :
    Initialised (Supplies κ) SharedKey :=
  ⟨false, { handler with lifecycle := handler.lifecycle.refuse reason }, supplies⟩

def initClient (handler : SharedKey) (identity : Identity) (supplies : Supplies κ) :
    Initialised (Supplies κ) SharedKey :=
  match handler.lookup identity.name supplies with
  | (.found key, supplies) =>
    ⟨true,
      { handler with
        key := some key
        user := some identity.name
        lifecycle := handler.lifecycle.bind (some identity) .client },
      supplies⟩
  | (.missing, supplies) => handler.refuse ("no key for user " ++ identity.name) supplies
  | (.locked seconds, supplies) =>
    handler.refuse
      ("key for user " ++ identity.name ++ " is locked, retry in " ++ toString seconds ++ "s")
      supplies

def initServer (handler : SharedKey) (identity : Option Identity) : SharedKey :=
  { handler with
    serverName := (identity.map Identity.name).getD handler.serverName
    lifecycle := handler.lifecycle.bind identity .server }

def init (handler : SharedKey) (identity : Option Identity) (role : Role)
    (supplies : Supplies κ) : Initialised (Supplies κ) SharedKey :=
  match identity.filter (fun identity => identity.protocol ≠ handler.protocol) with
  | some foreign =>
    handler.refuse ("identity " ++ foreign.text ++ " is not scoped to " ++ handler.protocol)
      supplies
  | none =>
    match role, identity with
    | .client, none => handler.refuse "client role requires an identity" supplies
    | .client, some identity => handler.initClient identity supplies
    | .server, identity => ⟨true, handler.initServer identity, supplies⟩

def attributeKey (attributes : Attributes) : Except Fault (Option SecretKey) :=
  match attributes.get? "key" with
  | none => .ok none
  | some text =>
    match SecretKey.ofHex text with
    | .error fault => .error fault
    | .ok key => .ok (some key)

def configuration (handler : SharedKey) (attributes : Attributes) :
    Except Fault (Identity × Role × Option SecretKey) :=
  match attributes.checkProtocol handler.protocol with
  | .error fault => .error fault
  | .ok () =>
    match attributes.required "user" with
    | .error fault => .error fault
    | .ok user =>
      match attributes.role with
      | .error fault => .error fault
      | .ok role =>
        match attributeKey attributes with
        | .error fault => .error fault
        | .ok key => .ok (⟨user, handler.protocol⟩, role, key)

def initFrom (handler : SharedKey) (attributes : Attributes) (supplies : Supplies κ) :
    Initialised (Supplies κ) SharedKey :=
  match handler.configuration attributes with
  | .error fault => handler.refuse fault.message supplies
  | .ok (identity, role, key) =>
    { handler with ownKey := key.or handler.ownKey }.init (some identity) role supplies

end Parley.SharedKey
