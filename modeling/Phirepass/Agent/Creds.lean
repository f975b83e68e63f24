/-
# `Phirepass.Agent.Creds` — `agent/src/creds.rs`, and who uses the identity store

All hosts share one file, `state.json`, which holds one identity and the host
it is for.  `login`, `save_token` and the start of the agent strip the scheme
of the host they are given; `logout` hands it on as it is.

    load      refuses an identity that is for another host
    login     takes the keypair of the identity it can load, or a new one,
              and replaces what the file holds
    logout    deletes the file, if it could load the identity

The crates behind it are parameters (`Crates`), and what the machine and the
server do while an operation runs is a `Choice`.
-/
import Phirepass.Protocol.Frames

namespace Phirepass.Creds

open Rust

/-! ## What is stored -/

/-- An Ed25519 key. -/
abbrev Key : Type := { bytes : Bytes // bytes.length = 32 }

structure StoredState where
  nodeId : Uuid
  privateKey : String
  publicKey : String
  serverHost : String
  deriving DecidableEq, Repr

/-- `StoredState::default()`. -/
def StoredState.default : StoredState := ⟨Uuid.nil, "", "", ""⟩

/-- The crates: JSON, Base64 and Ed25519. -/
structure Crates where
  /-- `serde_json::to_vec_pretty`. -/
  toVecPretty : StoredState → Option Bytes
  /-- `serde_json::from_slice`. -/
  fromSlice : Bytes → Option StoredState
  /-- `URL_SAFE_NO_PAD.encode`. -/
  encode : Bytes → String
  /-- `URL_SAFE_NO_PAD.decode`. -/
  decode : String → Option Bytes
  /-- `SigningKey::verifying_key`. -/
  verifyingKey : Key → Key

/-- What was written is read back. -/
structure Crates.Lawful (C : Crates) : Prop where
  json : ∀ state bytes, C.toVecPretty state = some bytes → C.fromSlice bytes = some state
  base64 : ∀ bytes, C.decode (C.encode bytes) = some bytes

/-- What the machine and the server do during one operation. -/
structure Choice where
  /-- The access token that was read. -/
  pat : Option String := some ""
  /-- `whoami::username` and `TokenStore::new` succeed. -/
  username : Bool := true
  projectDirs : Bool := true
  /-- `fs::read` fails only where there is no file. -/
  readable : Bool := true
  /-- The file can be replaced, or removed. -/
  writable : Bool := true
  /-- The text of an I/O error. -/
  ioError : String := ""
  /-- What `OsRng` comes up with. -/
  signingKey : Key := ⟨List.replicate 32 0, List.length_replicate⟩
  /-- The node id the server answers a claim with. -/
  claim : Option Uuid := none

/-! ## `TokenStore` -/

/-- `TokenStore`; its `state_path` is the same for every service. -/
structure TokenStore where
  service : String

/-- `TokenStore::new`. -/
def TokenStore.new (service : String) (o : Choice) : Except String TokenStore :=
  if o.projectDirs then .ok ⟨service⟩ else .error o.ioError

/-- `load_state_from_file`: a file that cannot be parsed is none. -/
def loadStateFromFile (C : Crates) (o : Choice) (file : Option Bytes) :
    Except String (Option StoredState) :=
  if o.readable then
    match file with
    | some bytes => .ok (C.fromSlice bytes)
    | none => .ok none
  else .error o.ioError

/-- `validate_b64_len`. -/
def validateB64Len (C : Crates) (value : String) (expectedLen : Nat) (field : String) :
    Except String Unit :=
  match C.decode value with
  | none => .error s!"failed to decode {field}"
  | some decoded =>
      if decoded.length ≠ expectedLen then
        .error s!"{field} decoded to {decoded.length} bytes, expected {expectedLen}"
      else .ok ()

/-- `TokenStore::load`. -/
def TokenStore.load (C : Crates) (ts : TokenStore) (o : Choice) (file : Option Bytes) :
    Except String StoredState :=
  match loadStateFromFile C o file with
  | .error err => .error err
  | .ok loaded =>
      let state := loaded.getD StoredState.default
      if state.serverHost ≠ "" ∧ state.serverHost ≠ ts.service then
        .error s!"Server mismatch: identity is for '{state.serverHost}' but attempting to connect to '{ts.service}'"
      else if state.nodeId = Uuid.nil then .error "stored node_id is nil; run login first"
      else
        match validateB64Len C state.privateKey 32 "private_key" with
        | .error err => .error err
        | .ok () =>
            match validateB64Len C state.publicKey 32 "public_key" with
            | .error err => .error err
            | .ok () => .ok state

/-- `save_state`: the file is replaced as a whole, or stays. -/
def saveState (C : Crates) (o : Choice) (state : StoredState) (file : Option Bytes) :
    Except String Unit × Option Bytes :=
  match C.toVecPretty state with
  | none => (.error o.ioError, file)
  | some bytes => if o.writable then (.ok (), some bytes) else (.error o.ioError, file)

/-- `TokenStore::save_identity`. -/
def TokenStore.saveIdentity (C : Crates) (ts : TokenStore) (o : Choice) (nodeId : Uuid)
    (privateKey publicKey : String) (file : Option Bytes) : Except String Unit × Option Bytes :=
  saveState C o ⟨nodeId, privateKey, publicKey, ts.service⟩ file

/-- `TokenStore::delete`; there being no file is no error. -/
def TokenStore.delete (o : Choice) (file : Option Bytes) : Except String Unit × Option Bytes :=
  match file with
  | none => (.ok (), none)
  | some bytes => if o.writable then (.ok (), none) else (.error o.ioError, some bytes)

/-! ## `agent/src/agent.rs` -/

structure LocalIdentity where
  privateKey : String
  publicKey : String

/-- `generate_identity`. -/
def generateIdentity (C : Crates) (o : Choice) : LocalIdentity :=
  ⟨C.encode o.signingKey.1, C.encode (C.verifyingKey o.signingKey).1⟩

/-- `split_once("://")`, and what is behind it; or the host as it is. -/
def stripScheme (serverHost : String) : String :=
  match splitOnceStr serverHost "://" with
  | some (_, rest) => rest
  | none => serverHost

/-- The identity to claim the node with: the one that is there for the host, or a new one. -/
def reuseIdentity (C : Crates) (ts : TokenStore) (o : Choice) (file : Option Bytes) :
    LocalIdentity :=
  match ts.load C o file with
  | .ok stored => ⟨stored.privateKey, stored.publicKey⟩
  | .error _ => generateIdentity C o

/-- `bootstrap_identity`. -/
def bootstrapIdentity (C : Crates) (serverHost : String) (o : Choice) (file : Option Bytes) :
    Except String Unit × Option Bytes :=
  if o.username then
    match TokenStore.new serverHost o with
    | .error err => (.error err, file)
    | .ok ts =>
        let identity := reuseIdentity C ts o file
        match o.claim with
        | none => (.error "failed to claim node identity", file)
        | some nodeId =>
            match ts.saveIdentity C o nodeId identity.privateKey identity.publicKey file with
            | (.error _, file) => (.error "failed to persist local node identity", file)
            | (.ok (), file) => (.ok (), file)
  else (.error o.ioError, file)

/-- `login`. -/
def login (C : Crates) (serverHost : String) (o : Choice) (file : Option Bytes) :
    Except String Unit × Option Bytes :=
  match o.pat with
  | none => (.error o.ioError, file)
  | some _ => bootstrapIdentity C (stripScheme serverHost) o file

/-- `save_token`, behind the reading of the token in `main`. -/
def saveToken (C : Crates) (serverHost : String) (o : Choice) (file : Option Bytes) :
    Except String Unit × Option Bytes :=
  match o.pat with
  | none => (.error o.ioError, file)
  | some _ => bootstrapIdentity C (stripScheme serverHost) o file

/-- `load_creds_for_server`. -/
def loadCredsForServer (C : Crates) (serverHost : String) (o : Choice) (file : Option Bytes) :
    Option (String × StoredState) :=
  match TokenStore.new serverHost o with
  | .error _ => none
  | .ok ts =>
      match ts.load C o file with
      | .ok state => some (serverHost, state)
      | .error _ => none

/-- What `start_ws_connection` loads before it connects. -/
def startLoad (C : Crates) (serverHost : String) (o : Choice) (file : Option Bytes) :
    Option (String × StoredState) :=
  loadCredsForServer C (stripScheme serverHost) o file

/-- `logout`. -/
def logout (C : Crates) (serverHost : String) (o : Choice) (file : Option Bytes) :
    Except String Unit × Option Bytes :=
  match TokenStore.new serverHost o with
  | .error err => (.error err, file)
  | .ok ts =>
      match ts.load C o file with
      | .error _ => (.error "no active login found - please login first", file)
      | .ok _ =>
          match TokenStore.delete o file with
          | (.error _, file) => (.error "failed to delete local identity", file)
          | (.ok (), file) => (.ok (), file)

end Phirepass.Creds
