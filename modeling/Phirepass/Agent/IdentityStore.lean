/-
# `Phirepass.Agent.IdentityStore` — the identity store holds one identity

`Store` says what the one file is for: it is empty, or holds the identity of
one host, which was claimed by the last login that went through.  A login to
another host replaces it, and `TokenStore::load` refuses it to every host but
its own (`login_replaces_other_host`).

    file      --[ storeOf ]-->   Store
      |                            |
      | perform                    | after
      v                            v
    file      --[ storeOf ]-->   Store

`storeOf` reads the store off any file, so the square commutes whatever the
file was when the run began (`storeOf_apply`).  An identity bound to the empty
host is one for every host, as `load` has it.
-/
import Phirepass.Agent.Creds
import Phirepass.Rust.Base64

namespace Phirepass.Creds

open Rust

variable {C : Crates}

/-! ## What the file is for -/

/-- The text of a key: it decodes to 32 bytes. -/
def IsKeyText (C : Crates) (text : String) : Prop := (C.decode text).map List.length = some 32

instance (C : Crates) (text : String) : Decidable (IsKeyText C text) :=
  inferInstanceAs (Decidable (_ = _))

/-- A node id that was given out. -/
abbrev NodeId : Type := { id : Uuid // id ≠ Uuid.nil }

abbrev KeyText (C : Crates) : Type := { text : String // IsKeyText C text }

structure Keypair (C : Crates) where
  privateKey : KeyText C
  publicKey : KeyText C

structure Identity (C : Crates) where
  nodeId : NodeId
  keypair : Keypair C

/-- The host an identity is bound to, and the identity. -/
abbrev Store (C : Crates) : Type := Option (String × Identity C)

/-- The identity a host gets. -/
def Store.find (store : Store C) (host : String) : Option (Identity C) :=
  match store with
  | some (bound, identity) => if bound = "" ∨ bound = host then some identity else none
  | none => none

/-- `generate_identity`, with the proof that it generates keys. -/
def Keypair.generate (hC : C.Lawful) (o : Choice) : Keypair C where
  privateKey := ⟨C.encode o.signingKey.1, by
    rw [IsKeyText, hC.base64, Option.map_some, o.signingKey.2]⟩
  publicKey := ⟨C.encode (C.verifyingKey o.signingKey).1, by
    rw [IsKeyText, hC.base64, Option.map_some, (C.verifyingKey o.signingKey).2]⟩

/-! ## The operations -/

inductive Op where
  | login (serverHost : String)
  | saveToken (serverHost : String)
  | load (serverHost : String)
  | logout (serverHost : String)
  deriving DecidableEq, Repr

/-- Whether it succeeds, and the file it leaves. -/
def Op.apply (C : Crates) (op : Op) (o : Choice) (file : Option Bytes) : Bool × Option Bytes :=
  match op with
  | .login host => ((Creds.login C host o file).1.isOk, (Creds.login C host o file).2)
  | .saveToken host => ((Creds.saveToken C host o file).1.isOk, (Creds.saveToken C host o file).2)
  | .load host => ((startLoad C host o file).isSome, file)
  | .logout host => ((Creds.logout C host o file).1.isOk, (Creds.logout C host o file).2)

/-- One operation after the other: which went through, and the file in the end. -/
def perform (C : Crates) : List (Op × Choice) → Option Bytes → List (Op × Choice × Bool) × Option Bytes
  | [], file => ([], file)
  | (op, o) :: ops, file =>
      let result := op.apply C o file
      let rest := perform C ops result.2
      ((op, o, result.1) :: rest.1, rest.2)

/-- The keys a login claims the node with. -/
def Store.keysFor (hC : C.Lawful) (store : Store C) (host : String) (o : Choice) : Keypair C :=
  match if o.readable then store.find host else none with
  | some identity => identity.keypair
  | none => Keypair.generate hC o

/-- What a login leaves: the identity the server answered with, bound to the host. -/
def Store.bind (hC : C.Lawful) (store : Store C) (host : String) (o : Choice) : Store C :=
  match o.claim with
  | some id =>
      if h : id ≠ Uuid.nil then some (host, ⟨⟨id, h⟩, store.keysFor hC host o⟩) else none
  | none => store

/-- What an operation leaves. -/
def Store.after (hC : C.Lawful) (store : Store C) : Op × Choice × Bool → Store C
  | (.login host, o, true) => store.bind hC (stripScheme host) o
  | (.saveToken host, o, true) => store.bind hC (stripScheme host) o
  | (.logout _, _, true) => none
  | (.load _, _, true) => store
  | (_, _, false) => store

/-! ## The store that is read off a file -/

/-- The identity in a state that `load` does not refuse for what it is. -/
def StoredState.identity (C : Crates) (state : StoredState) : Option (Identity C) :=
  if hid : state.nodeId ≠ Uuid.nil then
    if hpriv : IsKeyText C state.privateKey then
      if hpub : IsKeyText C state.publicKey then
        some ⟨⟨state.nodeId, hid⟩, ⟨⟨state.privateKey, hpriv⟩, ⟨state.publicKey, hpub⟩⟩⟩
      else none
    else none
  else none

def storeOf (C : Crates) (file : Option Bytes) : Store C := do
  let bytes ← file
  let state ← C.fromSlice bytes
  let identity ← state.identity C
  return (state.serverHost, identity)

/-- The state that holds an identity. -/
def Identity.stored (identity : Identity C) (host : String) : StoredState where
  nodeId := identity.nodeId.1
  privateKey := identity.keypair.privateKey.1
  publicKey := identity.keypair.publicKey.1
  serverHost := host

theorem identity_stored (identity : Identity C) (host : String) :
    (identity.stored host).identity C = some identity := by
  have hid : (identity.stored host).nodeId ≠ Uuid.nil := identity.nodeId.2
  have hpriv : IsKeyText C (identity.stored host).privateKey := identity.keypair.privateKey.2
  have hpub : IsKeyText C (identity.stored host).publicKey := identity.keypair.publicKey.2
  rw [StoredState.identity, dif_pos hid, dif_pos hpriv, dif_pos hpub]
  rfl

theorem stored_of_identity {state : StoredState} {identity : Identity C}
    (h : state.identity C = some identity) : identity.stored state.serverHost = state := by
  unfold StoredState.identity at h
  split at h
  · split at h
    · split at h
      · cases h
        rfl
      · cases h
    · cases h
  · cases h

/-! ## `load` -/

/-- `validate_b64_len` accepts the text of a key and nothing else. -/
theorem validateB64Len_eq {text : String} (field : String) (hkey : IsKeyText C text) :
    validateB64Len C text 32 field = .ok () := by
  unfold IsKeyText at hkey
  unfold validateB64Len
  cases hd : C.decode text with
  | none =>
      rw [hd] at hkey
      cases hkey
  | some decoded =>
      rw [hd, Option.map_some, Option.some.injEq] at hkey
      simp only [ne_eq, hkey, not_true_eq_false, if_false]

theorem validateB64Len_refuses {text : String} (field : String) (hkey : ¬ IsKeyText C text) :
    ∃ err, validateB64Len C text 32 field = .error err := by
  unfold IsKeyText at hkey
  unfold validateB64Len
  cases hd : C.decode text with
  | none => exact ⟨_, rfl⟩
  | some decoded =>
      rw [hd, Option.map_some, Option.some.injEq] at hkey
      simp only [ne_eq, hkey, not_false_eq_true, if_true]
      exact ⟨_, rfl⟩

/-- What `load` does with a state it has read, but for the host. -/
def StoredState.check (C : Crates) (state : StoredState) : Except String StoredState :=
  if state.nodeId = Uuid.nil then .error "stored node_id is nil; run login first"
  else
    match validateB64Len C state.privateKey 32 "private_key" with
    | .error err => .error err
    | .ok () =>
        match validateB64Len C state.publicKey 32 "public_key" with
        | .error err => .error err
        | .ok () => .ok state

theorem check_stored (identity : Identity C) (host : String) :
    (identity.stored host).check C = .ok (identity.stored host) := by
  have hid : ¬ (identity.stored host).nodeId = Uuid.nil := identity.nodeId.2
  have hpriv := validateB64Len_eq "private_key" identity.keypair.privateKey.2
  have hpub := validateB64Len_eq "public_key" identity.keypair.publicKey.2
  rw [StoredState.check, if_neg hid]
  show (match validateB64Len C identity.keypair.privateKey.1 32 "private_key" with
    | .error err => _
    | .ok () => _) = _
  rw [hpriv]
  show (match validateB64Len C identity.keypair.publicKey.1 32 "public_key" with
    | .error err => _
    | .ok () => _) = _
  rw [hpub]

theorem check_refuses {state : StoredState} (h : state.identity C = none) :
    ∃ err, state.check C = .error err := by
  unfold StoredState.check
  split
  · exact ⟨_, rfl⟩
  · rename_i hid
    by_cases hpriv : IsKeyText C state.privateKey
    · rw [validateB64Len_eq _ hpriv]
      have hpub : ¬ IsKeyText C state.publicKey := by
        intro hpub
        rw [StoredState.identity, dif_pos hid, dif_pos hpriv, dif_pos hpub] at h
        cases h
      obtain ⟨err, herr⟩ := validateB64Len_refuses "public_key" hpub
      exact ⟨err, by simp only [herr]⟩
    · obtain ⟨err, herr⟩ := validateB64Len_refuses "private_key" hpriv
      exact ⟨err, by simp only [herr]⟩

/-- The state that a readable file stands for. -/
def stateOf (C : Crates) (file : Option Bytes) : StoredState :=
  (file.bind C.fromSlice).getD StoredState.default

theorem load_readable (ts : TokenStore) {o : Choice} (file : Option Bytes)
    (hread : o.readable = true) :
    ts.load C o file =
      if (stateOf C file).serverHost ≠ "" ∧ (stateOf C file).serverHost ≠ ts.service then
        .error s!"Server mismatch: identity is for '{(stateOf C file).serverHost}' but attempting to connect to '{ts.service}'"
      else (stateOf C file).check C := by
  unfold TokenStore.load loadStateFromFile
  rw [if_pos hread]
  cases file <;> rfl

theorem storeOf_eq (C : Crates) (file : Option Bytes) :
    storeOf C file = ((stateOf C file).identity C).map ((stateOf C file).serverHost, ·) := by
  have hdefault : StoredState.default.identity C = none := rfl
  cases file with
  | none => rfl
  | some bytes =>
      unfold storeOf stateOf
      cases hparse : C.fromSlice bytes with
      | none => simp [hparse, hdefault]
      | some state =>
          cases hid : state.identity C <;> simp [hparse, hid]

/-- `load` hands out what the store holds for the host. -/
theorem load_of_find (ts : TokenStore) {o : Choice} {file : Option Bytes} {identity : Identity C}
    (hread : o.readable = true) (hfind : (storeOf C file).find ts.service = some identity) :
    ∃ bound, ts.load C o file = .ok (identity.stored bound) := by
  rw [storeOf_eq] at hfind
  cases hid : (stateOf C file).identity C with
  | none =>
      rw [hid] at hfind
      cases hfind
  | some held =>
      rw [hid, Option.map_some, Store.find] at hfind
      split at hfind
      · rename_i hhost
        cases hfind
        have hmatch : ¬ ((stateOf C file).serverHost ≠ "" ∧
            (stateOf C file).serverHost ≠ ts.service) := by
          rintro ⟨hne, hne'⟩
          exact hhost.elim hne hne'
        refine ⟨(stateOf C file).serverHost, ?_⟩
        rw [load_readable ts file hread, if_neg hmatch, ← stored_of_identity hid, check_stored]
        rfl
      · cases hfind

/-- It refuses a host the store holds nothing for. -/
theorem load_of_find_none (ts : TokenStore) (o : Choice) {file : Option Bytes}
    (hfind : (storeOf C file).find ts.service = none) :
    ∃ err, ts.load C o file = .error err := by
  by_cases hread : o.readable = true
  · rw [load_readable ts file hread]
    split
    · exact ⟨_, rfl⟩
    · rename_i hmatch
      apply check_refuses
      rw [storeOf_eq] at hfind
      cases hid : (stateOf C file).identity C with
      | none => rfl
      | some held =>
          have hhost : (stateOf C file).serverHost = "" ∨
              (stateOf C file).serverHost = ts.service := by
            by_contra hne
            exact hmatch (not_or.mp hne)
          rw [hid, Option.map_some, Store.find, if_pos hhost] at hfind
          cases hfind
  · unfold TokenStore.load loadStateFromFile
    rw [if_neg hread]
    exact ⟨_, rfl⟩

/-! ## One operation -/

/-- Nothing keeps the store from being opened and read. -/
structure Choice.Opens (o : Choice) : Prop where
  projectDirs : o.projectDirs = true
  readable : o.readable = true

/-- The keys a login claims with are those of the store. -/
theorem reuseIdentity_eq (hC : C.Lawful) (host : String) (o : Choice) (file : Option Bytes) :
    reuseIdentity C ⟨host⟩ o file =
      ⟨((storeOf C file).keysFor hC host o).privateKey.1,
        ((storeOf C file).keysFor hC host o).publicKey.1⟩ := by
  unfold reuseIdentity Store.keysFor
  by_cases hread : o.readable = true
  · rw [if_pos hread]
    cases hfind : (storeOf C file).find host with
    | none =>
        obtain ⟨err, herr⟩ := load_of_find_none ⟨host⟩ o hfind
        rw [herr]
        rfl
    | some identity =>
        obtain ⟨bound, hload⟩ := load_of_find ⟨host⟩ hread hfind
        rw [hload]
        rfl
  · rw [if_neg hread]
    unfold TokenStore.load loadStateFromFile
    rw [if_neg hread]
    rfl

/-- What `save_identity` wrote is what the store holds. -/
theorem storeOf_saved (hC : C.Lawful) {state : StoredState} {bytes : Bytes}
    (hbytes : C.toVecPretty state = some bytes) :
    storeOf C (some bytes) = (state.identity C).map (state.serverHost, ·) := by
  have hstate : stateOf C (some bytes) = state := by
    show (C.fromSlice bytes).getD _ = state
    rw [hC.json state bytes hbytes]
    rfl
  rw [storeOf_eq, hstate]

theorem identity_written (hC : C.Lawful) (store : Store C) (host : String) (o : Choice)
    (id : Uuid) :
    (StoredState.identity C ⟨id, (store.keysFor hC host o).privateKey.1,
        (store.keysFor hC host o).publicKey.1, host⟩).map (host, ·) =
      if h : id ≠ Uuid.nil then some (host, ⟨⟨id, h⟩, store.keysFor hC host o⟩) else none := by
  by_cases hid : id ≠ Uuid.nil
  · rw [dif_pos hid]
    exact congrArg (Option.map (host, ·))
      (identity_stored (C := C) ⟨⟨id, hid⟩, store.keysFor hC host o⟩ host)
  · rw [dif_neg hid, StoredState.identity, dif_neg hid]
    rfl

/-- A claim that went through binds the identity; a claim that did not leaves the file. -/
theorem bootstrapIdentity_store (hC : C.Lawful) (host : String) (o : Choice)
    (file : Option Bytes) :
    (bootstrapIdentity C host o file).1 = .ok () ∧
        storeOf C (bootstrapIdentity C host o file).2 = (storeOf C file).bind hC host o ∨
      (∃ err, (bootstrapIdentity C host o file).1 = .error err) ∧
        (bootstrapIdentity C host o file).2 = file := by
  unfold bootstrapIdentity
  split
  · unfold TokenStore.new
    split
    · rename_i herr
      split at herr
      · cases herr
      · exact .inr ⟨⟨_, rfl⟩, rfl⟩
    · rename_i ts hts
      split at hts
      · cases hts
        rw [reuseIdentity_eq hC]
        cases hclaim : o.claim with
        | none => exact .inr ⟨⟨_, rfl⟩, rfl⟩
        | some id =>
            simp only [TokenStore.saveIdentity, saveState]
            cases hbytes : C.toVecPretty _ with
            | none => exact .inr ⟨⟨_, rfl⟩, rfl⟩
            | some bytes =>
                cases hwrite : o.writable with
                | false => exact .inr ⟨⟨_, rfl⟩, rfl⟩
                | true =>
                    refine .inl ⟨rfl, ?_⟩
                    show storeOf C (some bytes) = _
                    rw [storeOf_saved hC hbytes, Store.bind, hclaim]
                    exact identity_written hC (storeOf C file) host o id
      · cases hts
  · exact .inr ⟨⟨_, rfl⟩, rfl⟩

theorem login_store (hC : C.Lawful) (host : String) (o : Choice) (file : Option Bytes) :
    (login C host o file).1 = .ok () ∧
        storeOf C (login C host o file).2 = (storeOf C file).bind hC (stripScheme host) o ∨
      (∃ err, (login C host o file).1 = .error err) ∧ (login C host o file).2 = file := by
  unfold login
  cases o.pat with
  | none => exact .inr ⟨⟨_, rfl⟩, rfl⟩
  | some pat => exact bootstrapIdentity_store hC (stripScheme host) o file

theorem saveToken_store (hC : C.Lawful) (host : String) (o : Choice) (file : Option Bytes) :
    (saveToken C host o file).1 = .ok () ∧
        storeOf C (saveToken C host o file).2 = (storeOf C file).bind hC (stripScheme host) o ∨
      (∃ err, (saveToken C host o file).1 = .error err) ∧ (saveToken C host o file).2 = file :=
  login_store hC host o file

/-- A logout empties the store, or leaves the file as it is. -/
theorem logout_store (C : Crates) (host : String) (o : Choice) (file : Option Bytes) :
    (logout C host o file).1 = .ok () ∧ storeOf C (logout C host o file).2 = none ∨
      (∃ err, (logout C host o file).1 = .error err) ∧ (logout C host o file).2 = file := by
  unfold logout
  split
  · exact .inr ⟨⟨_, rfl⟩, rfl⟩
  · split
    · exact .inr ⟨⟨_, rfl⟩, rfl⟩
    · unfold TokenStore.delete
      cases file with
      | none => exact .inl ⟨rfl, rfl⟩
      | some bytes =>
          cases o.writable with
          | false => exact .inr ⟨⟨_, rfl⟩, rfl⟩
          | true => exact .inl ⟨rfl, rfl⟩

/-- The square commutes for one operation. -/
theorem storeOf_apply (hC : C.Lawful) (op : Op) (o : Choice) (file : Option Bytes) :
    storeOf C (op.apply C o file).2 =
      (storeOf C file).after hC (op, o, (op.apply C o file).1) := by
  cases op with
  | login host =>
      obtain ⟨hok, hstore⟩ | ⟨⟨err, herr⟩, hfile⟩ := login_store hC host o file
      · simp only [Op.apply, hok, Except.isOk, Except.toBool, Store.after, hstore]
      · simp only [Op.apply, herr, Except.isOk, Except.toBool, Store.after, hfile]
  | saveToken host =>
      obtain ⟨hok, hstore⟩ | ⟨⟨err, herr⟩, hfile⟩ := saveToken_store hC host o file
      · simp only [Op.apply, hok, Except.isOk, Except.toBool, Store.after, hstore]
      · simp only [Op.apply, herr, Except.isOk, Except.toBool, Store.after, hfile]
  | load host =>
      show storeOf C file = _
      cases hload : (Op.apply C (.load host) o file).1 <;> rfl
  | logout host =>
      obtain ⟨hok, hstore⟩ | ⟨⟨err, herr⟩, hfile⟩ := logout_store C host o file
      · simp only [Op.apply, hok, Except.isOk, Except.toBool, Store.after, hstore]
      · simp only [Op.apply, herr, Except.isOk, Except.toBool, Store.after, hfile]

/-! ## Whole runs -/

/-- What a history of operations leaves. -/
def Store.afterAll (hC : C.Lawful) (store : Store C) (history : List (Op × Choice × Bool)) :
    Store C :=
  history.foldl (Store.after hC) store

theorem storeOf_perform (hC : C.Lawful) (ops : List (Op × Choice)) (file : Option Bytes) :
    storeOf C (perform C ops file).2 = (storeOf C file).afterAll hC (perform C ops file).1 := by
  induction ops generalizing file with
  | nil => rfl
  | cons step ops ih =>
      obtain ⟨op, o⟩ := step
      show storeOf C (perform C ops (op.apply C o file).2).2 = _
      rw [ih, storeOf_apply hC]
      rfl

/-- What `load` yields of a state, and what a login puts in. -/
def StoredState.credentials (state : StoredState) : Uuid × String × String :=
  (state.nodeId, state.privateKey, state.publicKey)

def Identity.credentials (identity : Identity C) : Uuid × String × String :=
  (identity.nodeId.1, identity.keypair.privateKey.1, identity.keypair.publicKey.1)

theorem startLoad_credentials {o : Choice} (ho : o.Opens) (host : String)
    (file : Option Bytes) :
    (startLoad C host o file).map (fun loaded => (loaded.1, loaded.2.credentials)) =
      ((storeOf C file).find (stripScheme host)).map
        fun identity => (stripScheme host, identity.credentials) := by
  unfold startLoad loadCredsForServer TokenStore.new
  rw [if_pos ho.projectDirs]
  dsimp only
  cases hfind : (storeOf C file).find (stripScheme host) with
  | none =>
      obtain ⟨err, herr⟩ := load_of_find_none ⟨stripScheme host⟩ o hfind
      rw [herr]
      rfl
  | some identity =>
      obtain ⟨bound, hload⟩ := load_of_find ⟨stripScheme host⟩ ho.readable hfind
      rw [hload]
      rfl

/-- The host an identity has been bound to finds it. -/
theorem find_bind (hC : C.Lawful) (store : Store C) (host : String) {o : Choice} {id : Uuid}
    (hclaim : o.claim = some id) (hid : id ≠ Uuid.nil) :
    (store.bind hC host o).find host = some ⟨⟨id, hid⟩, store.keysFor hC host o⟩ := by
  simp only [Store.bind, hclaim, dif_pos hid, Store.find, or_true, if_true]

theorem keysFor_of_find (hC : C.Lawful) {store : Store C} {host : String} {o : Choice}
    {identity : Identity C} (hread : o.readable = true) (hfind : store.find host = some identity) :
    store.keysFor hC host o = identity.keypair := by
  simp only [Store.keysFor, hread, if_true, hfind]

/-- A logout that can delete the file succeeds exactly when the store holds an identity for its host. -/
theorem logout_ok_iff {o : Choice} (ho : o.Opens) (hwrite : o.writable = true) (host : String)
    (file : Option Bytes) :
    (logout C host o file).1 = .ok () ↔ ((storeOf C file).find host).isSome := by
  unfold logout TokenStore.new
  rw [if_pos ho.projectDirs]
  dsimp only
  cases hfind : (storeOf C file).find host with
  | none =>
      obtain ⟨err, herr⟩ := load_of_find_none ⟨host⟩ o hfind
      rw [herr]
      simp
  | some identity =>
      obtain ⟨bound, hload⟩ := load_of_find ⟨host⟩ ho.readable hfind
      rw [hload]
      unfold TokenStore.delete
      cases file <;> simp [hwrite]

/-- Whatever logins, saved tokens, loads and logouts the store has seen, whether they went
through or not: it holds what `after` says.  A load yields the identity of the last login,
if it was to the same host and no logout has come since; a login to that host again keeps
its keypair; a logout of a host named without a scheme succeeds exactly when its identity
is there. -/
theorem store_holds_last_login (hC : C.Lawful) (ops : List (Op × Choice)) :
    let file := (perform C ops none).2
    let held := Store.afterAll hC none (perform C ops none).1
    (∀ host o, o.Opens →
      (startLoad C host o file).map (fun loaded => (loaded.1, loaded.2.credentials)) =
        (held.find (stripScheme host)).map
          fun identity => (stripScheme host, identity.credentials)) ∧
    (∀ (host : String) (op : Op) (o : Choice) (id : Uuid) (identity : Identity C),
      op = .login host ∨ op = .saveToken host → o.Opens →
      held.find (stripScheme host) = some identity → o.claim = some id → id ≠ Uuid.nil →
      (op.apply C o file).1 = true →
      ∀ host' o', stripScheme host' = stripScheme host → o'.Opens →
        (startLoad C host' o' (op.apply C o file).2).map
            (fun loaded => (loaded.1, loaded.2.credentials)) =
          some (stripScheme host, id, identity.keypair.privateKey.1,
            identity.keypair.publicKey.1)) ∧
    (∀ host o, o.Opens → o.writable = true → stripScheme host = host →
      ((logout C host o file).1 = .ok () ↔ (held.find host).isSome)) := by
  intro file held
  have hheld : storeOf C file = held := storeOf_perform hC ops none
  refine ⟨?_, ?_, ?_⟩
  · intro host o ho
    rw [startLoad_credentials ho, hheld]
  · intro host op o id identity hop ho hfind hclaim hid hok host' o' hhost ho'
    have hafter : storeOf C (op.apply C o file).2 = held.bind hC (stripScheme host) o := by
      rw [storeOf_apply hC, hok, hheld]
      obtain rfl | rfl := hop
      · rfl
      · rfl
    rw [startLoad_credentials ho', hhost, hafter, find_bind hC held _ hclaim hid,
      keysFor_of_find hC ho.readable hfind]
    rfl
  · intro host o ho hwrite _
    rw [logout_ok_iff ho hwrite, hheld]

/-! ## A sample of the crates

Base64 is what it is; the JSON and the public keys are those of the states below.
-/

/-- The text of a state whose strings need no escapes. -/
def prettyState (state : StoredState) : String :=
  "\x7b\n  \"node_id\": \"" ++ state.nodeId.display ++
    "\",\n  \"private_key\": \"" ++ state.privateKey ++
    "\",\n  \"public_key\": \"" ++ state.publicKey ++
    "\",\n  \"server_host\": \"" ++ state.serverHost ++ "\"\n\x7d"

def textBytes (text : String) : Bytes := text.toUTF8.data.toList

/-- The key that goes with the seed of 32 zeros. -/
def zeroKey : Key :=
  ⟨[59, 106, 39, 188, 206, 182, 164, 45, 98, 163, 168, 208, 42, 111, 13, 115,
    101, 50, 21, 119, 29, 226, 67, 166, 58, 192, 72, 161, 139, 89, 218, 41], rfl⟩

/-- The state of node 1 or 2, claimed with the keys of the zero seed. -/
def sampleState (id : Uuid) (host : String) : StoredState :=
  ⟨id, "AAAAAAAAAAAAAAAAAAAAAAAAAAAAAAAAAAAAAAAAAAA",
    "O2onvM62pC1io6jQKm8Nc2UyFXcd4kOmOsBIoYtZ2ik", host⟩

def sampleStates : List StoredState := [sampleState 1 "a", sampleState 2 "b", sampleState 2 "a"]

def sampleCrates : Crates where
  toVecPretty state := if state ∈ sampleStates then some (textBytes (prettyState state)) else none
  fromSlice bytes := sampleStates.find? fun state => textBytes (prettyState state) == bytes
  encode := Base64.encode
  decode := Base64.decode
  verifyingKey _ := zeroKey

theorem sampleStates_read_back : ∀ state ∈ sampleStates,
    sampleCrates.fromSlice (textBytes (prettyState state)) = some state := by
  decide +kernel

theorem sampleCrates_lawful : sampleCrates.Lawful where
  json state bytes h := by
    have h' : (if state ∈ sampleStates then some (textBytes (prettyState state)) else none) =
      some bytes := h
    split at h'
    · rename_i hmem
      rw [← Option.some.inj h']
      exact sampleStates_read_back state hmem
    · cases h'
  base64 := Base64.decode_encode

/-- A machine on which everything works, and a server that answers with a node id. -/
def answering (id : Uuid) : Choice := { claim := some id }

/-- The run of one login, and what it is known to leave. -/
def sampleOps : List (Op × Choice) := [(.login "a", answering 1)]

theorem answering_opens (id : Uuid) : (answering id).Opens := ⟨rfl, rfl⟩

theorem sample_held : ((Store.afterAll sampleCrates_lawful none
    (perform sampleCrates sampleOps none).1).find (stripScheme "https://a")).isSome := by
  decide +kernel

/-- A load, a token saved for the same host, and a logout, each behind one login. -/
theorem store_holds_last_login_of_sample :
    (startLoad sampleCrates "https://a" (answering 1) (perform sampleCrates sampleOps none).2).map
        (fun loaded => (loaded.1, loaded.2.credentials)) =
          some ("a", (sampleState 1 "a").credentials) ∧
      (startLoad sampleCrates "a" (answering 1)
          (Op.apply sampleCrates (.saveToken "https://a") (answering 2)
            (perform sampleCrates sampleOps none).2).2).map
        (fun loaded => (loaded.1, loaded.2.credentials)) =
          some ("a", (sampleState 2 "a").credentials) ∧
      (logout sampleCrates "a" (answering 1) (perform sampleCrates sampleOps none).2).1 =
        .ok () := by
  obtain ⟨hload, hagain, hlogout⟩ := store_holds_last_login sampleCrates_lawful sampleOps
  refine ⟨?_, ?_, ?_⟩
  · rw [hload "https://a" (answering 1) (answering_opens 1)]
    decide +kernel
  · refine (hagain "https://a" (.saveToken "https://a") (answering 2) 2 _ (.inr rfl)
      (answering_opens 2) (Option.some_get sample_held).symm rfl (by decide) (by decide +kernel)
      "a" (answering 1) (by decide +kernel) (answering_opens 1)).trans ?_
    decide +kernel
  · rw [hlogout "a" (answering 1) (answering_opens 1) rfl (by decide +kernel)]
    decide +kernel

/-- Two logins to two hosts went through, nobody has logged out, and the first is gone. -/
theorem login_replaces_other_host :
    (perform sampleCrates [(.login "a", answering 1), (.login "b", answering 2)] none).1.map
        (fun entry => entry.2.2) = [true, true] ∧
      startLoad sampleCrates "a" (answering 1)
        (perform sampleCrates [(.login "a", answering 1), (.login "b", answering 2)] none).2 =
          none := by
  decide +kernel

end Phirepass.Creds
