/-
# `Phirepass.Server.Probing` — what `claim_node` tells about the tokens there are

Two runs, on a table that has a row for the token id and on the same table
without it, and a request that names the id with a wrong secret.  No statement
fails, and the row is not expired.

    public_key or hostname blank    400, before the table is read
    the row is there                401, AUTH_TOKEN_UNAUTHORIZED
    the row is missing              500, AUTH_TOKEN_VALIDATION_FAILED

`fetch_one` reports a missing row as an error, and `validate_creds` takes every
error of the statement for a failure of the database.  So the answers are the
same only where the table is not read (`alike_iff_blank`); the endpoints for
the login of a node take care that they always are (`Server.Enumeration`).
-/
import Phirepass.Server.Claim

namespace Phirepass.Server.Claim

open Rust Interleave Prog

/-! ## The two runs -/

/-- What `get_token_by_id` returns if the database works and this is in the table. -/
def rowAnswer : Option TokenRecord → Except String TokenRecord
  | some token => .ok token
  | none => .error "failed to retrieve token by id"

/-- The row, if there is one, is not expired. -/
def Unexpired (found : Option TokenRecord) (now : Time) : Prop :=
  ∀ token expiresAt, found = some token → token.expiresAt = some expiresAt → now ≤ expiresAt

/-- No statement fails, and whatever other services do, the row of the id stays what it is and
does not expire. -/
structure Steady (id : String) (found : Option TokenRecord) (w : World State Tid Resp) (_ : Tid)
    (c : Cmd) (r : Resp c) : Prop where
  token : ∀ tokenId r', (⟨c, r⟩ : Sigma Resp) = ⟨.getTokenById tokenId, r'⟩ →
    r' = rowAnswer (w.state.patTokens.lookup tokenId)
  node : ∀ publicKey r', (⟨c, r⟩ : Sigma Resp) = ⟨.getNodeByPublicKey publicKey, r'⟩ →
    r' = .ok (w.state.nodes.lookup publicKey)
  upsert : ∀ u publicKey hostname metadata r',
    (⟨c, r⟩ : Sigma Resp) = ⟨.claimNodeByPublicKey u publicKey hostname metadata, r'⟩ →
      ∃ row, r' = .ok row
  kept : ∀ around, (⟨c, r⟩ : Sigma Resp) = ⟨.environment, around⟩ →
    around.patTokens.lookup id = found ∧ Unexpired found around.clock

/-- In some such run on these tables, request `q` is answered so. -/
def Told (S : Setup) (id : String) (nodes : DashMap String NodeClaimRecord)
    (patTokens : DashMap String TokenRecord) (clock : Time) (q : Nat) (response : Response) : Prop :=
  ∃ cfg, (machine S).Reach (Steady id (patTokens.lookup id)) (start nodes patTokens clock) cfg ∧
    (⟨.request q, .respond response, ()⟩ : Ev Tid Resp) ∈ cfg.world.trace

/-- Request `q` is answered on both tables of tokens, and always alike. -/
structure Alike (S : Setup) (id : String) (nodes : DashMap String NodeClaimRecord)
    (patTokens patTokens' : DashMap String TokenRecord) (clock : Time) (q : Nat) : Prop where
  answered : ∃ response, Told S id nodes patTokens clock q response
  answered' : ∃ response, Told S id nodes patTokens' clock q response
  same : ∀ response response', Told S id nodes patTokens clock q response →
    Told S id nodes patTokens' clock q response' → response = response'

/-- The tables differ in that the first has a row for the id. -/
structure DifferAt (id : String) (token : TokenRecord)
    (patTokens patTokens' : DashMap String TokenRecord) : Prop where
  row : patTokens.lookup id = some token
  missing : patTokens'.lookup id = none
  others : ∀ id', id' ≠ id → patTokens'.lookup id' = patTokens.lookup id'

/-- A request that is refused for what it carries besides the token. -/
def Blank (payload : ClaimNodeRequest) : Prop :=
  (trim payload.publicKey).isEmpty = true ∨ (trim payload.hostname).isEmpty = true

/-! ## What the request is told -/

/-- The answer to a request whose secret is not that of the row, if there is one. -/
def told (payload : ClaimNodeRequest) (found : Option TokenRecord) : Response :=
  if (trim payload.publicKey).isEmpty then
    badRequest "BAD_REQUEST_PUBLIC_KEY_REQUIRED" "public_key is required"
  else if (trim payload.hostname).isEmpty then
    badRequest "BAD_REQUEST_HOSTNAME_REQUIRED" "hostname is required"
  else if found.isSome then unauthorized "AUTH_TOKEN_UNAUTHORIZED" "failed to verify token"
  else internalError "AUTH_TOKEN_VALIDATION_FAILED" "failed to validate token"

/-- The secret is not that of the row, whose hash is well formed. -/
def Refused (S : Setup) (secret : String) (found : Option TokenRecord) : Prop :=
  ∀ token, found = some token →
    S.parsesHash token.tokenHash = true ∧ S.verifyPassword secret token.tokenHash = false

/-- What the probing request issues. -/
inductive ProbeMay (id : String) (response : Response) : Cmd → Prop
  | token : ProbeMay id response (.getTokenById id)
  | now : ProbeMay id response .now
  | respond : ProbeMay id response (.respond response)

/-- What it counts on. -/
def ProbeHears (id : String) (found : Option TokenRecord) : (c : Cmd) → Resp c → Prop
  | .getTokenById tokenId, r => tokenId = id → r = rowAnswer found
  | .now, now => Unexpired found now
  | _, _ => True

/-- The rules of the probing request `q`; nothing is asked of the others. -/
def probeRules (S : Setup) (q : Nat) (id : String) (found : Option TokenRecord) : Tid → Rules Resp
  | .request r =>
      if r = q then
        ⟨fun _ => ProbeMay id (told (S.requests q).2 found), fun _ => ProbeHears id found⟩
      else Issues fun _ _ => True
  | .environment => Issues fun _ _ => True

/-- It begins with nothing behind it, and ends with its answer. -/
def ProbeAt (S : Setup) (q : Nat) (found : Option TokenRecord) : Tid → Label → Hist Resp → Prop
  | .request r, l, h => r = q →
      l = .request q ∧ h = [] ∨
        l = .done ∧ (⟨.respond (told (S.requests q).2 found), ()⟩ : Sigma Resp) ∈ h
  | .environment, _, _ => True

section Probe

variable {S : Setup} {q : Nat} {id secret : String} {found : Option TokenRecord}
  {nodes : DashMap String NodeClaimRecord} {patTokens : DashMap String TokenRecord} {clock : Time}
  {cfg : Config State Tid Resp Label}

@[simp] theorem probeRules_self : probeRules S q id found (.request q) =
    ⟨fun _ => ProbeMay id (told (S.requests q).2 found), fun _ => ProbeHears id found⟩ := if_pos rfl

/-- The secret is refused where there is a row. -/
theorem verifyCreds_of_refused {token : TokenRecord} (h : Refused S secret (some token)) :
    verifyCreds S token secret = .error (.unauthorized "failed to verify token") := by
  obtain ⟨hparses, hwrong⟩ := h token rfl
  simp [verifyCreds, hparses, hwrong]

/-- `validate_creds` tells a missing row from a wrong secret. -/
theorem validateCreds_probe (hrefused : Refused S secret found) :
    (validateCreds S id secret).Conforms (probeRules S q id found (.request q))
      (fun res _ => res = .error (if found.isSome then .unauthorized "failed to verify token"
        else .internal "failed to validate token")) [] := by
  rw [probeRules_self]
  refine conforms_perform.2 ⟨.token, fun r hr => ?_⟩
  obtain rfl : r = rowAnswer found := hr rfl
  cases found with
  | none => exact rfl
  | some token =>
      simp only [rowAnswer]
      cases hexpires : token.expiresAt with
      | none => exact verifyCreds_of_refused hrefused
      | some expiresAt =>
          refine conforms_perform.2 ⟨.now, fun now hnow => ?_⟩
          have hlive : ¬ expiresAt < now := Int.not_lt.2 (hnow token expiresAt rfl hexpires)
          simp only [if_neg hlive]
          exact verifyCreds_of_refused hrefused

/-- **`claim_node` gives the answer.** -/
theorem claimNode_probe (hcreds : credentials (S.requests q).1 = .ok (id, secret))
    (hrefused : Refused S secret found) :
    (claimNode S (S.requests q).1 (S.requests q).2).Conforms (probeRules S q id found (.request q))
      (fun response _ => response = told (S.requests q).2 found) [] := by
  unfold claimNode
  split
  · next hkey => exact (if_pos hkey).symm
  · next hkey =>
      split
      · next hhost => simp [told, hkey, hhost]
      · next hhost =>
          rw [hcreds]
          refine conforms_bind.2 ((validateCreds_probe hrefused).mono fun res h hres => ?_)
          subst hres
          cases found with
          | none => simp [told, hkey, hhost]
          | some token => simp [told, hkey, hhost]

theorem serve_probe (hcreds : credentials (S.requests q).1 = .ok (id, secret))
    (hrefused : Refused S secret found) :
    (serve S q).Conforms (probeRules S q id found (.request q))
      (fun l h => l = .done ∧
        (⟨.respond (told (S.requests q).2 found), ()⟩ : Sigma Resp) ∈ h) [] := by
  refine conforms_bind.2 ((claimNode_probe hcreds hrefused).mono fun response h hresponse => ?_)
  subst hresponse
  rw [probeRules_self]
  exact conforms_perform.2 ⟨.respond, fun _ _ => ⟨rfl, List.mem_cons_self⟩⟩

/-- **The requests follow these rules.** -/
theorem probe_follows (hcreds : credentials (S.requests q).1 = .ok (id, secret))
    (hrefused : Refused S secret found) :
    (machine S).Follows (probeRules S q id found) (ProbeAt S q found)
      (start nodes patTokens clock) where
  body i l h hat := by
    cases i with
    | request r =>
        by_cases hr : r = q
        · subst hr
          rcases hat rfl with ⟨rfl, rfl⟩ | ⟨rfl, hmem⟩
          · exact (serve_probe hcreds hrefused).mono fun _ _ hdone _ => .inr hdone
          · exact fun _ => .inr ⟨rfl, hmem⟩
        · rw [probeRules, if_neg hr]
          exact conforms_any fun _ _ hq => absurd hq hr
    | environment => exact conforms_any fun _ _ => trivial
  start i := by
    cases i with
    | request r =>
        rintro rfl
        exact .inl ⟨rfl, rfl⟩
    | environment => trivial

/-! ## The row stays -/

/-- Only the environment touches the tokens and the clock. -/
theorem exec_surroundings {i : Tid} {c : Cmd} {o : Choice} {r : Resp c} {s s' : State}
    (h : exec i c o s = some (r, s')) :
    s'.patTokens = s.patTokens ∧ s'.clock = s.clock ∨
      ∃ around, (⟨c, r⟩ : Sigma Resp) = ⟨.environment, around⟩ ∧ s'.patTokens = around.patTokens ∧
        s'.clock = around.clock := by
  cases c with
  | getTokenById tokenId =>
      left
      simp only [exec] at h
      split at h
      · cases h
        exact ⟨rfl, rfl⟩
      · split at h
        · cases h
          exact ⟨rfl, rfl⟩
        · cases h
          exact ⟨rfl, rfl⟩
  | getNodeByPublicKey publicKey =>
      left
      simp only [exec] at h
      split at h
      · cases h
        exact ⟨rfl, rfl⟩
      · cases h
        exact ⟨rfl, rfl⟩
  | claimNodeByPublicKey u publicKey hostname metadata =>
      left
      simp only [exec] at h
      split at h
      · cases h
        exact ⟨rfl, rfl⟩
      · obtain ⟨row, -, hx⟩ := Option.map_eq_some_iff.1 h
        cases hx
        exact ⟨rfl, rfl⟩
  | now | respond =>
      cases h
      exact .inl ⟨rfl, rfl⟩
  | environment =>
      cases h
      exact .inr ⟨_, rfl, rfl, rfl⟩

/-- The table has the row, or does not have it, and it is not expired. -/
structure Holds (id : String) (found : Option TokenRecord) (w : World State Tid Resp) : Prop where
  row : w.state.patTokens.lookup id = found
  unexpired : Unexpired found w.state.clock

theorem holds (hlive : Unexpired (patTokens.lookup id) clock)
    (hr : (machine S).Reach (Steady id (patTokens.lookup id)) (start nodes patTokens clock) cfg) :
    Holds id (patTokens.lookup id) cfg.world := by
  refine claim_inv (Holds id (patTokens.lookup id)) ⟨rfl, hlive⟩ ?_ hr
  intro cfg i c o r s _ hI _ hA hexec
  rcases exec_surroundings hexec with ⟨htokens, hclock⟩ | ⟨around, heq, htokens, hclock⟩
  · refine ⟨?_, ?_⟩
    · rw [World.push_state, htokens]
      exact hI.row
    · rw [World.push_state, hclock]
      exact hI.unexpired
  · obtain ⟨hrow, hlive'⟩ := hA.kept around heq
    refine ⟨?_, ?_⟩
    · rw [World.push_state, htokens]
      exact hrow
    · rw [World.push_state, hclock]
      exact hlive'

/-- So the request hears what it counts on. -/
theorem hears_of_steady (hlive : Unexpired (patTokens.lookup id) clock)
    (hr : (machine S).Reach (Steady id (patTokens.lookup id)) (start nodes patTokens clock) cfg)
    {i : Tid} {c : Cmd} {o : Choice} {r : Resp c} {s : State}
    (hA : Steady id (patTokens.lookup id) cfg.world i c r)
    (hexec : exec i c o cfg.world.state = some (r, s)) :
    ProbeHears id (patTokens.lookup id) c r := by
  obtain ⟨hrow, hunexpired⟩ := holds hlive hr
  cases c with
  | getTokenById tokenId =>
      rintro rfl
      rw [← hrow]
      exact hA.token tokenId r rfl
  | now =>
      cases hexec
      exact hunexpired
  | _ => trivial

/-- The request is given no other answer. -/
theorem eq_told (hcreds : credentials (S.requests q).1 = .ok (id, secret))
    (hrefused : Refused S secret (patTokens.lookup id))
    (hlive : Unexpired (patTokens.lookup id) clock) {response : Response}
    (h : Told S id nodes patTokens clock q response) :
    response = told (S.requests q).2 (patTokens.lookup id) := by
  obtain ⟨cfg, hr, hmem⟩ := h
  obtain ⟨past, hsuf⟩ := exists_past hmem
  have hheard := hr.strengthen (B := fun _ _ c r => ProbeHears id (patTokens.lookup id) c r)
    fun _ _ _ _ _ _ hr' hA hexec => hears_of_steady hlive hr' hA hexec
  refine hheard.events (probe_follows hcreds hrefused) ?_
    (fun _ e => ∀ response, e = ⟨.request q, .respond response, ()⟩ →
      response = told (S.requests q).2 (patTokens.lookup id)) rfl ?_ _ past hsuf response rfl
  · intro w i c r hears
    cases i with
    | request r' =>
        rw [probeRules]
        split
        · exact hears
        · trivial
    | environment => trivial
  · intro cfg i c o r s _ hmay _ _ response heq
    cases heq
    rw [probeRules_self] at hmay
    cases hmay with
    | respond => rfl

/-- And it can be given this one. -/
theorem told_told (hcreds : credentials (S.requests q).1 = .ok (id, secret))
    (hrefused : Refused S secret (patTokens.lookup id))
    (hlive : Unexpired (patTokens.lookup id) clock) :
    Told S id nodes patTokens clock q (told (S.requests q).2 (patTokens.lookup id)) := by
  have hready : ∀ (cfg : Config State Tid Resp Label) (c : Cmd),
      (machine S).Reach (Steady id (patTokens.lookup id)) (start nodes patTokens clock) cfg →
      (probeRules S q id (patTokens.lookup id) (.request q)).may
        (own (.request q) cfg.world.trace) c →
      ∃ o r s, (machine S).exec (.request q) c o cfg.world.state = some (r, s) ∧
        Steady id (patTokens.lookup id) cfg.world (.request q) c r ∧
        (probeRules S q id (patTokens.lookup id) (.request q)).hears
          (own (.request q) cfg.world.trace) c r := by
    intro cfg c hr hmay
    rw [probeRules_self] at hmay ⊢
    suffices hsteps : ∃ o r s, exec (.request q) c o cfg.world.state = some (r, s) ∧
        Steady id (patTokens.lookup id) cfg.world (.request q) c r by
      obtain ⟨o, r, s, hexec, hA⟩ := hsteps
      exact ⟨o, r, s, hexec, hA, hears_of_steady hlive hr hA hexec⟩
    cases hmay with
    | token =>
        refine ⟨{}, rowAnswer (cfg.world.state.patTokens.lookup id), cfg.world.state, ?_, ?_⟩
        · simp only [exec]
          cases cfg.world.state.patTokens.lookup id with
          | none => rfl
          | some token => rfl
        · refine ⟨fun _ _ heq => ?_, fun _ _ heq => ?_, fun _ _ _ _ _ heq => ?_, fun _ heq => ?_⟩
          · cases heq
            rfl
          all_goals cases heq
    | now | respond =>
        refine ⟨{}, _, _, rfl, fun _ _ heq => ?_, fun _ _ heq => ?_, fun _ _ _ _ _ heq => ?_,
          fun _ heq => ?_⟩
        all_goals cases heq
  have hl : (start nodes patTokens clock).threads (.request q) = .ret (.request q) := rfl
  have hbegun := (Machine.Reach.refl (M := machine S)
    (A := Steady id (patTokens.lookup id))).tail (.turn hl)
  obtain ⟨cfg, l, hr, -, -, -, hmem⟩ := Machine.Reach.completes hready hbegun
    (Function.update_self _ _ _) (serve_probe hcreds hrefused)
  exact ⟨cfg, hr, mem_own.1 hmem⟩

/-- **The answer, exactly.** -/
theorem told_iff (hcreds : credentials (S.requests q).1 = .ok (id, secret))
    (hrefused : Refused S secret (patTokens.lookup id))
    (hlive : Unexpired (patTokens.lookup id) clock) {response : Response} :
    Told S id nodes patTokens clock q response ↔
      response = told (S.requests q).2 (patTokens.lookup id) := by
  constructor
  · exact eq_told hcreds hrefused hlive
  · rintro rfl
    exact told_told hcreds hrefused hlive

end Probe

/-! ## The two runs compared -/

section Compare

variable {S : Setup} {q : Nat} {id secret : String} {token : TokenRecord}
  {nodes : DashMap String NodeClaimRecord} {patTokens patTokens' : DashMap String TokenRecord}
  {clock : Time}

/-- The answers with and without the row are the same if the table is not read. -/
theorem told_eq_iff {payload : ClaimNodeRequest} :
    told payload (some token) = told payload none ↔ Blank payload := by
  unfold told Blank
  by_cases hkey : (trim payload.publicKey).isEmpty = true
  · simp [hkey]
  · by_cases hhost : (trim payload.hostname).isEmpty = true
    · simp [hkey, hhost]
    · simp [hkey, hhost, unauthorized, internalError]

/-- The two runs answer alike if the two answers are the same. -/
theorem alike_iff_told (hcreds : credentials (S.requests q).1 = .ok (id, secret))
    (hdiffer : DifferAt id token patTokens patTokens') (hlive : Unexpired (some token) clock)
    (hrefused : Refused S secret (some token)) :
    Alike S id nodes patTokens patTokens' clock q ↔
      told (S.requests q).2 (some token) = told (S.requests q).2 none := by
  have hnever : Unexpired none clock := fun _ _ h => nomatch h
  have hnone : Refused S secret none := fun _ h => nomatch h
  have hwith {response : Response} : Told S id nodes patTokens clock q response ↔
      response = told (S.requests q).2 (some token) := by
    rw [← hdiffer.row] at hlive hrefused ⊢
    exact told_iff hcreds hrefused hlive
  have hwithout {response : Response} : Told S id nodes patTokens' clock q response ↔
      response = told (S.requests q).2 none := by
    rw [← hdiffer.missing] at hnever hnone ⊢
    exact told_iff hcreds hnone hnever
  constructor
  · intro halike
    exact halike.same _ _ (hwith.2 rfl) (hwithout.2 rfl)
  · intro heq
    refine ⟨⟨_, hwith.2 rfl⟩, ⟨_, hwithout.2 rfl⟩, fun response response' h h' => ?_⟩
    rw [hwith.1 h, hwithout.1 h', heq]

/-- **Which tokens exist is told apart**, by every request that names one with a wrong secret and
is not refused before the table is read. -/
theorem alike_iff_blank (hcreds : credentials (S.requests q).1 = .ok (id, secret))
    (hdiffer : DifferAt id token patTokens patTokens') (hlive : Unexpired (some token) clock)
    (hhash : S.parsesHash token.tokenHash = true)
    (hwrong : S.verifyPassword secret token.tokenHash = false) :
    Alike S id nodes patTokens patTokens' clock q ↔ Blank (S.requests q).2 := by
  have hrefused : Refused S secret (some token) := by
    rintro token' heq
    cases heq
    exact ⟨hhash, hwrong⟩
  rw [alike_iff_told hcreds hdiffer hlive hrefused, told_eq_iff]

end Compare

/-! ## A guess -/

/-- Both requests guess at the secret of token `one`; the second names no host. -/
def guess : Setup :=
  { sample with
    requests := fun
      | 0 => (some (some "Bearer pat_one.guess"), ⟨sampleKey, "host-a", "null"⟩)
      | _ => (some (some "Bearer pat_one.guess"), ⟨sampleKey, " ", "null"⟩) }

def sampleToken : TokenRecord := ⟨21, "one", sampleHash 1, 1, none, ["server:register"]⟩

theorem sample_differ : DifferAt "one" sampleToken sampleTokens (sampleTokens.erase "one") where
  row := by decide +kernel
  missing := AList.lookup_erase _ _
  others _ hne := AList.lookup_erase_ne hne

theorem sample_unexpired : Unexpired (some sampleToken) 1000000 := by
  intro token expiresAt heq hexpires
  cases heq
  cases hexpires

theorem alike_iff_blank_of_guess :
    Alike guess "one" ∅ sampleTokens (sampleTokens.erase "one") 1000000 1 := by
  have hcreds : credentials (guess.requests 1).1 = .ok ("one", "guess") := by
    decide +kernel
  refine (alike_iff_blank hcreds sample_differ sample_unexpired ?_ ?_).2 (.inr ?_)
  · decide +kernel
  · decide +kernel
  · decide +kernel

/-- A guess at the secret of a token that exists is answered 401, and of one that does not, 500. -/
theorem existence_told :
    credentials (guess.requests 0).1 = .ok ("one", "guess") ∧
      DifferAt "one" sampleToken sampleTokens (sampleTokens.erase "one") ∧
      Unexpired (some sampleToken) 1000000 ∧
      guess.parsesHash sampleToken.tokenHash = true ∧
      guess.verifyPassword "guess" sampleToken.tokenHash = false ∧
      ¬ Alike guess "one" ∅ sampleTokens (sampleTokens.erase "one") 1000000 0 := by
  have hcreds : credentials (guess.requests 0).1 = .ok ("one", "guess") := by
    decide +kernel
  have hrefused : Refused guess "guess" (some sampleToken) := by
    rintro token heq
    cases heq
    decide +kernel
  have hseen : ¬ Blank (guess.requests 0).2 := by
    unfold Blank
    decide +kernel
  refine ⟨hcreds, sample_differ, sample_unexpired, (hrefused _ rfl).1, (hrefused _ rfl).2, ?_⟩
  rw [alike_iff_told hcreds sample_differ sample_unexpired hrefused, told_eq_iff]
  exact hseen

end Phirepass.Server.Claim
