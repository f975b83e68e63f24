/-
# `Phirepass.Server.Refusals` — what a peer hears of a login that fails

`wait_for_auth` puts its failure frames into the queue of the socket.  The task
that empties the queue is spawned by the caller, once the login was accepted.
So on every socket the two exclude one another:

    a refusal in the queue    the login fails, the socket is closed, and the
                              queue goes with the frame in it
    a writer                  the login was accepted

and no refusal is ever written (`refusals_unwritten`).
-/
import Phirepass.Server.Identity
import Phirepass.Server.WebLife

namespace Phirepass.Server

open Rust Interleave Prog

/-! ## Refusals -/

/-- A failure frame of the `wait_for_auth` of `web.rs`. -/
def Cmd.refusesWeb : Cmd → Bool
  | .web (.send _ (.error .authentication _ _)) => true
  | _ => false

/-- A failure frame of the `wait_for_auth` of `node.rs`. -/
def Cmd.refusesNode : Cmd → Bool
  | .node (.send _ (.authResponse _ false _)) => true
  | _ => false

/-- The command brings a write task to life. -/
def Cmd.spawnsWriter : Cmd → Bool
  | .webWriter (.spawn _) | .nodeWriter (.spawn _) => true
  | _ => false

/-- No refusal so far. -/
def Unrefused (refuses : Cmd → Bool) (h : Hist Resp) : Prop := ∀ e ∈ h, refuses e.1 = false

/-- No write task so far. -/
def Unspawned (h : Hist Resp) : Prop := ∀ e ∈ h, e.1.spawnsWriter = false

/-- A refusal and a writer exclude one another. -/
def OneOf (refuses : Cmd → Bool) (h : Hist Resp) (c : Cmd) : Prop :=
  (refuses c = true → Unspawned h) ∧ (c.spawnsWriter = true → Unrefused refuses h)

/-- Neither of the two. -/
def Neither (refuses : Cmd → Bool) (c : Cmd) : Prop :=
  refuses c = false ∧ c.spawnsWriter = false

section Bodies

variable {α : Type} {refuses : Cmd → Bool} {S : Setup} {i k : Nat} {cid n : Uuid}
  {h : Hist Resp} {p : Action α} {Q : α → Hist Resp → Prop}

theorem Unrefused.cons {c : Cmd} {r : Resp c} (hc : refuses c = false)
    (hh : Unrefused refuses h) : Unrefused refuses (⟨c, r⟩ :: h) := by
  intro e hmem
  rcases List.mem_cons.1 hmem with rfl | hmem
  · exact hc
  · exact hh e hmem

theorem Unspawned.cons {c : Cmd} {r : Resp c} (hc : c.spawnsWriter = false)
    (hh : Unspawned h) : Unspawned (⟨c, r⟩ :: h) := by
  intro e hmem
  rcases List.mem_cons.1 hmem with rfl | hmem
  · exact hc
  · exact hh e hmem

theorem oneOf_of_neither {c : Cmd} (hc : Neither refuses c) : OneOf refuses h c := by
  refine ⟨fun hr => ?_, fun hs => ?_⟩
  · rw [hc.1] at hr
    cases hr
  · rw [hc.2] at hs
    cases hs

/-- Code that does neither refuses nobody. -/
theorem unrefused_of_neither (hp : p.Conforms (Issues fun _ c => Neither refuses c) Q h)
    (hh : Unrefused refuses h) :
    p.Conforms (Issues (OneOf refuses)) (fun a h' => Q a h' ∧ Unrefused refuses h') h :=
  conforms_weaken (fun _ _ hc => oneOf_of_neither hc.1)
    (hp.along (fun _ _ _ hc hh => hh.cons hc.1) hh)

/-! ## The web socket -/

/-- The outcome of a login step: if it is accepted nobody was refused. -/
def Accepts (refuses : Cmd → Bool) (res : Except String α) (h : Hist Resp) : Prop :=
  ∀ a, res = .ok a → Unrefused refuses h

/-- During the login there is no writer. -/
theorem login_excludes {p : Action (Except String α)}
    (hp : p.Conforms (Issues fun _ c => c.spawnsWriter = false) (Accepts refuses) []) :
    p.Conforms (Issues (OneOf refuses)) (Accepts refuses) [] := by
  have hstart : Unspawned [] := fun _ hmem => nomatch hmem
  refine conforms_weaken (fun h c hc => ⟨fun _ => hc.2, fun hs => ?_⟩)
    ((hp.along (fun _ _ _ hc hh => hh.cons hc) hstart).mono fun res h hpost => hpost.1)
  rw [hc.1] at hs
  cases hs

theorem refuse_accepts {tx : Nat} {message unsent err : String} {msgId : Option UInt32} :
    (refuse (α := α) tx message msgId unsent err).Conforms
      (Issues fun _ c => c.spawnsWriter = false) (Accepts Cmd.refusesWeb) h := by
  refine conforms_call.2 ⟨rfl, fun sent => ?_⟩
  cases sent
  · intro a ha
    cases ha
  · intro a ha
    cases ha

theorem authenticateWebJwt_neither {token : String} :
    (authenticateWebJwt S token).Conforms (Issues fun _ c => Neither Cmd.refusesWeb c)
      (fun _ _ => True) h := by
  refine conforms_call.2 ⟨⟨rfl, rfl⟩, fun decoded => ?_⟩
  cases decoded with
  | error err => trivial
  | ok claims =>
      dsimp only
      split
      · trivial
      · refine conforms_call.2 ⟨⟨rfl, rfl⟩, fun found => ?_⟩
        split <;> trivial

theorem validateJwt_accepts {tx : Nat} {token : String} {msgId : Option UInt32}
    (hh : Unrefused Cmd.refusesWeb h) :
    (validateJwt S tx token msgId).Conforms (Issues fun _ c => c.spawnsWriter = false)
      (Accepts Cmd.refusesWeb) h := by
  refine conforms_bind.2 (conforms_weaken (fun _ _ hc => hc.1.2)
    ((authenticateWebJwt_neither.along (fun _ _ _ hc hh => hh.cons hc.1) hh).mono
      fun res h' hpost => ?_))
  cases res with
  | error err => exact refuse_accepts
  | ok claims => exact fun _ _ => hpost.2

theorem validateUserNode_accepts {tx : Nat} {claims : WebJwtClaims} {nodeId : String}
    {msgId : Option UInt32} (hh : Unrefused Cmd.refusesWeb h) :
    (validateUserNode S tx claims nodeId msgId).Conforms
      (Issues fun _ c => c.spawnsWriter = false) (Accepts Cmd.refusesWeb) h := by
  unfold validateUserNode
  split
  · intro a ha
    cases ha
  · split
    · intro a ha
      cases ha
    · refine conforms_call.2 ⟨rfl, fun found => ?_⟩
      cases found with
      | error err => exact refuse_accepts
      | ok node =>
          dsimp only
          split
          · exact refuse_accepts
          · exact fun _ _ => hh.cons rfl

theorem checkAuth_accepts {tx : Nat} {token nodeId : String} {msgId : Option UInt32}
    (hh : Unrefused Cmd.refusesWeb h) :
    (checkAuth S tx token nodeId msgId).Conforms (Issues fun _ c => c.spawnsWriter = false)
      (Accepts Cmd.refusesWeb) h := by
  unfold checkAuth
  split
  · exact fun _ _ => hh
  · refine conforms_bind.2 ((validateJwt_accepts hh).mono fun res h' hpost => ?_)
    cases res with
    | error err =>
        intro a ha
        cases ha
    | ok claims => exact validateUserNode_accepts (hpost claims rfl)

theorem webWaitForAuth_accepts {tx : Nat} :
    (webWaitForAuth S tx).Conforms (Issues fun _ c => c.spawnsWriter = false)
      (Accepts Cmd.refusesWeb) [] := by
  refine conforms_call.2 ⟨rfl, fun m => ?_⟩
  have hread : Unrefused Cmd.refusesWeb [(⟨.ws .next, m⟩ : Sigma Resp)] :=
    Unrefused.cons rfl fun _ hmem => nomatch hmem
  split
  all_goals try exact fun _ ha => nomatch ha
  split
  · refine conforms_call.2 ⟨rfl, fun cid => ?_⟩
    refine conforms_bind.2 ((checkAuth_accepts (hread.cons rfl)).mono fun res h' hpost => ?_)
    cases res with
    | error err => exact fun _ ha => nomatch ha
    | ok checked =>
        refine conforms_bind.2 (conforms_call.2 ⟨rfl, fun sent => ?_⟩)
        cases sent
        · exact fun _ ha => nomatch ha
        · exact fun _ _ => (hpost checked rfl).cons rfl
  · exact fun _ ha => nomatch ha

theorem notify_neither {frame : WebFrameData}
    (hframe : ∀ tx, Neither Cmd.refusesWeb (.web (.send tx frame))) :
    (notifyClientByCid cid frame).Conforms (Issues fun _ c => Neither Cmd.refusesWeb c)
      (fun _ _ => True) h := by
  refine conforms_call.2 ⟨⟨rfl, rfl⟩, fun found => ?_⟩
  cases found with
  | none => trivial
  | some connection =>
      refine conforms_call.2 ⟨hframe _, fun sent => ?_⟩
      cases sent <;> trivial

theorem forward_neither {target : String} {sid : UInt32} {g : NodeFrameData} :
    (forwardToNode S cid target sid g).Conforms (Issues fun _ c => Neither Cmd.refusesWeb c)
      (fun _ _ => True) h := by
  refine conforms_bind.2 ?_
  unfold getNodeIdByCidAndSid
  split
  · trivial
  · refine conforms_call.2 ⟨⟨rfl, rfl⟩, fun found => ?_⟩
    cases found with
    | none => trivial
    | some v =>
        simp only []
        split
        · trivial
        · refine conforms_call.2 ⟨⟨rfl, rfl⟩, fun info => ?_⟩
          cases info with
          | none => trivial
          | some info => exact conforms_call.2 ⟨⟨rfl, rfl⟩, fun _ => trivial⟩

theorem handleWebFrame_neither {f : WebFrameData} :
    (handleWebFrame S cid f).Conforms (Issues fun _ c => Neither Cmd.refusesWeb c)
      (fun _ _ => True) h := by
  cases f with
  | heartbeat =>
      exact conforms_bind.2 (conforms_call.2 ⟨⟨rfl, rfl⟩, fun _ =>
        conforms_call.2 ⟨⟨rfl, rfl⟩, fun _ => trivial⟩⟩)
  | openTunnel protocol target username password msgId =>
      refine conforms_bind.2 ?_
      unfold handleWebOpenTunnel
      split
      · trivial
      · refine conforms_call.2 ⟨⟨rfl, rfl⟩, fun info => ?_⟩
        cases info with
        | none =>
            exact conforms_bind.2 ((notify_neither fun _ => ⟨rfl, rfl⟩).mono fun _ _ _ => trivial)
        | some info => exact conforms_call.2 ⟨⟨rfl, rfl⟩, fun _ => trivial⟩
  | tunnelData | sshWindowResize | sftpList | sftpDownloadStart | sftpDownloadChunkRequest
  | sftpUploadStart | sftpUpload | sftpDelete =>
      exact conforms_bind.2 (forward_neither.mono fun _ _ _ => trivial)
  | _ => trivial

/-- What the task of a web socket knows at its labels. -/
def WebRefusalAt : Label → Hist Resp → Prop
  | .webSocket _, h => h = []
  | .webMessages _ _, h | .webClosing _ _, h | .webNotify _ _ _ _, h =>
      Unrefused Cmd.refusesWeb h
  | .done, _ => True
  | _, _ => False

theorem webSocket_refusal : (handleWebSocket S i).Conforms (Issues (OneOf Cmd.refusesWeb))
    WebRefusalAt [] := by
  refine conforms_bind.2 ((login_excludes webWaitForAuth_accepts).mono fun res h haccepts => ?_)
  cases res with
  | error err =>
      refine conforms_call.2 ⟨oneOf_of_neither ⟨rfl, rfl⟩, fun _ => ?_⟩
      refine conforms_call.2 ⟨oneOf_of_neither ⟨rfl, rfl⟩, fun _ => ?_⟩
      exact conforms_call.2 ⟨oneOf_of_neither ⟨rfl, rfl⟩, fun _ => trivial⟩
  | ok cid =>
      refine conforms_call.2 ⟨oneOf_of_neither ⟨rfl, rfl⟩, fun now => ?_⟩
      refine conforms_call.2 ⟨oneOf_of_neither ⟨rfl, rfl⟩, fun old => ?_⟩
      refine conforms_call.2 ⟨oneOf_of_neither ⟨rfl, rfl⟩, fun written => ?_⟩
      have hh : Unrefused Cmd.refusesWeb _ := (((haccepts cid rfl).cons (r := now) rfl).cons
        (r := old) rfl).cons (r := written) rfl
      exact conforms_call.2 ⟨⟨(fun hr => nomatch hr), fun _ => hh⟩, fun _ => hh.cons rfl⟩

theorem webMessages_refusal (hh : Unrefused Cmd.refusesWeb h) :
    (handleWebMessages S i cid).Conforms (Issues (OneOf Cmd.refusesWeb)) WebRefusalAt h := by
  unfold handleWebMessages
  refine conforms_call.2 ⟨oneOf_of_neither ⟨rfl, rfl⟩, fun m => ?_⟩
  have hread : Unrefused Cmd.refusesWeb (⟨.ws .next, m⟩ :: h) := hh.cons rfl
  split
  · refine conforms_bind.2 ((unrefused_of_neither handleWebFrame_neither hread).mono
      fun go h' hpost => ?_)
    cases go
    · exact hpost.2
    · exact hpost.2
  all_goals exact hread

/-- **A browser's socket** ends its login in a refusal or in a writer. -/
theorem web_refusals (l : Label) (hat : WebRefusalAt l h) :
    (body S l).Conforms (Issues (OneOf Cmd.refusesWeb)) WebRefusalAt h := by
  cases l with
  | webSocket j =>
      obtain rfl := hat
      exact webSocket_refusal
  | webMessages j cid => exact webMessages_refusal hat
  | webClosing j cid =>
      refine (unrefused_of_neither (Q := fun l _ => ∃ begun, l = .webNotify j cid begun [])
        (conforms_call.2 ⟨⟨rfl, rfl⟩, fun _ => conforms_call.2 ⟨⟨rfl, rfl⟩, fun removed => ?_⟩⟩)
        hat).mono ?_
      · cases removed with
        | none => exact conforms_call.2 ⟨⟨rfl, rfl⟩, fun begun => ⟨begun, rfl⟩⟩
        | some old =>
            exact conforms_call.2 ⟨⟨rfl, rfl⟩, fun _ =>
              conforms_call.2 ⟨⟨rfl, rfl⟩, fun begun => ⟨begun, rfl⟩⟩⟩
      · rintro _ h' ⟨⟨begun, rfl⟩, hh⟩
        exact hh
  | webNotify j cid begun visited =>
      refine conforms_call.2 ⟨oneOf_of_neither ⟨rfl, rfl⟩, fun met => ?_⟩
      have hmet : Unrefused Cmd.refusesWeb (⟨.nodes (.next begun visited), met⟩ :: h) :=
        Unrefused.cons rfl hat
      match met with
      | some (n, conn) =>
          exact conforms_call.2 ⟨oneOf_of_neither ⟨rfl, rfl⟩, fun _ => hmet.cons rfl⟩
      | none => exact conforms_call.2 ⟨oneOf_of_neither ⟨rfl, rfl⟩, fun _ => trivial⟩
  | done => trivial
  | _ => exact hat.elim

/-! ## The node socket -/

theorem authResponse_accepts {tx : Nat} {err unsent : String} :
    (authResponse S tx n false (.error err) unsent).Conforms
      (Issues fun _ c => c.spawnsWriter = false) (Accepts Cmd.refusesNode) h := by
  refine conforms_call.2 ⟨rfl, fun sent => ?_⟩
  cases sent
  · exact fun _ ha => nomatch ha
  · exact fun _ ha => nomatch ha

theorem authenticateNodeJwt_neither {token : String} :
    (authenticateNodeJwt token).Conforms (Issues fun _ c => Neither Cmd.refusesNode c)
      (fun _ _ => True) h := by
  refine conforms_call.2 ⟨⟨rfl, rfl⟩, fun decoded => ?_⟩
  cases decoded with
  | error err => trivial
  | ok claims =>
      refine conforms_call.2 ⟨⟨rfl, rfl⟩, fun found => ?_⟩
      cases found with
      | error err => trivial
      | ok node =>
          dsimp only
          split <;> trivial

theorem handleNodeAuth_accepts {tx : Nat} {token : String}
    (hh : Unrefused Cmd.refusesNode h) :
    (handleNodeAuth S tx token n).Conforms (Issues fun _ c => c.spawnsWriter = false)
      (Accepts Cmd.refusesNode) h := by
  refine conforms_bind.2 (conforms_weaken (fun _ _ hc => hc.1.2)
    ((authenticateNodeJwt_neither.along (fun _ _ _ hc hh => hh.cons hc.1) hh).mono
      fun res h' hpost => ?_))
  cases res with
  | error err => exact authResponse_accepts
  | ok authId =>
      dsimp only
      split
      · exact authResponse_accepts
      · refine conforms_call.2 ⟨rfl, fun found => ?_⟩
        match found with
        | .ok (some nodeClaim) =>
            dsimp only
            split
            · exact authResponse_accepts
            · refine conforms_call.2 ⟨rfl, fun sent => ?_⟩
              cases sent
              · exact fun _ ha => nomatch ha
              · exact fun _ _ => (Unrefused.cons rfl hpost.2).cons rfl
        | .ok none => exact authResponse_accepts
        | .error err => exact authResponse_accepts

theorem nodeWaitForAuth_accepts {tx : Nat} :
    (nodeWaitForAuth S tx).Conforms (Issues fun _ c => c.spawnsWriter = false)
      (Accepts Cmd.refusesNode) [] := by
  refine conforms_call.2 ⟨rfl, fun m => ?_⟩
  have hread : Unrefused Cmd.refusesNode [(⟨.ws .next, m⟩ : Sigma Resp)] :=
    Unrefused.cons rfl fun _ hmem => nomatch hmem
  split
  all_goals try exact fun _ ha => nomatch ha
  split
  · exact handleNodeAuth_accepts hread
  · exact fun _ ha => nomatch ha

/-- What the task of node socket `k` knows at its labels. -/
def NodeRefusalAt (k : Nat) (l : Label) (h : Hist Resp) : Prop :=
  NodeAt k l h ∧ match l with
    | .nodeMessages _ _ | .nodeClosing _ _ | .nodeCollect _ _ _ _ _ =>
        ¬ Joining h ∧ Unrefused Cmd.refusesNode h
    | _ => True

/-- After registering, nobody is refused. -/
theorem refusesNode_of_may {c : Cmd} (hc : NodeMay S k h c) (hj : ¬ Joining h) :
    c.refusesNode = false := by
  cases hc with
  | login hjoin _ => exact absurd hjoin hj
  | loop _ _ hc => cases hc <;> rfl
  | close _ _ hc => cases hc <;> rfl

theorem Joining.of_cons {e : Sigma Resp} (hj : Joining (e :: h)) : Joining h :=
  ⟨fun m conn r hmem => hj.unregistered m conn r (List.mem_cons_of_mem _ hmem),
    fun r hmem => hj.alive r (List.mem_cons_of_mem _ hmem),
    fun k r hmem => hj.looping k r (List.mem_cons_of_mem _ hmem)⟩

theorem Serving.not_joining (hs : Serving k n h) : ¬ Joining h := by
  intro hj
  obtain ⟨conn, r, hmem, -⟩ := hs.registered
  exact hj.unregistered n conn r hmem

theorem nodeSocket_refusal : (handleNodeSocket S k).Conforms (Issues (OneOf Cmd.refusesNode))
    (fun l h => match l with
      | .nodeMessages _ _ => Unrefused Cmd.refusesNode h
      | l => l = .done) [] := by
  refine conforms_bind.2 ((login_excludes nodeWaitForAuth_accepts).mono fun res h haccepts => ?_)
  have hreject (h : Hist Resp) : (rejectNodeSocket k).Conforms (Issues (OneOf Cmd.refusesNode))
      (fun l h => match l with
        | .nodeMessages _ _ => Unrefused Cmd.refusesNode h
        | l => l = .done) h := by
    refine conforms_call.2 ⟨oneOf_of_neither ⟨rfl, rfl⟩, fun _ => ?_⟩
    refine conforms_call.2 ⟨oneOf_of_neither ⟨rfl, rfl⟩, fun _ => ?_⟩
    exact conforms_call.2 ⟨oneOf_of_neither ⟨rfl, rfl⟩, fun _ => rfl⟩
  cases res with
  | error err => exact hreject h
  | ok n =>
      refine conforms_call.2 ⟨oneOf_of_neither ⟨rfl, rfl⟩, fun found => ?_⟩
      cases found with
      | error err => exact hreject _
      | ok record =>
          refine conforms_call.2 ⟨oneOf_of_neither ⟨rfl, rfl⟩, fun written => ?_⟩
          refine conforms_call.2 ⟨oneOf_of_neither ⟨rfl, rfl⟩, fun now => ?_⟩
          refine conforms_call.2 ⟨oneOf_of_neither ⟨rfl, rfl⟩, fun old => ?_⟩
          have hfound : Unrefused Cmd.refusesNode _ :=
            (haccepts n rfl).cons (c := .db (.getNodeById n)) (r := .ok record) rfl
          have hh : Unrefused Cmd.refusesNode _ := ((hfound.cons (r := written) rfl).cons
            (r := now) rfl).cons (r := old) rfl
          exact conforms_call.2 ⟨⟨(fun hr => nomatch hr), fun _ => hh⟩, fun _ => hh.cons rfl⟩

/-- **An agent's socket** does too. -/
theorem node_refusals (l : Label) (hat : NodeRefusalAt k l h) :
    (body S l).Conforms (Issues (OneOf Cmd.refusesNode)) (NodeRefusalAt k) h := by
  have hafter (hj : ¬ Joining h) (hh : Unrefused Cmd.refusesNode h) :
      (body S l).Conforms (Issues (OneOf Cmd.refusesNode)) (NodeRefusalAt k) h := by
    refine conforms_weaken (fun h c hc => ⟨fun hr => ?_, fun _ => hc.2.2⟩)
      (((node_follows l h hat.1).along (I := fun h => ¬ Joining h ∧ Unrefused Cmd.refusesNode h)
        (fun h c r hc hI => ⟨fun hj => hI.1 hj.of_cons,
          hI.2.cons (refusesNode_of_may hc hI.1)⟩) ⟨hj, hh⟩).mono fun l h hpost =>
            ⟨hpost.1, ?_⟩)
    · rw [refusesNode_of_may hc.1 hc.2.1] at hr
      cases hr
    · split
      · exact hpost.2
      · exact hpost.2
      · exact hpost.2
      · trivial
  cases l with
  | nodeSocket j =>
      obtain ⟨⟨rfl, rfl⟩, -⟩ := hat
      refine conforms_weaken (fun _ _ hc => hc.2)
        ((handleNodeSocket_conforms.and nodeSocket_refusal).mono fun l h hpost => ⟨hpost.1, ?_⟩)
      obtain ⟨hnode, hrest⟩ := hpost
      cases l with
      | nodeMessages j n => exact ⟨hnode.2.1.1.not_joining, hrest⟩
      | nodeClosing | nodeCollect => cases hrest
      | _ => trivial
  | nodeMessages | nodeClosing | nodeCollect => exact hafter hat.2.1 hat.2.2
  | done => trivial
  | _ => exact hat.1.elim

/-! ## The write tasks -/

/-- Writing to the socket comes after `e`. -/
def WritesAfter (e : Sigma Resp) (h : Hist Resp) (c : Cmd) : Prop :=
  ∀ frame, c = .ws (.send frame) → e ∈ h

/-- What a write task knows once it has started. -/
def WritingAt (e : Sigma Resp) : Label → Hist Resp → Prop
  | .webWriting j, h => e = ⟨.webWriter (.start j), true⟩ ∧ e ∈ h
  | .nodeWriting j, h => e = ⟨.nodeWriter (.start j), true⟩ ∧ e ∈ h
  | .webWriter j, _ => e = ⟨.webWriter (.start j), true⟩
  | .nodeWriter j, _ => e = ⟨.nodeWriter (.start j), true⟩
  | .done, _ => True
  | _, _ => False

theorem writer_starts {e : Sigma Resp} (l : Label) (hat : WritingAt e l h) :
    (body S l).Conforms (Issues (WritesAfter e)) (WritingAt e) h := by
  have hquiet {h : Hist Resp} {c : Cmd} (hc : ∀ frame, c ≠ .ws (.send frame)) :
      WritesAfter e h c := fun frame heq => absurd heq (hc frame)
  cases l with
  | webWriter j | nodeWriter j =>
      obtain rfl := hat
      refine conforms_call.2 ⟨hquiet (by simp), fun started => ?_⟩
      cases started
      · refine conforms_call.2 ⟨hquiet (by simp), fun _ => ?_⟩
        exact conforms_call.2 ⟨hquiet (by simp), fun _ => trivial⟩
      · exact ⟨rfl, List.mem_cons_self⟩
  | webWriting j | nodeWriting j =>
      obtain ⟨rfl, hmem⟩ := hat
      refine conforms_call.2 ⟨hquiet (by simp), fun received => ?_⟩
      have hmem₁ := List.mem_cons_of_mem (⟨_, received⟩ : Sigma Resp) hmem
      match received with
      | some frame =>
          refine conforms_call.2 ⟨fun _ _ => hmem₁, fun sent => ?_⟩
          cases sent
          · refine conforms_call.2 ⟨hquiet (by simp), fun _ => ?_⟩
            exact conforms_call.2 ⟨hquiet (by simp), fun _ => trivial⟩
          · exact ⟨rfl, List.mem_cons_of_mem _ hmem₁⟩
      | none =>
          refine conforms_call.2 ⟨hquiet (by simp), fun _ => ?_⟩
          exact conforms_call.2 ⟨hquiet (by simp), fun _ => trivial⟩
  | done => trivial
  | _ => exact hat.elim

end Bodies

/-! ## Runs -/

/-- The rules on the tasks of a socket. -/
def refusalRules : Tid → Rules Resp
  | .web _ => Issues (OneOf Cmd.refusesWeb)
  | .node _ => Issues (OneOf Cmd.refusesNode)
  | .webWriter i => Issues (WritesAfter ⟨.webWriter (.start i), true⟩)
  | .nodeWriter k => Issues (WritesAfter ⟨.nodeWriter (.start k), true⟩)
  | _ => Issues fun _ _ => True

def RefusalAt : Tid → Label → Hist Resp → Prop
  | .web _ => WebRefusalAt
  | .node k => NodeRefusalAt k
  | .webWriter i => WritingAt ⟨.webWriter (.start i), true⟩
  | .nodeWriter k => WritingAt ⟨.nodeWriter (.start k), true⟩
  | _ => fun _ _ => True

section Runs

variable {S : Setup} {A : Restriction} {rows : DashMap Uuid NodeRow} {users : List Uuid}
  {clock : Time} {cfg : Config State Tid Resp Label}

theorem refusal_follows :
    (machine S).Follows refusalRules RefusalAt (start rows users clock) where
  body i l h hat := by
    cases i with
    | web i => exact web_refusals l hat
    | node k => exact node_refusals l hat
    | webWriter i | nodeWriter k => exact writer_starts l hat
    | _ => exact conforms_does.mono fun _ _ _ => trivial
  start i := by
    cases i with
    | web i => exact rfl
    | node k => exact ⟨⟨rfl, rfl⟩, trivial⟩
    | webWriter i | nodeWriter k => exact rfl
    | _ => trivial

theorem refusalRules_hears {i : Tid} {h : Hist Resp} {c : Cmd} {r : Resp c} :
    (refusalRules i).hears h c r := by
  cases i <;> trivial

/-- Every event obeys them. -/
theorem refusals_of_event (hr : (machine S).Reach A (start rows users clock) cfg)
    {e : Ev Tid Resp} {past : List (Ev Tid Resp)} (hs : e :: past <:+ cfg.world.trace) :
    (refusalRules e.tid).may (own e.tid past) e.cmd :=
  hr.events refusal_follows (fun _ _ _ _ _ => refusalRules_hears)
    (fun past e => (refusalRules e.tid).may (own e.tid past) e.cmd) rfl
    (fun _ _ _ _ _ _ _ hmay _ _ => hmay) e past hs

/-- Only `spawn` makes a write task run. -/
theorem exec_running {t : Tid} {c : Cmd} {o : Choice} {r : Resp c} {s s' : State}
    (h : exec S t c o s = some (r, s')) :
    (∀ i, s'.webWriters i = .running →
      s.webWriters i = .running ∨ c = .webWriter (.spawn i)) ∧
    (∀ k, s'.nodeWriters k = .running →
      s.nodeWriters k = .running ∨ c = .nodeWriter (.spawn k)) := by
  cases c with
  | webWriter op =>
      obtain ⟨x, hexec, hx⟩ := Option.map_eq_some_iff.1 h
      cases hx
      refine ⟨fun i hrun => ?_, fun k hrun => .inl hrun⟩
      exact (TaskOp.exec_running hexec hrun).imp_right (congrArg Cmd.webWriter)
  | nodeWriter op =>
      obtain ⟨x, hexec, hx⟩ := Option.map_eq_some_iff.1 h
      cases hx
      refine ⟨fun i hrun => .inl hrun, fun k hrun => ?_⟩
      exact (TaskOp.exec_running hexec hrun).imp_right (congrArg Cmd.nodeWriter)
  | web | node | nodes | connections | tunnelSessions =>
      obtain ⟨x, -, hx⟩ := Option.map_eq_some_iff.1 h
      cases hx
      exact ⟨fun i hrun => .inl hrun, fun k hrun => .inl hrun⟩
  | ws op => cases op <;> cases h <;> exact ⟨fun i hrun => .inl hrun, fun k hrun => .inl hrun⟩
  | memoryDb op =>
      simp only [exec] at h
      split at h
      · split at h <;> cases h <;> exact ⟨fun i hrun => .inl hrun, fun k hrun => .inl hrun⟩
      · cases h
        exact ⟨fun i hrun => .inl hrun, fun k hrun => .inl hrun⟩
  | newV4 =>
      simp only [exec] at h
      split at h
      · cases h
        exact ⟨fun i hrun => .inl hrun, fun k hrun => .inl hrun⟩
      · cases h
  | db | now | generateChallenge | decodeWebJwt | decodeNodeJwt | encodeNodeJwt | respond | finish
  | environment =>
      cases h
      exact ⟨fun i hrun => .inl hrun, fun k hrun => .inl hrun⟩

/-- A browser's writer is spawned by the task of its socket. -/
theorem May.spawnsWeb {t : Tid} {h : Hist Resp} {i : Nat}
    (hm : May S t h (.webWriter (.spawn i))) : t = .web i := by
  cases t with
  | web j =>
      rcases hm with hc | ⟨_, -, hc⟩
      · cases hc
      · cases hc
        rfl
  | node k => cases hm with | login _ hc | loop _ _ hc | close _ _ hc => cases hc
  | request q => cases hm with | create _ hc | verify _ hc | heartbeat _ hc => cases hc
  | _ => cases hm

/-- An agent's too. -/
theorem May.spawnsNode {t : Tid} {h : Hist Resp} {k : Nat}
    (hm : May S t h (.nodeWriter (.spawn k))) : t = .node k := by
  cases t with
  | node j =>
      cases hm with
      | loop _ _ hc =>
          cases hc
          rfl
      | login _ hc | close _ _ hc => cases hc
  | web j => rcases hm with hc | ⟨_, -, hc⟩ <;> cases hc
  | request q => cases hm with | create _ hc | verify _ hc | heartbeat _ hc => cases hc
  | _ => cases hm

/-- The task of a socket does not write to it. -/
theorem May.writes {t : Tid} {h : Hist Resp} {frame : Frame}
    (hm : May S t h (.ws (.send frame))) : (∃ i, t = .webWriter i) ∨ ∃ k, t = .nodeWriter k := by
  cases t with
  | webWriter i => exact .inl ⟨i, rfl⟩
  | nodeWriter k => exact .inr ⟨k, rfl⟩
  | web j => rcases hm with hc | ⟨_, -, hc⟩ <;> cases hc
  | node k => cases hm with | login _ hc | loop _ _ hc | close _ _ hc => cases hc
  | request q => cases hm with | create _ hc | verify _ hc | heartbeat _ hc => cases hc
  | _ => cases hm

/-- **A write task that runs was spawned** by the task of its socket. -/
theorem spawned_of_running (hr : (machine S).Reach A (start rows users clock) cfg) :
    (∀ i, cfg.world.state.webWriters i = .running →
      (⟨.web i, .webWriter (.spawn i), ()⟩ : Ev Tid Resp) ∈ cfg.world.trace) ∧
    (∀ k, cfg.world.state.nodeWriters k = .running →
      (⟨.node k, .nodeWriter (.spawn k), ()⟩ : Ev Tid Resp) ∈ cfg.world.trace) := by
  refine server_inv (fun w =>
    (∀ i, w.state.webWriters i = .running →
      (⟨.web i, .webWriter (.spawn i), ()⟩ : Ev Tid Resp) ∈ w.trace) ∧
    (∀ k, w.state.nodeWriters k = .running →
      (⟨.node k, .nodeWriter (.spawn k), ()⟩ : Ev Tid Resp) ∈ w.trace)) ?_ ?_ hr
  · exact ⟨(fun i hrun => nomatch hrun), fun k hrun => nomatch hrun⟩
  · intro cfg t c o r s _ hI hmay _ hexec
    refine ⟨fun i hrun => ?_, fun k hrun => ?_⟩
    · rcases (exec_running hexec).1 i hrun with hold | rfl
      · exact List.mem_cons_of_mem _ (hI.1 i hold)
      · obtain rfl := hmay.spawnsWeb
        exact List.mem_cons_self
    · rcases (exec_running hexec).2 k hrun with hold | rfl
      · exact List.mem_cons_of_mem _ (hI.2 k hold)
      · obtain rfl := hmay.spawnsNode
        exact List.mem_cons_self

/-- **A write task that starts** was spawned before. -/
theorem spawned_of_started (hr : (machine S).Reach A (start rows users clock) cfg) {t : Tid} :
    (∀ i, (⟨t, .webWriter (.start i), true⟩ : Ev Tid Resp) ∈ cfg.world.trace →
      (⟨.web i, .webWriter (.spawn i), ()⟩ : Ev Tid Resp) ∈ cfg.world.trace) ∧
    (∀ k, (⟨t, .nodeWriter (.start k), true⟩ : Ev Tid Resp) ∈ cfg.world.trace →
      (⟨.node k, .nodeWriter (.spawn k), ()⟩ : Ev Tid Resp) ∈ cfg.world.trace) := by
  have hevents := server_events (fun past e =>
    (∀ i, e = ⟨t, .webWriter (.start i), true⟩ →
      (⟨.web i, .webWriter (.spawn i), ()⟩ : Ev Tid Resp) ∈ past) ∧
    (∀ k, e = ⟨t, .nodeWriter (.start k), true⟩ →
      (⟨.node k, .nodeWriter (.spawn k), ()⟩ : Ev Tid Resp) ∈ past)) (by
    intro cfg t c o r s hr _ _ hexec
    refine ⟨fun i heq => ?_, fun k heq => ?_⟩
    · cases heq
      obtain ⟨⟨started, writers⟩, hstart, hx⟩ := Option.map_eq_some_iff.1 hexec
      cases hx
      exact (spawned_of_running hr).1 i (TaskOp.running_of_start hstart)
    · cases heq
      obtain ⟨⟨started, writers⟩, hstart, hx⟩ := Option.map_eq_some_iff.1 hexec
      cases hx
      exact (spawned_of_running hr).2 k (TaskOp.running_of_start hstart)) hr
  refine ⟨fun i hmem => ?_, fun k hmem => ?_⟩
  · obtain ⟨past, hs⟩ := exists_past hmem
    exact hs.subset (List.mem_cons_of_mem _ ((hevents _ past hs).1 i rfl))
  · obtain ⟨past, hs⟩ := exists_past hmem
    exact hs.subset (List.mem_cons_of_mem _ ((hevents _ past hs).2 k rfl))

/-- **One of the two**: a task that refuses spawns no writer, before or after. -/
theorem not_refused_of_spawned (hr : (machine S).Reach A (start rows users clock) cfg) {t : Tid}
    (refuses : Cmd → Bool) (ht : refusalRules t = Issues (OneOf refuses))
    {c c' : Cmd} {r : Resp c} {r' : Resp c'} (hspawn : c'.spawnsWriter = true)
    (hne : refuses c' = false) (hmem' : (⟨t, c', r'⟩ : Ev Tid Resp) ∈ cfg.world.trace)
    (hmem : (⟨t, c, r⟩ : Ev Tid Resp) ∈ cfg.world.trace) : refuses c = false := by
  obtain ⟨past, hs⟩ := exists_past hmem
  obtain ⟨past', hs'⟩ := exists_past hmem'
  have hmay := refusals_of_event hr hs
  have hmay' := refusals_of_event hr hs'
  dsimp only at hmay hmay'
  rw [ht] at hmay hmay'
  rcases List.suffix_or_suffix_of_suffix hs hs' with hle | hle
  · rcases List.suffix_cons_iff.1 hle with heq | hle
    · cases heq
      exact hne
    · exact hmay'.2 hspawn _ (mem_own.2 (hle.subset List.mem_cons_self))
  · rcases List.suffix_cons_iff.1 hle with heq | hle
    · cases heq
      exact hne
    · by_contra hrefuses
      have hunspawned := hmay.1 (eq_true_of_ne_false hrefuses) _
        (mem_own.2 (hle.subset List.mem_cons_self))
      dsimp only at hunspawned
      rw [hspawn] at hunspawned
      cases hunspawned

end Runs

/-! ## The two sockets -/

/-- The server's end of a connection. -/
inductive Socket where
  | web (i : Nat)
  | node (k : Nat)

/-- The task that logs the peer in and closes the socket. -/
def Socket.handler : Socket → Tid
  | .web i => .web i
  | .node k => .node k

/-- The task that writes to the socket. -/
def Socket.writer : Socket → Tid
  | .web i => .webWriter i
  | .node k => .nodeWriter k

/-- `wait_for_auth` has put its failure frame into the queue of the socket. -/
inductive Refused (tr : List (Ev Tid Resp)) : Socket → Frame → Prop
  | web {i : Nat} {message : String} {msgId : Option UInt32}
      (h : ⟨.web i, .web (.send i (.error .authentication message msgId)), true⟩ ∈ tr) :
      Refused tr (.web i) (Frame.ofWeb (.error .authentication message msgId))
  | node {k : Nat} {nodeId : Uuid} {version : String}
      (h : ⟨.node k, .node (.send k (.authResponse nodeId false version)), true⟩ ∈ tr) :
      Refused tr (.node k) (Frame.ofNode (.authResponse nodeId false version))

/-- The frame was written to the socket. -/
def WrittenTo (tr : List (Ev Tid Resp)) (p : Socket) (frame : Frame) : Prop :=
  ∃ t, (t = p.handler ∨ t = p.writer) ∧ ⟨t, .ws (.send frame), true⟩ ∈ tr

/-- The handler has closed the socket. -/
def ClosedBy (tr : List (Ev Tid Resp)) (p : Socket) : Prop :=
  ⟨p.handler, .ws .close, ()⟩ ∈ tr

/-- **No refusal is written.**  In every run, a socket whose login was refused is never written
to: the frame lies in a queue that nobody reads. -/
theorem refusals_unwritten {S : Setup} {A : Restriction} {rows : DashMap Uuid NodeRow}
    {users : List Uuid} {clock : Time} {cfg : Config State Tid Resp Label}
    (hr : (machine S).Reach A (start rows users clock) cfg) {p : Socket} {frame : Frame}
    (hrefused : Refused cfg.world.trace p frame) :
    ∀ written, ¬ WrittenTo cfg.world.trace p written := by
  rintro written ⟨t, ht, hmem⟩
  obtain ⟨past, hs⟩ := exists_past hmem
  have hwrites : (∃ i, t = .webWriter i) ∨ ∃ k, t = .nodeWriter k := by
    refine server_events (fun _ e => e.cmd = .ws (.send written) →
      (∃ i, e.tid = .webWriter i) ∨ ∃ k, e.tid = .nodeWriter k) ?_ hr _ past hs rfl
    intro cfg t c o r s _ hmay _ _ heq
    dsimp only at heq
    subst heq
    exact hmay.writes
  have hafter := refusals_of_event hr hs
  cases hrefused with
  | @web i message msgId hrefused =>
      obtain rfl : t = .webWriter i := by
        rcases ht with rfl | rfl
        · rcases hwrites with ⟨j, hj⟩ | ⟨k, hk⟩
          · cases hj
          · cases hk
        · rfl
      have hstart := hs.subset (List.mem_cons_of_mem _ (mem_own.1 (hafter written rfl)))
      cases not_refused_of_spawned hr Cmd.refusesWeb rfl rfl rfl
        ((spawned_of_started hr).1 i hstart) hrefused
  | @node k nodeId version hrefused =>
      obtain rfl : t = .nodeWriter k := by
        rcases ht with rfl | rfl
        · rcases hwrites with ⟨j, hj⟩ | ⟨k, hk⟩
          · cases hj
          · cases hk
        · rfl
      have hstart := hs.subset (List.mem_cons_of_mem _ (mem_own.1 (hafter written rfl)))
      cases not_refused_of_spawned hr Cmd.refusesNode rfl rfl rfl
        ((spawned_of_started hr).2 k hstart) hrefused

/-- A browser logs in with a token that does not verify. -/
def forgedSchedule : List (Tid × Choice) :=
  idle (.web 0) 1 ++ [(.web 0, fromWeb (.auth "forged" (Uuid.display 10) "0.1.0" (some 7))),
    (.web 0, { uuid := 77 })] ++ idle (.web 0) 3

/-- The only client was refused and its socket closed. -/
def refusesForged : List (Ev Tid Resp) → Bool
  | [⟨.web 0, .ws .close, _⟩, ⟨.web 0, .web (.send 0 (.error .authentication _ _)), true⟩,
      ⟨_, .decodeWebJwt _, _⟩, ⟨_, .newV4, _⟩, ⟨_, .ws .next, _⟩] => true
  | _ => false

/-- The login is refused, the refusal lies in the queue, and the socket is closed. -/
theorem forged_refused : ∃ cfg, (machine (sample loginRequests)).Reach Free sampleStart cfg ∧
    (∃ frame, Refused cfg.world.trace (.web 0) frame) ∧ ClosedBy cfg.world.trace (.web 0) ∧
    ∀ e ∈ cfg.world.trace, ∀ frame, e.cmd ≠ .ws (.send frame) := by
  have hrun : ((machine (sample loginRequests)).run (fun _ _ _ _ => true) forgedSchedule
      sampleStart).any (fun cfg => refusesForged cfg.world.trace) = true := by
    decide +kernel
  obtain ⟨cfg, hr, hend⟩ := Machine.reach_of_run (A := Free) (fun _ _ _ _ _ => trivial) hrun
  refine ⟨cfg, hr, ?_⟩
  unfold refusesForged at hend
  split at hend
  · next htrace =>
      rw [htrace]
      refine ⟨⟨_, .web (List.mem_cons_of_mem _ List.mem_cons_self)⟩, List.mem_cons_self, ?_⟩
      simp
  · cases hend

theorem refusals_unwritten_of_forged :
    ∃ cfg, (machine (sample loginRequests)).Reach Free sampleStart cfg ∧
      ∃ frame, Refused cfg.world.trace (.web 0) frame ∧
        ∀ written, ¬ WrittenTo cfg.world.trace (.web 0) written := by
  obtain ⟨cfg, hr, ⟨frame, hrefused⟩, -⟩ := forged_refused
  exact ⟨cfg, hr, frame, hrefused, refusals_unwritten hr hrefused⟩

/-- **A browser with a forged token** sees its socket closed, and nothing else. -/
theorem forged_unreported :
    ¬ ∀ cfg, (machine (sample loginRequests)).Reach Free sampleStart cfg →
      ∀ p frame, Refused cfg.world.trace p frame → ClosedBy cfg.world.trace p →
        WrittenTo cfg.world.trace p frame := by
  intro hall
  obtain ⟨cfg, hr, ⟨frame, hrefused⟩, hclosed, hnone⟩ := forged_refused
  obtain ⟨t, -, hmem⟩ := hall cfg hr _ frame hrefused hclosed
  exact hnone _ hmem frame rfl

end Phirepass.Server
