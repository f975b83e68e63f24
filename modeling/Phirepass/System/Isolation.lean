/-
# `Phirepass.System.Isolation` — what a browser sends reaches its own tunnels only

On the server a tunnel is found under a node and a session id, and the entry
says whose it is; on the agent it is found under the connection id and the
session id, and a transfer under the connection id and its own.  So the
connection id the server puts into a frame is what decides:

    forwarded   by the browser whose id the frame carries       (`Isolated.forward`)
    handed      to a tunnel with that connection id             (`Isolated.handed`)
    used        a transfer a tunnel of that connection started  (`Isolated.uploads`, …)

The lookup and the sending are two steps.  Between them the tunnel may go, and
the frame is sent all the same (`forwarded_unbound`).
-/
import Phirepass.System.Network

namespace Phirepass.System

open Rust Interleave

/-- The frame the task read last. -/
def lastRead : Hist Agent.Resp → Option NodeFrameData
  | [] => none
  | ⟨.ws _ .next, m⟩ :: _ => m.nodeFrame?
  | _ :: h => lastRead h

/-- The command handed something to the tunnel `t`. -/
def Feeds (t : Nat) (c : Agent.Cmd) (r : Agent.Resp c) : Prop :=
  (∃ cmd, c.FeedsSsh t cmd r) ∨ ∃ cmd, c.FeedsSftp t cmd r

/-- Before it sends on the message it has just read, the task has found the session `sid` of
node `n` bound to `cid`, and then the node, behind socket `k`. -/
def FoundBound (h : Hist Server.Resp) (n : Uuid) (sid : UInt32) (cid : Uuid) (k : Nat) : Prop :=
  ∃ info m h', h = ⟨.nodes (.get n), some info⟩ ::
    ⟨.tunnelSessions (.get ⟨n, sid⟩), some (cid, n)⟩ :: ⟨.ws .next, m⟩ :: h' ∧ info.tx = k

/-- Browsers are kept apart. -/
structure Isolated (cfg : Network) : Prop where
  /-- Every entry of `tunnel_sessions` has the node of its key in its value. -/
  entry : ∀ key cid n, cfg.left.world.state.tunnelSessions.lookup key = some (cid, n) →
    n = key.nodeId
  /-- A frame for a tunnel is sent by the browser whose id it carries, to a node at which it
  found the session bound to that id. -/
  forward : ∀ i k g r past cid sid,
    ⟨i, .node (.send k g), r⟩ :: past <:+ cfg.left.world.trace → g.addressee = some (cid, sid) →
      ∃ w n, i = .web w ∧ Server.Drew past w cid ∧ Server.Registered past k n ∧
        FoundBound (own (.web w) past) n sid cid k
  /-- What a tunnel is handed comes out of a frame of its own browser, and no other sent it. -/
  handed : ∀ i c r past t, ⟨i, c, r⟩ :: past <:+ cfg.right.world.trace → Feeds t c r →
    ∃ tn g, cfg.right.world.state.tunnels[t]? = some tn ∧ lastRead (own i past) = some g ∧
      g.addressee = some (tn.cid, tn.sid) ∧
      (∃ w, Server.Enqueued cfg.left.world.trace (.web w) tn.conn g) ∧
      ∀ w cid, Server.Enqueued cfg.left.world.trace (.web w) tn.conn g →
        Server.Drew cfg.left.world.trace w cid → cid = tn.cid
  /-- An upload that a tunnel finds, other than to clear it away, was started by a tunnel of
  the same browser. -/
  uploads : ∀ t tn k op r key, Agent.IsTunnel cfg.right.world.trace t tn →
    (⟨.tunnel t, .uploads k op, r⟩ : Ev Agent.Tid Agent.Resp) ∈ cfg.right.world.trace →
    op.Finds key r → (∀ key', op ≠ .remove key') →
      k = tn.conn ∧ key.1 = tn.cid ∧ ∃ t' tn', Agent.IsTunnel cfg.right.world.trace t' tn' ∧
        tn'.conn = k ∧ tn'.cid = tn.cid ∧ Agent.StartedUpload cfg.right.world.trace t' k key
  /-- So was one whose file it writes to, the last time included. -/
  written : ∀ t tn file data r past, Agent.IsTunnel cfg.right.world.trace t tn →
    ⟨.tunnel t, .sftp (.writeAll file data), r⟩ :: past <:+ cfg.right.world.trace →
      ∃ id upload last e h' t' tn', own (.tunnel t) past = e :: h' ∧
        Agent.FindsUpload tn.conn (tn.cid, id) upload last e ∧ upload.sftpFile = file ∧
        Agent.IsTunnel cfg.right.world.trace t' tn' ∧ tn'.conn = tn.conn ∧ tn'.cid = tn.cid ∧
        Agent.StartedUpload cfg.right.world.trace t' tn.conn (tn.cid, id)
  /-- And a download. -/
  downloads : ∀ t tn k op r key, Agent.IsTunnel cfg.right.world.trace t tn →
    (⟨.tunnel t, .downloads k op, r⟩ : Ev Agent.Tid Agent.Resp) ∈ cfg.right.world.trace →
    op.Finds key r → (∀ key', op ≠ .remove key') →
      k = tn.conn ∧ key.1 = tn.cid ∧ ∃ t' tn', Agent.IsTunnel cfg.right.world.trace t' tn' ∧
        tn'.conn = k ∧ tn'.cid = tn.cid ∧ Agent.StartedDownload cfg.right.world.trace t' k key

section Isolation

variable {Ss : Server.Setup} {Sa : Agent.Setup} {As : Server.Restriction} {Aa : Agent.Restriction}
  {rows : DashMap Uuid Server.NodeRow} {users : List Uuid} {clock : Server.Time} {cfg : Network}

/-! ## On the server -/

/-- A frame for a tunnel was sent by the browser it names, to a node that has the tunnel. -/
theorem foundBound_of_send {A : Server.Restriction} {cfg : Config Server.State Server.Tid
    Server.Resp Server.Label} (hr : (Server.machine Ss).Reach A (Server.start rows users clock) cfg)
    {i : Server.Tid} {k : Nat} {g : NodeFrameData} {r : Bool}
    {past : List (Ev Server.Tid Server.Resp)} {key : Uuid × UInt32}
    (hs : ⟨i, .node (.send k g), r⟩ :: past <:+ cfg.world.trace) (hg : g.addressee = some key) :
    ∃ w n, i = .web w ∧ Server.Drew past w key.1 ∧ Server.Registered past k n ∧
      FoundBound (own (.web w) past) n key.2 key.1 k := by
  refine Server.server_events (fun past e => ∀ i k g r key, e = ⟨i, .node (.send k g), r⟩ →
    g.addressee = some key → ∃ w n, i = .web w ∧ Server.Drew past w key.1 ∧
      Server.Registered past k n ∧ FoundBound (own (.web w) past) n key.2 key.1 k) ?_ hr _ past hs
    i k g r key rfl hg
  intro cfg i c o r s hr hmay _ _ j k g r' key heq hg
  cases heq
  obtain ⟨w, m, f, target, t, n, info, h', rfl, hl, hown, rfl, -, -⟩ := hmay.forwards hg
  have hfound : (⟨.web w, .tunnelSessions (.get ⟨t, key.2⟩), some (key.1, n)⟩ :
      Ev Server.Tid Server.Resp) ∈ cfg.world.trace := by
    rw [← mem_own, hown]
    simp
  have hnode : (⟨.web w, .nodes (.get n), some info⟩ : Ev Server.Tid Server.Resp)
      ∈ cfg.world.trace := by
    rw [← mem_own, hown]
    exact List.mem_cons_self
  obtain ⟨rfl, -⟩ := Server.opened_of_get hr hfound
  exact ⟨w, n, rfl, hl.drew, Server.registered_of_get hr hnode, info, m, h', hown, rfl⟩

/-! ## On the agent -/

/-- What a tunnel is handed was read just before, in a frame that names it. -/
theorem lastRead_of_feeds {A : Agent.Restriction} {cfg : Config Agent.State Agent.Tid Agent.Resp
    Agent.Label} (hr : (Agent.machine Sa).Reach A Agent.start cfg) {i : Agent.Tid} {c : Agent.Cmd}
    {r : Agent.Resp c} {past : List (Ev Agent.Tid Agent.Resp)} {t : Nat}
    (hs : ⟨i, c, r⟩ :: past <:+ cfg.world.trace) (hfeed : Feeds t c r) :
    ∃ tn g, cfg.world.state.tunnels[t]? = some tn ∧ lastRead (own i past) = some g ∧
      Agent.Read cfg.world.trace tn.conn g ∧ g.addressee = some (tn.cid, tn.sid) := by
  obtain ⟨k, key, handle, m, g, h', rfl, hown, htask, hm, hg⟩ : ∃ k key handle m g h',
      i = .reader k ∧ own i past = ⟨.sessions k (.get key), some handle⟩ ::
        ⟨.ws k .next, m⟩ :: h' ∧ handle.task = t ∧ m.nodeFrame? = some g ∧
        g.addressee = some key := by
    have hmay := Agent.may_of_event hr hs
    rcases hfeed with ⟨cmd, hfeed⟩ | ⟨cmd, hfeed⟩
    · obtain ⟨k, key, m, g, h', rfl, hown, hm, hg⟩ := hmay.feedsSsh hfeed
      exact ⟨k, key, _, m, g, h', rfl, hown, rfl, hm, Agent.addressee_of_sshDelivery hg⟩
    · obtain ⟨k, key, m, g, h', rfl, hown, hm, hg⟩ := hmay.feedsSftp hfeed
      exact ⟨k, key, _, m, g, h', rfl, hown, rfl, hm, Agent.addressee_of_sftpDelivery hg⟩
  have hin {e : Sigma Agent.Resp}
      (he : e ∈ (⟨.sessions k (.get key), some handle⟩ :: ⟨.ws k .next, m⟩ :: h' :
        Hist Agent.Resp)) : (⟨.reader k, e.1, e.2⟩ : Ev Agent.Tid Agent.Resp)
        ∈ cfg.world.trace := by
    rw [← hown] at he
    exact ((List.suffix_cons _ _).trans hs).subset (mem_own.1 he)
  obtain ⟨tn, htn, rfl, rfl, -⟩ := Agent.tunnel_of_get hr _ k key _ (hin List.mem_cons_self)
  rw [htask] at htn
  refine ⟨tn, g, htn, ?_, ⟨m, hin (List.mem_cons_of_mem _ List.mem_cons_self), hm⟩, hg⟩
  rw [hown]
  exact hm

/-- A tunnel uses uploads that were started for its browser. -/
theorem upload_of_tunnel {A : Agent.Restriction} {cfg : Config Agent.State Agent.Tid Agent.Resp
    Agent.Label} (hr : (Agent.machine Sa).Reach A Agent.start cfg) {t k : Nat} {tn : Agent.Tunnel}
    {op : MapOp Agent.Key Agent.FileUpload} {r : op.Resp} {key : Agent.Key}
    (htn : Agent.IsTunnel cfg.world.trace t tn)
    (hmem : (⟨.tunnel t, .uploads k op, r⟩ : Ev Agent.Tid Agent.Resp) ∈ cfg.world.trace)
    (hf : op.Finds key r) (hop : ∀ key', op ≠ .remove key') :
    k = tn.conn ∧ key.1 = tn.cid ∧ ∃ t' tn', Agent.IsTunnel cfg.world.trace t' tn' ∧
      tn'.conn = k ∧ tn'.cid = tn.cid ∧ Agent.StartedUpload cfg.world.trace t' k key := by
  obtain ⟨past, hs⟩ := exists_past hmem
  obtain ⟨tn', hb, rfl, hcid⟩ := (Agent.may_of_event hr hs).usesUpload hf hop
  obtain rfl := Agent.isTunnel_unique hr htn (hb.isTunnel.mono ((List.suffix_cons _ _).trans hs))
  have hcid : key.1 = tn.cid := by
    rcases hcid with hcid | ⟨data, rfl⟩
    · exact hcid
    · obtain ⟨-, rfl⟩ := hf
      refine Agent.agent_events (fun _ e => ∀ i k key tn data, e = ⟨i, .uploads k (.removeIf key
        (Agent.cancels tn data key)), true⟩ → key.1 = tn.cid) ?_ hr _ past hs (.tunnel t) tn.conn key
        tn data rfl
      intro cfg i c o r s _ _ _ hexec j k key tn data heq
      cases heq
      have hany := Agent.exec_uploads_answer hexec
      simp only [MapOp.answer, Option.some.injEq, Option.any_eq_true, Agent.cancels,
        Bool.and_eq_true, beq_iff_eq] at hany
      obtain ⟨upload, -, hcid, -⟩ := hany
      exact hcid
  obtain ⟨t', tn', htn', hconn, hcid', hstart⟩ := Agent.startedUpload_of_finds hr hf hmem
  exact ⟨rfl, hcid, t', tn', htn', hconn, hcid'.trans hcid, hstart⟩

/-- So it does downloads. -/
theorem download_of_tunnel {A : Agent.Restriction} {cfg : Config Agent.State Agent.Tid Agent.Resp
    Agent.Label} (hr : (Agent.machine Sa).Reach A Agent.start cfg) {t k : Nat} {tn : Agent.Tunnel}
    {op : MapOp Agent.Key Agent.FileDownload} {r : op.Resp} {key : Agent.Key}
    (htn : Agent.IsTunnel cfg.world.trace t tn)
    (hmem : (⟨.tunnel t, .downloads k op, r⟩ : Ev Agent.Tid Agent.Resp) ∈ cfg.world.trace)
    (hf : op.Finds key r) (hop : ∀ key', op ≠ .remove key') :
    k = tn.conn ∧ key.1 = tn.cid ∧ ∃ t' tn', Agent.IsTunnel cfg.world.trace t' tn' ∧
      tn'.conn = k ∧ tn'.cid = tn.cid ∧ Agent.StartedDownload cfg.world.trace t' k key := by
  obtain ⟨past, hs⟩ := exists_past hmem
  obtain ⟨tn', hb, rfl, hcid⟩ := (Agent.may_of_event hr hs).usesDownload hf hop
  obtain rfl := Agent.isTunnel_unique hr htn (hb.isTunnel.mono ((List.suffix_cons _ _).trans hs))
  obtain ⟨t', tn', htn', hconn, hcid', hstart⟩ := Agent.startedDownload_of_finds hr hf hmem
  exact ⟨rfl, hcid, t', tn', htn', hconn, hcid'.trans hcid, hstart⟩

/-- What a tunnel writes goes into the file of an upload that was started for its browser. -/
theorem upload_of_write {A : Agent.Restriction} {cfg : Config Agent.State Agent.Tid Agent.Resp
    Agent.Label} (hr : (Agent.machine Sa).Reach A Agent.start cfg) {t : Nat} {tn : Agent.Tunnel}
    {file : Agent.File} {data : Bytes} {r : Except String Unit}
    {past : List (Ev Agent.Tid Agent.Resp)} (htn : Agent.IsTunnel cfg.world.trace t tn)
    (hs : ⟨.tunnel t, .sftp (.writeAll file data), r⟩ :: past <:+ cfg.world.trace) :
    ∃ id upload last e h' t' tn', own (.tunnel t) past = e :: h' ∧
      Agent.FindsUpload tn.conn (tn.cid, id) upload last e ∧ upload.sftpFile = file ∧
      Agent.IsTunnel cfg.world.trace t' tn' ∧ tn'.conn = tn.conn ∧ tn'.cid = tn.cid ∧
      Agent.StartedUpload cfg.world.trace t' tn.conn (tn.cid, id) := by
  have hpast := (List.suffix_cons _ _).trans hs
  obtain ⟨_, tn', chunk, msgId, upload, seen, last, e, h', heq, hb, hown, hfinds, -, hfile, -⟩ :=
    (Agent.may_of_event hr hs).writesFile
  cases heq
  obtain rfl := Agent.isTunnel_unique hr htn (hb.isTunnel.mono hpast)
  have hmem : (⟨.tunnel t, e.1, e.2⟩ : Ev Agent.Tid Agent.Resp) ∈ cfg.world.trace := by
    refine hpast.subset (mem_own.1 ?_)
    rw [hown]
    exact List.mem_cons_self
  have hstart : ∃ t' tn', Agent.IsTunnel cfg.world.trace t' tn' ∧ tn'.conn = tn.conn ∧
      tn'.cid = tn.cid ∧ Agent.StartedUpload cfg.world.trace t' tn.conn (tn.cid, chunk.uploadId) := by
    cases hfinds with
    | got =>
        have hf : (MapOp.get (tn.cid, chunk.uploadId)).Finds (tn.cid, chunk.uploadId)
          (some upload) := ⟨rfl, rfl⟩
        exact Agent.startedUpload_of_finds hr hf hmem
    | took =>
        have hf : (MapOp.remove (tn.cid, chunk.uploadId)).Finds (tn.cid, chunk.uploadId)
          (some upload) := ⟨rfl, rfl⟩
        exact Agent.startedUpload_of_finds hr hf hmem
  obtain ⟨t', tn', htn', hconn, hcid, hstart⟩ := hstart
  exact ⟨chunk.uploadId, upload, last, e, h', t', tn', hown, hfinds, hfile, htn', hconn, hcid, hstart⟩

/-! ## End to end -/

/-- **Browsers are kept apart**, in every run of the server with one node's agents: what a
browser sends for a tunnel is handed to tunnels of its own, and those use transfers of their
own, whatever node, session and transfer ids the browser names. -/
theorem inbound_isolated (hr : (network Ss Sa).Reach As Aa (start rows users clock) cfg) :
    Isolated cfg where
  entry key cid n h := (Server.opened_of_session (server_reach hr) key cid n h).1
  forward _ _ _ _ _ _ _ hs hg := foundBound_of_send (server_reach hr) hs hg
  handed i c r past t hs hfeed := by
    obtain ⟨tn, g, htn, hlast, hread, hg⟩ := lastRead_of_feeds (agent_reach hr) hs hfeed
    have hsender {i : Server.Tid} (henq : Server.Enqueued cfg.left.world.trace i tn.conn g) :
        ∃ w, i = .web w ∧ Server.Drew cfg.left.world.trace w tn.cid := by
      obtain ⟨past, hs⟩ := exists_past henq
      obtain ⟨w, n, rfl, hdrew, -⟩ := foundBound_of_send (server_reach hr) hs hg
      exact ⟨w, rfl, hdrew.mono ((List.suffix_cons _ _).trans hs)⟩
    refine ⟨tn, g, htn, hlast, hg, ?_, fun w cid henq hdrew => ?_⟩
    · obtain ⟨i, henq⟩ := enqueued_of_read hr hread
      obtain ⟨w, rfl, -⟩ := hsender henq
      exact ⟨w, henq⟩
    · obtain ⟨w', heq, hdrew'⟩ := hsender henq
      cases heq
      exact Server.drew_once (server_reach hr) hdrew hdrew'
  uploads _ _ _ _ _ _ htn hmem hf hop := upload_of_tunnel (agent_reach hr) htn hmem hf hop
  written _ _ _ _ _ _ htn hs := upload_of_write (agent_reach hr) htn hs
  downloads _ _ _ _ _ _ htn hmem hf hop := download_of_tunnel (agent_reach hr) htn hmem hf hop

end Isolation

/-! ## Two runs -/

/-- The shell of tunnel 0 is given the typed byte. -/
def isInput : Ev Agent.Tid Agent.Resp → Bool
  | ⟨.reader 0, .sshStdin (.send 0 (.data [104])), true⟩ => true
  | _ => false

/-- The browser types, and its shell is handed what it typed. -/
theorem inbound_isolated_of_input :
    ∃ cfg, (sampleNetwork fun _ => 0).Reach Free Free sampleStart cfg ∧ Isolated cfg ∧
      (⟨.reader 0, .sshStdin (.send 0 (.data [104])), true⟩ : Ev Agent.Tid Agent.Resp)
        ∈ cfg.right.world.trace := by
  have hrun : (follow (fun _ => 0) (shell ++ type 0 1 [104] 4 ++ sendDown 0 ++
      onAgent (Agent.deliver 0 (.tunnelData 0 77 1 [104])))).any
      (fun cfg => cfg.right.world.trace.any isInput) = true := by
    decide +kernel
  obtain ⟨cfg, hr, hend⟩ := reach_of_follow hrun
  refine ⟨cfg, hr, inbound_isolated hr, ?_⟩
  obtain ⟨e, hmem, he⟩ := List.any_eq_true.1 hend
  unfold isInput at he
  split at he
  · exact hmem
  · cases he

/-- A frame of client `77` for tunnel `1` was just forwarded to node `10`. -/
def forwardsInput : List (Ev Server.Tid Server.Resp) → Bool
  | ⟨.web 0, .node (.send 0 g), true⟩ :: past =>
      decide (Server.Registered past 0 10) && decide (g.addressee = some (77, 1))
  | _ => false

/-- **A frame is forwarded to a session that is gone.**  It goes between the lookup and the
sending. -/
theorem forwarded_unbound :
    ∃ cfg past g, (sampleNetwork fun _ => 0).Reach Free Free sampleStart cfg ∧
      cfg.left.world.trace = ⟨.web 0, .node (.send 0 g), true⟩ :: past ∧
      Server.Registered past 0 10 ∧ g.addressee = some (77, 1) ∧
      cfg.left.world.state.tunnelSessions.lookup ⟨10, 1⟩ = none := by
  have hrun : (follow (fun _ => 0) (shell ++ type 0 1 [104] 2 ++ hangUp 0 0 77 1 ++
      onServer (Server.idle (.web 0) 1))).any
      (fun cfg => forwardsInput cfg.left.world.trace &&
        decide (cfg.left.world.state.tunnelSessions.lookup ⟨10, 1⟩ = none)) = true := by
    decide +kernel
  obtain ⟨cfg, hr, hend⟩ := reach_of_follow hrun
  rw [Bool.and_eq_true, decide_eq_true_eq] at hend
  obtain ⟨hforwards, hnone⟩ := hend
  unfold forwardsInput at hforwards
  split at hforwards
  · next g past htrace =>
      rw [Bool.and_eq_true, decide_eq_true_eq, decide_eq_true_eq] at hforwards
      exact ⟨cfg, past, g, hr, htrace, hforwards.1, hforwards.2, hnone⟩
  · cases hforwards

end Phirepass.System
