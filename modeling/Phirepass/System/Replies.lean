/-
# `Phirepass.System.Replies` — what a browser asks and what it is told

    asked w → sent k → heard k → queued k → received k → delivered k
    browser   queue    wire      tunnel     wire         queue

Four parties pass on the frames of an SFTP session, and any of them may drop
one: the browser's task, which finds no session or no node, the reader of the
agent, the tunnel, whose calls fail, and the node's task.  What is left is
still in order.  So the replies that come back from a session answer, one by
one, requests its browser made, each with the `msg_id` of its own request
(`replies_fulfil`).  What the replies look like is said in the browser's own
frames (`Fulfils`).
-/
import Phirepass.Agent.Replies
import Phirepass.Server.InOrder
import Phirepass.System.Input
import Phirepass.System.Notices

namespace Phirepass.System

open Rust Interleave

/-- What a session of the node `n` may be sent for a frame of its browser. -/
inductive Fulfils (S : Server.Setup) (n : Uuid) (sid : UInt32) : WebFrameData → WebFrameData → Prop
  | listed {target path : String} {msgId : Option UInt32} {dir : SFTPListItem}
      (ht : S.crates.parseUuid target = .ok n) :
      Fulfils S n sid (.sftpListItems dir.path sid dir msgId) (.sftpList target path sid msgId)
  | downloadStarted {target : String} {msgId : Option UInt32} {download : SFTPDownloadStart}
      {id : UInt32} {size : UInt64} (ht : S.crates.parseUuid target = .ok n) :
      Fulfils S n sid
        (.sftpDownloadStartResponse sid msgId ⟨id, size, Agent.totalChunks size⟩)
        (.sftpDownloadStart target sid msgId download)
  | downloadChunk {target : String} {msgId : Option UInt32} {downloadId chunkIndex : UInt32}
      {bytes : Bytes} (ht : S.crates.parseUuid target = .ok n) (hbytes : bytes ≠ []) :
      Fulfils S n sid
        (.sftpDownloadChunk sid msgId
          ⟨downloadId, chunkIndex, UInt32.ofNat bytes.length, bytes⟩)
        (.sftpDownloadChunkRequest target sid msgId downloadId chunkIndex)
  | uploadStarted {target : String} {msgId : Option UInt32} {upload : SFTPUploadStart}
      {id : UInt32} (ht : S.crates.parseUuid target = .ok n) :
      Fulfils S n sid (.sftpUploadStartResponse sid msgId ⟨id⟩)
        (.sftpUploadStart target sid msgId upload)
  | uploadAcked {target : String} {msgId : Option UInt32} {chunk : SFTPUploadChunk}
      (ht : S.crates.parseUuid target = .ok n) :
      Fulfils S n sid (.sftpUploadChunkAck sid chunk.uploadId chunk.chunkIndex)
        (.sftpUpload target sid msgId chunk)

/-- The reply of the session `sid` that is put into the queue of a browser. -/
def replyOf (sid : UInt32) (y : Nat × WebFrameData) : Option WebFrameData :=
  if Agent.replySid y.2 = some sid then some y.2 else none

section Replies

variable {Ss : Server.Setup} {Sa : Agent.Setup} {As : Server.Restriction} {Aa : Agent.Restriction}
  {rows : DashMap Uuid Server.NodeRow} {users : List Uuid} {clock : Server.Time} {cfg : Network}
  {t w : Nat} {tn : Agent.Tunnel} {n cid : Uuid} {sid : UInt32}

/-- The two ends of the row fit. -/
theorem fulfils_of_answered {k : Nat} {reg : Nat → Uuid → Prop} (hreg : ∀ m, reg k m → m = n)
    {frame f : WebFrameData} {g : NodeFrameData} (hanswered : Agent.Answered cid sid frame g)
    (hsid : (Agent.replySid frame).isSome = true)
    (hforwards : Server.Forwards Ss reg cid (k, g) f) : Fulfils Ss n sid frame f := by
  obtain ⟨cmd, hg, hreply⟩ := hanswered
  cases hforwards with
  | openTunnel => cases hg
  | relayed hf ht hn =>
      obtain rfl := hreg _ hn
      cases f with
      | sftpList =>
          cases hf
          cases hg
          cases hreply with
          | listed => exact .listed ht
          | failed => cases hsid
      | sftpDownloadStart =>
          cases hf
          cases hg
          cases hreply with
          | downloadStarted => exact .downloadStarted ht
          | failed => cases hsid
      | sftpDownloadChunkRequest =>
          cases hf
          cases hg
          cases hreply with
          | downloadChunk hbytes => exact .downloadChunk ht hbytes
          | failed => cases hsid
      | sftpUploadStart =>
          cases hf
          cases hg
          cases hreply with
          | uploadStarted => exact .uploadStarted ht
          | failed => cases hsid
      | sftpUpload =>
          cases hf
          cases hg
          cases hreply with
          | uploadAcked => exact .uploadAcked ht
          | failed => cases hsid
      | sftpDelete =>
          cases hf
          cases hg
          cases hreply with
          | failed => cases hsid
      | _ => cases hf <;> cases hg

/-- **Down.**  What a connection hears for a client answers what the client's browser asks. -/
theorem asked_heard (hr : (network Ss Sa).Reach As Aa (start rows users clock) cfg)
    (hdrew : Server.Drew cfg.left.world.trace w cid) (k : Nat) :
    List.SublistForall₂
      (fun g f => Server.Forwards Ss (Server.Registered cfg.left.world.trace) cid (k, g) f)
      ((stream (Agent.heard k) cfg.right.world.trace).filter (Server.isFor cid))
      (stream (Server.asked w) cfg.left.world.trace) := by
  refine answers_of_sublist (List.Sublist.filter _ ?_) (Server.asked_sent (server_reach hr) hdrew k)
  rw [sent_heard hr]
  exact List.sublist_append_left _ _

/-- A frame that makes a tunnel answer is one for its client. -/
theorem isFor_of_answered {frame : WebFrameData} {g : NodeFrameData}
    (h : Agent.Answered cid sid frame g) : Server.isFor cid g = true := by
  obtain ⟨cmd, hg, -⟩ := h
  cases g <;> cases hg <;> exact beq_self_eq_true _

/-- The replies that reach browsers are replies. -/
theorem replies_of_replies (l : List (Nat × WebFrameData)) :
    (l.filterMap (replyOf sid)).filterMap
        (fun frame => if Agent.replySid frame = some sid then some frame else none) =
      l.filterMap (replyOf sid) := by
  rw [List.filterMap_filterMap]
  refine List.filterMap_congr fun y _ => ?_
  unfold replyOf
  split
  · next h => exact if_pos h
  · rfl

/-- **Up.**  What a socket of a node delivers was put on the queue of its connection, in order. -/
theorem deliveries_sublist (hr : (network Ss Sa).Reach As Aa (start rows users clock) cfg)
    {α : Type} {p : Nat × WebFrameData → Option α} {q : NodeFrameData → Option α} (k : Nat)
    (hpq : ∀ y g, Server.Delivery y g → p y = q g)
    (hlogin : ∀ token nodeId version, q (.auth token nodeId version) = none) :
    ((stream (Server.delivered k) cfg.left.world.trace).filterMap p).Sublist
      ((stream (Agent.queued k) cfg.right.world.trace).filterMap q) := by
  have hpast (l : List NodeFrameData) : l.filterMap q = (l.filter pastLogin).filterMap q := by
    rw [List.filterMap_filter]
    refine List.filterMap_congr fun g _ => ?_
    cases g with
    | auth token nodeId version => exact hlogin token nodeId version
    | _ => rfl
  have hread : ((stream (Server.delivered k) cfg.left.world.trace).filterMap p).Sublist
      ((stream (received k) cfg.left.world.trace).filterMap q) :=
    sublist_of_answers (answers_filterMap (fun y g a hd hy => ⟨a, (hpq y g hd).symm.trans hy, rfl⟩)
      (Server.read_delivered (server_reach hr) k))
  rw [hpast] at hread
  rw [hpast]
  exact hread.trans ((received_sublist hr k).filterMap _)

/-- So were the replies of a session. -/
theorem delivered_sublist (hr : (network Ss Sa).Reach As Aa (start rows users clock) cfg)
    (k : Nat) :
    ((stream (Server.delivered k) cfg.left.world.trace).filterMap (replyOf sid)).Sublist
      ((stream (Agent.queued k) cfg.right.world.trace).filterMap (Agent.replyIn sid)) := by
  refine deliveries_sublist hr k (fun y g hd => ?_) fun token nodeId version => rfl
  cases hd <;> rfl

/-- **The replies of an SFTP session.**  In every run of the server with agent processes whose
counters have not come round, the replies that the server hands to browsers from a session answer,
one by one and in order, requests that the browser of the session made of its node. -/
theorem replies_fulfil
    (hr : (network Ss Sa).Reach Free (Agent.CounterLasts Sa) (start rows users clock) cfg)
    (htn : Agent.IsTunnel cfg.right.world.trace t tn)
    (hreg : Server.Registered cfg.left.world.trace tn.conn n)
    (hdrew : Server.Drew cfg.left.world.trace w tn.cid) :
    List.SublistForall₂ (Fulfils Ss n tn.sid)
      ((stream (Server.delivered tn.conn) cfg.left.world.trace).filterMap (replyOf tn.sid))
      (stream (Server.asked w) cfg.left.world.trace) := by
  have hserver := server_reach hr
  have hreplies := answers_of_sublist (delivered_sublist hr tn.conn)
    (Agent.heard_queued (fun _ _ _ _ h => h) (agent_reach hr) htn)
  -- what is answered was heard for the client
  have hheard := answers_filterMap
    (P := fun frame g => Agent.Answered tn.cid tn.sid frame g ∧
      (Agent.replySid frame).isSome = true)
    (p := fun frame => if Agent.replySid frame = some tn.sid then some frame else none)
    (q := Option.guard (Server.isFor tn.cid ·)) (fun frame g frame' h hp => by
      obtain ⟨hsid, heq⟩ := Option.ite_none_right_eq_some.1 hp
      cases heq
      refine ⟨g, ?_, h, Option.isSome_of_eq_some hsid⟩
      rw [Option.guard, if_pos (isFor_of_answered h)]) hreplies
  rw [replies_of_replies, List.filterMap_eq_filter] at hheard
  refine answers_imp ?_ (answers_trans hheard (asked_heard hr hdrew tn.conn))
  rintro frame f ⟨g, ⟨hanswered, hsid⟩, hforwards⟩
  exact fulfils_of_answered (fun m hm => Server.registered_unique hserver hm hreg) hanswered hsid
    hforwards

end Replies

/-! ## One run -/

/-- The browser of client `77` asks its session for a directory, and the agent's reader hands the
request to the tunnel. -/
def requestListing (path : String) (msgId : UInt32) : Schedule :=
  onServer ((.web 0, Server.fromWeb (.sftpList (Uuid.display 10) path 1 (some msgId))) ::
      Server.idle (.web 0) 4) ++
    sendDown 0 ++ onAgent (Agent.deliver 0 (.sftpList 77 path 1 (some msgId)))

/-- What the session answers, where the host knows no directory. -/
def listing (path : String) (msgId : UInt32) : WebFrameData :=
  .sftpListItems "" 1 ⟨path, "", .folder, [], ⟨0⟩⟩ (some msgId)

/-- It gets there. -/
def returnListing (path : String) (msgId : UInt32) : Schedule :=
  sendUp 0 (.webFrame (listing path msgId) (.sessionId 1)) 4

/-- Both requests are under way before the first is answered. -/
def listTwice : Schedule :=
  share .sftp ++ requestListing "a" 2 ++ requestListing "b" 3 ++
    onAgent (Agent.obey 0 5 ++ Agent.obey 0 5) ++ returnListing "a" 2 ++ returnListing "b" 3

/-- Tunnel `0` is that of client `77`, as session `1`. -/
def beginsFirst : Ev Agent.Tid Agent.Resp → Bool
  | ⟨.tunnel 0, .begin 0, tn⟩ => decide (tn.conn = 0 ∧ tn.cid = 77 ∧ tn.sid = 1)
  | _ => false

theorem tunnel_of_beginsFirst {tr : List (Ev Agent.Tid Agent.Resp)}
    (h : tr.any beginsFirst = true) :
    ∃ tn, Agent.IsTunnel tr 0 tn ∧ tn.conn = 0 ∧ tn.cid = 77 ∧ tn.sid = 1 := by
  obtain ⟨e, hmem, he⟩ := List.any_eq_true.1 h
  unfold beginsFirst at he
  split at he
  · next tn => exact ⟨tn, hmem, of_decide_eq_true he⟩
  · cases he

/-- Both answers are back. -/
def isFulfilled (cfg : Network) : Bool :=
  cfg.right.world.trace.any beginsFirst && decide (Server.Registered cfg.left.world.trace 0 10) &&
    decide (Server.Drew cfg.left.world.trace 0 77) &&
    decide ((stream (Server.delivered 0) cfg.left.world.trace).filterMap (replyOf 1) =
      [listing "a" 2, listing "b" 3])

theorem replies_fulfil_of_two :
    ∃ cfg, (sampleNetwork fun _ => 0).Reach Free (Agent.CounterLasts (sampleAgent fun _ => 0))
        sampleStart cfg ∧
      List.SublistForall₂ (Fulfils (Server.sample fun _ => .heartbeat none) 10 1)
        [listing "a" 2, listing "b" 3] (stream (Server.asked 0) cfg.left.world.trace) := by
  have hrun : ((sampleNetwork fun _ => 0).run (fun _ _ _ _ => true)
      (counterLasts (sampleAgent fun _ => 0)) listTwice sampleStart).any isFulfilled = true := by
    decide +kernel
  obtain ⟨cfg, hr, hend⟩ := Link.reach_of_run (fun _ _ _ _ _ => trivial) counterLasts_sound hrun
  simp only [isFulfilled, Bool.and_eq_true, decide_eq_true_eq] at hend
  obtain ⟨⟨⟨hbegins, hreg⟩, hdrew⟩, hreplies⟩ := hend
  obtain ⟨tn, htn, hconn, hcid, hsid⟩ := tunnel_of_beginsFirst hbegins
  have hall := replies_fulfil hr htn (hconn ▸ hreg) (hcid ▸ hdrew)
  rw [hconn, hsid, hreplies] at hall
  exact ⟨cfg, hr, hall⟩

end Phirepass.System
