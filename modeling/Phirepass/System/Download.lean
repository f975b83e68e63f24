/-
# `Phirepass.System.Download` — a file, chunk by chunk, from the host to the browser

`start_download` announces `⌈n / 65536⌉` chunks, and `download_file_chunk`
reads chunk `i` at the offset `i * 65536`, with one `read`.

    reads fill the buffer     every request is answered with the chunk asked
                              for, in any order and as often as asked
                              (`chunks_in_any_order`)
    reads may be short        the sequential client ends up with the pieces it
                              was given, which are the file exactly if no read
                              was short (`sequential_exact_iff`)

The next offset is computed from the index, so what a short read leaves out is
never asked for again.
-/
import Phirepass.Agent.Downloads
import Phirepass.Channel.Sftp

namespace Phirepass.System

open Rust Interleave Agent Channel

/-! ## What a file is cut into -/

/-- What one read at the offset of chunk `i` gives, if it gives at most `amount` bytes. -/
def filePiece (content : Bytes) (amount : Nat) (i : Nat) : Bytes :=
  (content.drop (i * CHUNK_SIZE)).take (min amount CHUNK_SIZE)

/-- The read of chunk `i` fills the buffer, or reaches the end of the file. -/
def Fills (content : Bytes) (amount i : Nat) : Prop :=
  min CHUNK_SIZE (content.length - i * CHUNK_SIZE) ≤ amount

section Pieces

variable {content : Bytes} {amount : Nat → Nat} {k : Nat}

/-- The first `k` pieces, the `i`th read giving at most `amount i` bytes. -/
def firstPieces (content : Bytes) (amount : Nat → Nat) (k : Nat) : Bytes :=
  (List.range k).flatMap fun i => filePiece content (amount i) i

theorem firstPieces_succ :
    firstPieces content amount (k + 1) =
      firstPieces content amount k ++ filePiece content (amount k) k := by
  rw [firstPieces, List.range_succ, List.flatMap_append]
  simp [firstPieces]

theorem length_filePiece {n i : Nat} :
    (filePiece content n i).length = min (min n CHUNK_SIZE) (content.length - i * CHUNK_SIZE) := by
  rw [filePiece, List.length_take, List.length_drop]

theorem length_firstPieces_le :
    (firstPieces content amount k).length ≤ min (k * CHUNK_SIZE) content.length := by
  induction k with
  | zero => exact Nat.zero_le _
  | succ k ih =>
      rw [firstPieces_succ, List.length_append, length_filePiece]
      rw [Nat.succ_mul]
      omega

/-- **No piece may be short**: the lengths add up only if every read filled its chunk. -/
theorem fills_of_length (h : (firstPieces content amount k).length = min (k * CHUNK_SIZE)
    content.length) : ∀ i < k, Fills content (amount i) i := by
  induction k with
  | zero =>
      intro i hi
      cases hi
  | succ k ih =>
      rw [firstPieces_succ, List.length_append, length_filePiece, Nat.succ_mul] at h
      have hle : (firstPieces content amount k).length ≤ min (k * CHUNK_SIZE) content.length :=
        length_firstPieces_le
      intro i hi
      rcases Nat.lt_succ_iff_lt_or_eq.1 hi with hlt | rfl
      · exact ih (by omega) i hlt
      · unfold Fills
        omega

/-- Full pieces are the beginning of the file. -/
theorem firstPieces_of_fills (h : ∀ i < k, Fills content (amount i) i) :
    firstPieces content amount k = content.take (k * CHUNK_SIZE) := by
  induction k with
  | zero => simp [firstPieces]
  | succ k ih =>
      have hfull : filePiece content (amount k) k =
          (content.drop (k * CHUNK_SIZE)).take CHUNK_SIZE := by
        have hk := h k (Nat.lt_succ_self k)
        unfold Fills at hk
        rw [filePiece]
        refine List.take_eq_take_iff.2 ?_
        rw [List.length_drop]
        omega
      rw [firstPieces_succ, ih fun i hi => h i (Nat.lt_succ_of_lt hi), hfull, Nat.succ_mul,
        List.take_add]

/-- **The pieces make up the file** exactly if they reach its end and none is short. -/
theorem firstPieces_eq_iff :
    firstPieces content amount k = content ↔
      content.length ≤ k * CHUNK_SIZE ∧ ∀ i < k, Fills content (amount i) i := by
  constructor
  · intro heq
    have hle : (firstPieces content amount k).length ≤ min (k * CHUNK_SIZE) content.length :=
      length_firstPieces_le
    rw [heq] at hle
    refine ⟨by omega, fills_of_length ?_⟩
    rw [heq]
    omega
  · rintro ⟨hlen, hfills⟩
    rw [firstPieces_of_fills hfills, List.take_of_length_le hlen]

end Pieces

/-! ## What the tunnel answers -/

/-- The download is entered, with the file's handle. -/
def Active (tn : Tunnel) (downloadId : UInt32) (file : File) (w : Local FileState) : Prop :=
  ∃ download, w.downloads.lookup (tn.cid, downloadId) = some download ∧ download.sftpFile = file

section Serve

variable {S : Setup} {tn : Tunnel} {content : Bytes} {file : File} {amount : Nat → Nat}
  {clock : Nat → Time} {downloadId chunkIndex : UInt32} {msgId : Option UInt32}
  {w : Local FileState}

variable (S amount clock chunkIndex msgId) in
/-- **A request inside the file** is answered with what one read gives there, and the download
stays. -/
theorem run_chunk_of_file (hw : Active tn downloadId file w)
    (hinside : chunkIndex.toNat * CHUNK_SIZE < content.length)
    (hamount : 1 ≤ amount w.host.reads) (hmax : chunkIndex ≠ 0xFFFFFFFF) :
    ∃ w', runLocal (fileHost content file amount clock) S tn
        (downloadFileChunk S tn msgId downloadId chunkIndex) w = some ((), w') ∧
      w'.sent = w.sent ++ [.webFrame (chunkFrame tn msgId downloadId chunkIndex
        (filePiece content (amount w.host.reads) chunkIndex.toNat)) (.sessionId tn.sid)] ∧
      Active tn downloadId file w' ∧ w'.host.reads = w.host.reads + 1 := by
  obtain ⟨download, hentry, rfl⟩ := hw
  have hread : ((fileHost content download.sftpFile amount clock).sftp
      (afterSeek (fileHost content download.sftpFile amount clock) w download chunkIndex)
      (.read download.sftpFile)).1 =
        .ok (filePiece content (amount w.host.reads) chunkIndex.toNat) := by
    have hoffset : (afterSeek (fileHost content download.sftpFile amount clock) w download
        chunkIndex).offset download.sftpFile = chunkIndex.toNat * CHUNK_SIZE :=
      (Function.update_self ..).trans (toNat_chunkPosition chunkIndex)
    show Except.ok ((content.drop ((afterSeek _ w download chunkIndex).offset _)).take _) = _
    rw [hoffset]
    rfl
  have hbytes : filePiece content (amount w.host.reads) chunkIndex.toNat ≠ [] := by
    intro hnil
    have hlen := congrArg List.length hnil
    rw [length_filePiece, List.length_nil, CHUNK_SIZE] at hlen
    rw [CHUNK_SIZE] at hinside
    omega
  refine ⟨_, run_chunk_data hentry rfl hread hbytes fun hdebug => hmax hdebug.2.2, rfl, ?_, rfl⟩
  exact ⟨_, AList.lookup_insert _, rfl⟩

/-- The number of chunks that is announced. -/
theorem toNat_totalChunks {n : Nat} (hn : n < 2 ^ 64) :
    (totalChunks (UInt64.ofNat n)).toNat =
      min ((n + (CHUNK_SIZE - 1)) / CHUNK_SIZE) (2 ^ 32 - 1) := by
  rw [totalChunks, UInt32.toNat_ofNat', UInt64.toNat_ofNat', Nat.mod_eq_of_lt hn]
  refine Nat.mod_eq_of_lt (Nat.lt_of_le_of_lt (min_le_right _ _) ?_)
  decide

/-- An index below the announced number lies inside the file. -/
theorem inside_of_lt {n : Nat} (hn : n < 2 ^ 64) {i : Nat}
    (hi : i < (totalChunks (UInt64.ofNat n)).toNat) : i * CHUNK_SIZE < n := by
  rw [toNat_totalChunks hn, CHUNK_SIZE] at hi
  rw [CHUNK_SIZE]
  omega

theorem ne_max_of_lt {total : UInt32} {i : UInt32} (hi : i < total) : i ≠ 0xFFFFFFFF := by
  rintro rfl
  have hlt := UInt32.lt_iff_toNat_lt.1 hi
  have hmax := total.toNat_lt
  have hval : (0xFFFFFFFF : UInt32).toNat = 2 ^ 32 - 1 := rfl
  omega

/-- What `start_download` leaves, where the file is there. -/
def startedDownload (tn : Tunnel) (content : Bytes) (file : File) (clock : Nat → Time)
    (download : SFTPDownloadStart) (msgId : Option UInt32) (w : Local FileState) :
    Local FileState :=
  let size := UInt64.ofNat content.length
  { w with
    nextId := w.nextId + 1
    downloads := w.downloads.insert (tn.cid, w.nextId)
      ⟨download.filename, size, totalChunks size, file, clock w.host.reads, clock w.host.reads⟩
    sent := w.sent ++ [.webFrame (.sftpDownloadStartResponse tn.sid msgId
      ⟨w.nextId, size, totalChunks size⟩) (.sessionId tn.sid)]
    host := { w.host with offset := Function.update w.host.offset file 0 } }

theorem run_startDownload (download : SFTPDownloadStart) :
    runLocal (fileHost content file amount clock) S tn (startDownload tn download msgId) w =
      some ((), startedDownload tn content file clock download msgId w) := by
  unfold startDownload
  dsimp only
  rw [run_sftp]
  dsimp only [fileHost]
  rw [run_sftp]
  dsimp only [fileHost]
  rw [run_generateId, run_now, run_downloads (by rfl)]
  exact run_reply

variable (tn content file clock msgId w) in
theorem active_startedDownload (download : SFTPDownloadStart) :
    Active tn w.nextId file (startedDownload tn content file clock download msgId w) :=
  ⟨_, AList.lookup_insert _, rfl⟩

end Serve

/-! ## Any order -/

/-- The tunnel serves the requests, each an index and a message id. -/
def serveChunks (S : Setup) (tn : Tunnel) (downloadId : UInt32) :
    List (UInt32 × Option UInt32) → Action Unit
  | [] => return
  | (chunkIndex, msgId) :: requests => do
      downloadFileChunk S tn msgId downloadId chunkIndex
      serveChunks S tn downloadId requests

/-- The bytes `[i * 65536, min ((i + 1) * 65536) n)` of a file of `n` bytes. -/
def fileRange (content : Bytes) (i : Nat) : Bytes :=
  content.extract (i * CHUNK_SIZE) (min ((i + 1) * CHUNK_SIZE) content.length)

/-- The answer to a request: the range of the file. -/
def rangeFrame (tn : Tunnel) (content : Bytes) (downloadId : UInt32)
    (request : UInt32 × Option UInt32) : NodeFrameData :=
  .webFrame (chunkFrame tn request.2 downloadId request.1 (fileRange content request.1.toNat))
    (.sessionId tn.sid)

/-- The server passes the frame on, and the page hands a chunk to its download. -/
def deliver (b : Browser) : NodeFrameData → Browser
  | .webFrame (.sftpDownloadChunk _ (some msgId) chunk) _ => b.handleDownloadChunk msgId chunk
  | _ => b

section AnyOrder

variable {S : Setup} {tn : Tunnel} {content : Bytes} {file : File} {amount : Nat → Nat}
  {clock : Nat → Time} {downloadId : UInt32} {w : Local FileState}

/-- A read that fills the buffer gives the whole range. -/
theorem filePiece_eq_fileRange {n i : Nat} (hn : CHUNK_SIZE ≤ n) :
    filePiece content n i = fileRange content i := by
  rw [filePiece, fileRange, List.extract_eq_take_drop, Nat.min_eq_right hn, Nat.succ_mul]
  refine List.take_eq_take_iff.2 ?_
  rw [List.length_drop]
  omega

variable (S clock) in
/-- **All requests are answered**, one after the other. -/
theorem run_serveChunks (hfull : ∀ n, CHUNK_SIZE ≤ amount n)
    (requests : List (UInt32 × Option UInt32))
    (hinside : ∀ r ∈ requests, r.1.toNat * CHUNK_SIZE < content.length ∧ r.1 ≠ 0xFFFFFFFF) :
    ∀ {w : Local FileState}, Active tn downloadId file w →
      ∃ w', runLocal (fileHost content file amount clock) S tn
          (serveChunks S tn downloadId requests) w = some ((), w') ∧
        w'.sent = w.sent ++ requests.map (rangeFrame tn content downloadId) ∧
        Active tn downloadId file w' := by
  induction requests with
  | nil => exact fun {w} hw => ⟨w, rfl, (List.append_nil _).symm, hw⟩
  | cons r requests ih =>
      intro w hw
      obtain ⟨hr, hmax⟩ := hinside r List.mem_cons_self
      obtain ⟨w₁, hrun, hsent, hw₁, -⟩ := run_chunk_of_file S amount clock r.1 r.2 hw hr
        (Nat.le_trans (by decide : 1 ≤ CHUNK_SIZE) (hfull w.host.reads)) hmax
      obtain ⟨w₂, hrest, hsent', hw₂⟩ := ih (fun r' hr' => hinside r' (List.mem_cons_of_mem _ hr')) hw₁
      refine ⟨w₂, ?_, ?_, hw₂⟩
      · show runLocal _ S tn (downloadFileChunk S tn r.2 downloadId r.1 >>=
          fun _ => serveChunks S tn downloadId requests) w = _
        rw [run_local_bind hrun]
        exact hrest
      · rw [hsent', hsent, filePiece_eq_fileRange (hfull _), List.map_cons, List.append_assoc]
        rfl

/-- A page that is handed the answers is handed the chunks. -/
theorem foldl_deliver {msgId : UInt32} (requests : List (UInt32 × Option UInt32))
    (hmsg : ∀ r ∈ requests, r.2 = some msgId) :
    ∀ b : Browser, (requests.map (rangeFrame tn content downloadId)).foldl deliver b =
      ((requests.map (·.1)).map fun i => (⟨downloadId, i,
        UInt32.ofNat (fileRange content i.toNat).length, fileRange content i.toNat⟩ :
          SFTPDownloadChunk)).foldl (fun b chunk => b.handleDownloadChunk msgId chunk) b := by
  induction requests with
  | nil => exact fun _ => rfl
  | cons r requests ih =>
      intro b
      have hr : rangeFrame tn content downloadId r = .webFrame (chunkFrame tn (some msgId)
          downloadId r.1 (fileRange content r.1.toNat)) (.sessionId tn.sid) := by
        rw [rangeFrame, hmsg r List.mem_cons_self]
      rw [List.map_cons, List.foldl_cons, hr]
      exact ih (fun r' hr' => hmsg r' (List.mem_cons_of_mem _ hr')) _

/-- The announced chunks, whole, are the file. -/
theorem pieces_eq_content (hsize : content.length ≤ (2 ^ 32 - 1) * CHUNK_SIZE) :
    pieces (totalChunks (UInt64.ofNat content.length)) (fun i => fileRange content i.toNat) =
      content := by
  have hlt : content.length < 2 ^ 64 := by
    rw [CHUNK_SIZE] at hsize
    omega
  have htotal := toNat_totalChunks hlt
  have hpieces : pieces (totalChunks (UInt64.ofNat content.length))
      (fun i => fileRange content i.toNat) =
        firstPieces content (fun _ => CHUNK_SIZE)
          (totalChunks (UInt64.ofNat content.length)).toNat := by
    refine List.flatMap_congr fun i hi => ?_
    rw [List.mem_range] at hi
    dsimp only
    rw [toNat_ofNat_of_lt hi, filePiece_eq_fileRange le_rfl]
  rw [hpieces, firstPieces_eq_iff]
  refine ⟨?_, fun i _ => min_le_left _ _⟩
  have hceil : (content.length + (CHUNK_SIZE - 1)) / CHUNK_SIZE ≤ 2 ^ 32 - 1 := by
    rw [CHUNK_SIZE] at hsize ⊢
    omega
  rw [htotal, Nat.min_eq_left hceil, CHUNK_SIZE]
  omega

end AnyOrder

/-- What is known of a download whose reads fill the buffer. -/
structure ChunksInAnyOrder (S : Setup) (tn : Tunnel) (content : Bytes) (H : Remote FileState)
    (download : SFTPDownloadStart) (msgId : Option UInt32) (w : Local FileState) : Prop where
  /-- The number of chunks announced is `⌈n / 65536⌉`, under the id the requests will name. -/
  announced : ∃ w₁ response, runLocal H S tn (startDownload tn download msgId) w = some ((), w₁) ∧
    w₁.sent = w.sent ++ [.webFrame (.sftpDownloadStartResponse tn.sid msgId response)
      (.sessionId tn.sid)] ∧
    response.totalChunks.toNat = (content.length + (CHUNK_SIZE - 1)) / CHUNK_SIZE ∧
    response.totalSize.toNat = content.length ∧
    ∀ requests : List (UInt32 × Option UInt32), (∀ r ∈ requests, r.1 < response.totalChunks) →
      -- every request is answered with its range, and the entry stays
      (∃ w₂, runLocal H S tn (serveChunks S tn response.downloadId requests) w₁ = some ((), w₂) ∧
        w₂.sent = w₁.sent ++ requests.map (rangeFrame tn content response.downloadId) ∧
        (w₂.downloads.lookup (tn.cid, response.downloadId)).isSome = true) ∧
      -- and a page that asked for them saves the file once it has every chunk
      ∀ (b : Browser) (filename : String) (m : UInt32), (∀ r ∈ requests, r.2 = some m) →
        ((requests.map (rangeFrame tn content response.downloadId)).foldl deliver
            ((b.downloadFile filename m).handleDownloadStartResponse m response)).saved =
          b.saved ++ if Complete response.totalChunks (requests.map (·.1))
            then [(filename, content)] else []

/-- **Chunks may be asked for in any order.**  Of a file that does not change, every chunk
below the announced number is answered with exactly its bytes, and the pieces, joined by
index, are the file. -/
theorem chunks_in_any_order (S : Setup) (tn : Tunnel) (content : Bytes) (file : File)
    (amount : Nat → Nat) (clock : Nat → Time) (hpos : 0 < content.length)
    (hsize : content.length ≤ (2 ^ 32 - 1) * CHUNK_SIZE) (hfull : ∀ n, CHUNK_SIZE ≤ amount n)
    (download : SFTPDownloadStart) (msgId : Option UInt32) (w : Local FileState) :
    ChunksInAnyOrder S tn content (fileHost content file amount clock) download msgId w := by
  have hlt : content.length < 2 ^ 64 := by
    rw [CHUNK_SIZE] at hsize
    omega
  have htotal := toNat_totalChunks hlt
  have hceil : (totalChunks (UInt64.ofNat content.length)).toNat =
      (content.length + (CHUNK_SIZE - 1)) / CHUNK_SIZE := by
    rw [htotal, Nat.min_eq_left]
    rw [CHUNK_SIZE] at hsize ⊢
    omega
  have hlen : (UInt64.ofNat content.length).toNat = content.length := by
    rw [UInt64.toNat_ofNat', Nat.mod_eq_of_lt hlt]
  refine ⟨_, _, run_startDownload download, rfl, hceil, hlen, fun requests hrange => ⟨?_, ?_⟩⟩
  · have hinside : ∀ r ∈ requests, r.1.toNat * CHUNK_SIZE < content.length ∧ r.1 ≠ 0xFFFFFFFF :=
      fun r hr => ⟨inside_of_lt hlt (UInt32.lt_iff_toNat_lt.1 (hrange r hr)),
        ne_max_of_lt (hrange r hr)⟩
    obtain ⟨w₂, hrun, hsent, ⟨entry, hentry, -⟩⟩ := run_serveChunks S clock hfull requests
      hinside (active_startedDownload tn content file clock msgId w download)
    exact ⟨w₂, hrun, hsent, by rw [hentry]; rfl⟩
  · intro b filename m hmsg
    have hne : UInt64.ofNat content.length ≠ 0 := by
      intro hzero
      rw [hzero] at hlen
      exact absurd hlen.symm (Nat.ne_of_gt hpos)
    obtain ⟨hgathering, -, hsaved⟩ := gathering_start b m filename
      (fun i => fileRange content i.toNat) ⟨w.nextId, UInt64.ofNat content.length,
        totalChunks (UInt64.ofNat content.length)⟩ hne
    have hmore : ¬ Complete (totalChunks (UInt64.ofNat content.length)) [] := by
      intro hall
      refine absurd (hall 0 (UInt32.lt_iff_toNat_lt.2 ?_)) List.not_mem_nil
      rw [hceil, CHUNK_SIZE]
      show 0 < _
      omega
    rw [foldl_deliver requests hmsg]
    have hfold := foldl_gathering
      (fun i => UInt32.ofNat (fileRange content i.toNat).length) (requests.map (·.1))
      (by
        intro i hi
        obtain ⟨r, hr, rfl⟩ := List.mem_map.1 hi
        exact hrange r hr) hgathering hmore
    rw [List.append_nil, pieces_eq_content hsize, hsaved] at hfold
    exact hfold

theorem chunks_in_any_order_of_sample :
    ChunksInAnyOrder (sample fun _ => 0) sampleTunnel [104, 105]
      (fileHost [104, 105] 7 (fun _ => CHUNK_SIZE) fun _ => 0) ⟨"d", "a"⟩ (some 1) Local.fresh :=
  chunks_in_any_order _ _ _ _ _ _ (by decide) (by decide) (fun _ => le_rfl) _ _ _

/-! ## One after the other -/

/-- The page and the tunnel take turns: the oldest request is served, and the page is handed
what was sent. -/
def exchange {η : Type} (H : Remote η) (S : Setup) (tn : Tunnel) :
    Nat → Browser × Local η → Option (Browser × Local η)
  | 0, x => some x
  | n + 1, (b, w) =>
      match b.requests with
      | [] => some (b, w)
      | request :: rest =>
          match runLocal H S tn (downloadFileChunk S tn (some request.msgId)
              (request.downloadId.getD 0) request.chunkIndex) w with
          | none => none
          | some (_, w') =>
              exchange H S tn n
                ((w'.sent.drop w.sent.length).foldl deliver { b with requests := rest }, w')

/-- A page without downloads. -/
def Browser.fresh : Browser := ⟨∅, [], []⟩

/-- The page that downloads one chunk after the other ends up with the file. -/
def SequentialExact (S : Setup) (tn : Tunnel) (content : Bytes) (H : Remote FileState)
    (download : SFTPDownloadStart) (m : UInt32) (w : Local FileState) : Prop :=
  ∃ w₁ response, runLocal H S tn (startDownload tn download (some m)) w = some ((), w₁) ∧
    w₁.sent = w.sent ++ [.webFrame (.sftpDownloadStartResponse tn.sid (some m) response)
      (.sessionId tn.sid)] ∧
    ∃ n b w', exchange H S tn n ((Browser.fresh.downloadFile download.filename
        m).handleDownloadStartResponse m response, w₁) = some (b, w') ∧
      b.saved = [(download.filename, content)]

section Sequential

variable {S : Setup} {tn : Tunnel} {content : Bytes} {file : File} {amount : Nat → Nat}
  {clock : Nat → Time} {downloadId total m : UInt32} {filename : String} {first : Nat}

/-- The indices received after `k` turns. -/
def firstIndices (k : Nat) : List UInt32 := ((List.range k).map UInt32.ofNat).reverse

theorem firstIndices_succ (k : Nat) : firstIndices (k + 1) = UInt32.ofNat k :: firstIndices k := by
  simp [firstIndices, List.range_succ]

theorem complete_firstIndices {k : Nat} (hk : k ≤ total.toNat) :
    Complete total (firstIndices k) ↔ k = total.toNat := by
  constructor
  · intro hall
    by_contra hne
    have hlt : k < total.toNat := by omega
    have hmem := hall (UInt32.ofNat k)
      (UInt32.lt_iff_toNat_lt.2 (by rw [toNat_ofNat_of_lt hlt]; exact hlt))
    simp only [firstIndices, List.mem_reverse, List.mem_map, List.mem_range] at hmem
    obtain ⟨i, hi, heq⟩ := hmem
    have hnat := congrArg UInt32.toNat heq
    rw [toNat_ofNat_of_lt hlt, toNat_ofNat_of_lt (Nat.lt_trans hi hlt)] at hnat
    omega
  · rintro rfl j hj
    simp only [firstIndices, List.mem_reverse, List.mem_map, List.mem_range]
    exact ⟨j.toNat, UInt32.lt_iff_toNat_lt.1 hj, UInt32.ofNat_toNat⟩

/-- The piece of chunk `i`, when the transfer began with read number `first`. -/
def pieceAt (content : Bytes) (amount : Nat → Nat) (first : Nat) (i : UInt32) : Bytes :=
  filePiece content (amount (first + i.toNat)) i.toNat

/-- After `k` turns: the first `k` pieces are there, the next one is asked for. -/
structure Halfway (tn : Tunnel) (content : Bytes) (file : File) (amount : Nat → Nat)
    (downloadId total m : UInt32) (filename : String) (first k : Nat) (b : Browser)
    (w : Local FileState) : Prop where
  gathering : Gathering b m filename downloadId total (pieceAt content amount first)
    (firstIndices k) (k + 1)
  requests : b.requests = [⟨some downloadId, UInt32.ofNat k, m⟩]
  saved : b.saved = []
  active : Active tn downloadId file w
  reads : w.host.reads = first + k
  more : k < total.toNat

variable (S clock) in
/-- **One turn.**  The piece arrives, and it was the last or the next one is asked for. -/
theorem exchange_turn {b : Browser} {w : Local FileState} {k : Nat}
    (hinside : ∀ i, i < total.toNat → i * CHUNK_SIZE < content.length)
    (hamount : ∀ n, 1 ≤ amount n)
    (h : Halfway tn content file amount downloadId total m filename first k b w) :
    ∃ b' w', (∀ n, exchange (fileHost content file amount clock) S tn (n + 1) (b, w) =
        exchange (fileHost content file amount clock) S tn n (b', w')) ∧
      (Halfway tn content file amount downloadId total m filename first (k + 1) b' w' ∨
        k + 1 = total.toNat ∧ b'.requests = [] ∧
          b'.saved = [(filename, pieces total (pieceAt content amount first))]) := by
  have hback : (UInt32.ofNat k).toNat = k := toNat_ofNat_of_lt h.more
  have hlt : UInt32.ofNat k < total := UInt32.lt_iff_toNat_lt.2 (by rw [hback]; exact h.more)
  obtain ⟨w', hrun, hsent, hactive, hreads⟩ := run_chunk_of_file S amount clock (UInt32.ofNat k)
    (some m) h.active (by rw [hback]; exact hinside k h.more) (hamount _) (ne_max_of_lt hlt)
  have hpiece : filePiece content (amount w.host.reads) (UInt32.ofNat k).toNat =
      pieceAt content amount first (UInt32.ofNat k) := by
    rw [pieceAt, h.reads, hback]
  rw [hpiece] at hsent
  have hrest : Gathering { b with requests := [] } m filename downloadId total
      (pieceAt content amount first) (firstIndices k) (k + 1) :=
    ⟨h.gathering.entry, h.gathering.inRange⟩
  refine ⟨{ b with requests := [] }.handleDownloadChunk m ⟨downloadId, UInt32.ofNat k,
    UInt32.ofNat (pieceAt content amount first (UInt32.ofNat k)).length,
    pieceAt content amount first (UInt32.ofNat k)⟩, w', fun n => ?_, ?_⟩
  · rw [exchange, h.requests]
    simp only [Option.getD_some, hrun, hsent, List.drop_left]
    rfl
  · have hcomplete := complete_firstIndices h.more
    rcases handleDownloadChunk_gathering hrest hlt _ rfl with
      ⟨hmore, hgathering, hrequests, hsaved⟩ | ⟨hall, -, hrequests, hsaved⟩
    · rw [← firstIndices_succ] at hmore hgathering
      refine .inl ⟨hgathering, hrequests, hsaved.trans h.saved, hactive, ?_, ?_⟩
      · rw [hreads, h.reads]
        omega
      · have hne := fun heq => hmore (hcomplete.2 heq)
        exact Nat.lt_of_le_of_ne h.more hne
    · rw [← firstIndices_succ] at hall
      refine .inr ⟨hcomplete.1 hall, hrequests, ?_⟩
      rw [hsaved]
      simp [h.saved]

variable (S clock) in
/-- **The whole transfer**: it ends, and saves the pieces. -/
theorem exchange_finishes (hinside : ∀ i, i < total.toNat → i * CHUNK_SIZE < content.length)
    (hamount : ∀ n, 1 ≤ amount n) :
    ∀ (rest : Nat) {k : Nat} {b : Browser} {w : Local FileState}, k + rest + 1 = total.toNat →
      Halfway tn content file amount downloadId total m filename first k b w →
      ∃ b' w', exchange (fileHost content file amount clock) S tn (rest + 1) (b, w) =
          some (b', w') ∧ b'.requests = [] ∧
        b'.saved = [(filename, pieces total (pieceAt content amount first))] := by
  intro rest
  induction rest with
  | zero =>
      intro k b w hk h
      obtain ⟨b', w', hturn, hlater | ⟨-, hrequests, hsaved⟩⟩ :=
        exchange_turn S clock hinside hamount h
      · exact absurd hlater.more (by omega)
      · exact ⟨b', w', hturn 0, hrequests, hsaved⟩
  | succ rest ih =>
      intro k b w hk h
      obtain ⟨b', w', hturn, hlater | ⟨hlast, -, -⟩⟩ :=
        exchange_turn S clock hinside hamount h
      · obtain ⟨b'', w'', hrest, hend⟩ := ih (by omega) hlater
        exact ⟨b'', w'', (hturn _).trans hrest, hend⟩
      · omega

variable (S clock) in
/-- Before the last turn nothing is saved. -/
theorem exchange_unfinished (hinside : ∀ i, i < total.toNat → i * CHUNK_SIZE < content.length)
    (hamount : ∀ n, 1 ≤ amount n) :
    ∀ (turns : Nat) {k : Nat} {b : Browser} {w : Local FileState}, k + turns < total.toNat →
      Halfway tn content file amount downloadId total m filename first k b w →
      ∃ b' w', exchange (fileHost content file amount clock) S tn turns (b, w) = some (b', w') ∧
        b'.saved = [] := by
  intro turns
  induction turns with
  | zero => exact fun {k b w} _ h => ⟨b, w, rfl, h.saved⟩
  | succ turns ih =>
      intro k b w hk h
      obtain ⟨b', w', hturn, hlater | ⟨hlast, -, -⟩⟩ :=
        exchange_turn S clock hinside hamount h
      · obtain ⟨b'', w'', hrest, hend⟩ := ih (by omega) hlater
        exact ⟨b'', w'', (hturn _).trans hrest, hend⟩
      · omega

/-- Once nothing is asked for, nothing happens. -/
theorem exchange_of_idle {η : Type} {H : Remote η} {b : Browser} {w : Local η} (n : Nat)
    (hb : b.requests = []) : exchange H S tn n (b, w) = some (b, w) := by
  cases n with
  | zero => rfl
  | succ n => simp only [exchange, hb]

/-- Turns, and further turns. -/
theorem exchange_add {η : Type} {H : Remote η} {x y : Browser × Local η} (n k : Nat)
    (h : exchange H S tn n x = some y) : exchange H S tn (n + k) x = exchange H S tn k y := by
  induction n generalizing x with
  | zero =>
      cases h
      rw [Nat.zero_add]
  | succ n ih =>
      obtain ⟨b, w⟩ := x
      rw [Nat.add_right_comm]
      cases hreq : b.requests with
      | nil =>
          simp only [exchange, hreq, Option.some.injEq] at h ⊢
          subst h
          exact (exchange_of_idle k hreq).symm
      | cons request rest =>
          simp only [exchange, hreq] at h ⊢
          split at h
          · cases h
          · exact ih h

variable (S clock) in
/-- **What the page ever saves**: nothing, or the pieces. -/
theorem exchange_saved (hinside : ∀ i, i < total.toNat → i * CHUNK_SIZE < content.length)
    (hamount : ∀ n, 1 ≤ amount n) {b : Browser} {w : Local FileState}
    (h : Halfway tn content file amount downloadId total m filename first 0 b w)
    (saved : List (String × Bytes)) (hsaved : saved ≠ []) :
    (∃ n b' w', exchange (fileHost content file amount clock) S tn n (b, w) = some (b', w') ∧
        b'.saved = saved) ↔
      saved = [(filename, pieces total (pieceAt content amount first))] := by
  have hpos := h.more
  obtain ⟨b₁, w₁, hend, hidle, hpieces⟩ := exchange_finishes S clock hinside hamount
    (total.toNat - 1) (by omega) h
  constructor
  · rintro ⟨n, b', w', hrun, rfl⟩
    rcases Nat.lt_or_ge n total.toNat with hlt | hge
    · obtain ⟨b'', w'', hrun', hnone⟩ := exchange_unfinished S clock hinside hamount n
        (by omega) h
      rw [hrun'] at hrun
      cases hrun
      exact absurd hnone hsaved
    · have hlate := exchange_add (total.toNat - 1 + 1) (n - (total.toNat - 1 + 1)) hend
      rw [Nat.add_sub_cancel' (by omega), exchange_of_idle _ hidle, hrun] at hlate
      cases hlate
      exact hpieces
  · rintro rfl
    exact ⟨_, b₁, w₁, hend, hpieces⟩

theorem pieces_pieceAt :
    pieces total (pieceAt content amount first) =
      firstPieces content (fun i => amount (first + i)) total.toNat := by
  refine List.flatMap_congr fun i hi => ?_
  rw [List.mem_range] at hi
  rw [pieceAt, toNat_ofNat_of_lt hi]

/-- The announced chunks reach the end of the file where their number fits. -/
theorem totalChunks_cover_iff {n : Nat} (hn : n < 2 ^ 64) :
    n ≤ (totalChunks (UInt64.ofNat n)).toNat * CHUNK_SIZE ↔ n ≤ (2 ^ 32 - 1) * CHUNK_SIZE := by
  rw [toNat_totalChunks hn, CHUNK_SIZE]
  rcases Nat.le_total ((n + (65536 - 1)) / 65536) (2 ^ 32 - 1) with hle | hge
  · rw [Nat.min_eq_left hle]
    omega
  · rw [Nat.min_eq_right hge]

/-- There they are the indices inside the file. -/
theorem lt_totalChunks_iff {n i : Nat} (hn : n ≤ (2 ^ 32 - 1) * CHUNK_SIZE) :
    i < (totalChunks (UInt64.ofNat n)).toNat ↔ i * CHUNK_SIZE < n := by
  have hlt : n < 2 ^ 64 := by
    rw [CHUNK_SIZE] at hn
    omega
  refine ⟨inside_of_lt hlt, fun hi => ?_⟩
  have hceil : (n + (CHUNK_SIZE - 1)) / CHUNK_SIZE ≤ 2 ^ 32 - 1 := by
    rw [CHUNK_SIZE] at hn ⊢
    omega
  rw [toNat_totalChunks hlt, Nat.min_eq_left hceil]
  rw [CHUNK_SIZE] at hi ⊢
  omega

end Sequential

/-- The transfer begins: chunk `0` is asked for. -/
theorem halfway_start {content : Bytes} (tn : Tunnel) (file : File) (amount : Nat → Nat)
    (clock : Nat → Time) (download : SFTPDownloadStart) (m : UInt32) (w : Local FileState)
    (hpos : 0 < content.length) (hlt : content.length < 2 ^ 64) :
    Halfway tn content file amount w.nextId (totalChunks (UInt64.ofNat content.length)) m
      download.filename w.host.reads 0
      ((Browser.fresh.downloadFile download.filename m).handleDownloadStartResponse m
        ⟨w.nextId, UInt64.ofNat content.length, totalChunks (UInt64.ofNat content.length)⟩)
      (startedDownload tn content file clock download (some m) w) := by
  have hne : UInt64.ofNat content.length ≠ 0 := by
    intro hzero
    have hnat := congrArg UInt64.toNat hzero
    rw [UInt64.toNat_ofNat', Nat.mod_eq_of_lt hlt] at hnat
    exact absurd hnat (Nat.ne_of_gt hpos)
  obtain ⟨hgathering, hrequests, hsaved⟩ := gathering_start Browser.fresh m download.filename
    (pieceAt content amount w.host.reads) ⟨w.nextId, UInt64.ofNat content.length,
      totalChunks (UInt64.ofNat content.length)⟩ hne
  refine ⟨hgathering, hrequests, hsaved, active_startedDownload _ _ _ _ _ _ download, rfl, ?_⟩
  rw [toNat_totalChunks hlt, CHUNK_SIZE]
  omega

/-- What the page saves are the pieces, whatever the reads gave. -/
theorem sequentialExact_iff_pieces {S : Setup} {tn : Tunnel} {content : Bytes} {file : File}
    {amount : Nat → Nat} {clock : Nat → Time} {download : SFTPDownloadStart} {m : UInt32}
    {w : Local FileState} (hpos : 0 < content.length) (hlt : content.length < 2 ^ 64)
    (hamount : ∀ n, 1 ≤ amount n) :
    SequentialExact S tn content (fileHost content file amount clock) download m w ↔
      firstPieces content (fun i => amount (w.host.reads + i))
        (totalChunks (UInt64.ofNat content.length)).toNat = content := by
  have hsaved := exchange_saved S clock (fun _ => inside_of_lt hlt) hamount
    (halfway_start tn file amount clock download m w hpos hlt) [(download.filename, content)]
    (List.cons_ne_nil _ _)
  rw [← pieces_pieceAt]
  constructor
  · rintro ⟨w₁, response, hrun, hsent, hturns⟩
    rw [run_startDownload] at hrun
    cases hrun
    have hframe := List.append_cancel_left hsent
    simp only [List.cons.injEq, NodeFrameData.webFrame.injEq,
      WebFrameData.sftpDownloadStartResponse.injEq, true_and, and_true] at hframe
    subst hframe
    have heq := hsaved.1 hturns
    simp only [List.cons.injEq, Prod.mk.injEq, true_and, and_true] at heq
    exact heq.symm
  · intro hpieces
    refine ⟨_, _, run_startDownload download, rfl, hsaved.2 ?_⟩
    rw [hpieces]

/-- **One chunk after the other**, the page gets the file exactly where no read is short, and
the number of chunks fits.  What a short read leaves out is not asked for again. -/
theorem sequential_exact_iff (S : Setup) (tn : Tunnel) (content : Bytes) (file : File)
    (amount : Nat → Nat) (clock : Nat → Time) (hpos : 0 < content.length)
    (hlt : content.length < 2 ^ 64) (hamount : ∀ n, 1 ≤ amount n) (download : SFTPDownloadStart)
    (m : UInt32) (w : Local FileState) :
    SequentialExact S tn content (fileHost content file amount clock) download m w ↔
      content.length ≤ (2 ^ 32 - 1) * CHUNK_SIZE ∧
        ∀ i, i * CHUNK_SIZE < content.length →
          Fills content (amount (w.host.reads + i)) i := by
  rw [sequentialExact_iff_pieces hpos hlt hamount, firstPieces_eq_iff, totalChunks_cover_iff hlt]
  refine and_congr_right fun hsize => forall_congr' fun i => ?_
  rw [lt_totalChunks_iff hsize]

theorem sequential_exact_iff_of_sample :
    SequentialExact (sample fun _ => 0) sampleTunnel [104, 105]
        (fileHost [104, 105] 7 (fun _ => 1) fun _ => 0) ⟨"d", "a"⟩ 1 Local.fresh ↔
      [104, 105].length ≤ (2 ^ 32 - 1) * CHUNK_SIZE ∧
        ∀ i, i * CHUNK_SIZE < [104, 105].length → Fills [104, 105] 1 i :=
  sequential_exact_iff _ _ _ _ _ _ (by decide) (by decide) (fun _ => le_rfl) _ _ _

/-- **A short read is not made up for**: where the read of a file of two bytes gives one, the
page never has the file. -/
theorem short_read_loses_bytes :
    ¬ SequentialExact (sample fun _ => 0) sampleTunnel [104, 105]
        (fileHost [104, 105] 7 (fun _ => 1) fun _ => 0) ⟨"d", "a"⟩ 1 Local.fresh := by
  rw [sequentialExact_iff_pieces (by decide) (by decide) fun _ => le_rfl]
  decide

end Phirepass.System
