/-
# `Phirepass.Channel.Sftp` — the browser's side of a download, `channel/public/sftp.js`

A download is an entry of `activeDownloads`: what the start response said, and
the chunks received so far, by index.  When there are `total_chunks` of them
`finalizeDownload` joins them in the order of their indices.

    gathering    the entry holds the chunks received, and asks for the next
    finished     the joined bytes are saved and the entry is gone

The progress bar and its speed are left out.
-/
import Mathlib.Data.List.AList
import Mathlib.Data.List.Perm.Subperm
import Phirepass.Protocol.Frames

namespace Phirepass.Channel

open Rust

/-- An entry of `activeDownloads`. -/
structure Download where
  filename : String
  chunks : AList fun _ : UInt32 => Bytes
  totalChunks : Option UInt32
  totalSize : Option UInt64
  downloadId : Option UInt32
  nextChunkToRequest : Nat

/-- The arguments of `send_sftp_download_chunk`. -/
structure ChunkRequest where
  downloadId : Option UInt32
  chunkIndex : UInt32
  msgId : UInt32
  deriving DecidableEq, Repr

structure Browser where
  activeDownloads : AList fun _ : UInt32 => Download
  /-- The requests sent and not yet served. -/
  requests : List ChunkRequest
  /-- The files handed to the user. -/
  saved : List (String × Bytes)

/-- A number of JavaScript, or `null`, as a condition. -/
def truthy (n : Option Nat) : Bool := n.any fun n => n != 0

/-- An index and its chunk. -/
abbrev Chunk : Type := Sigma fun _ : UInt32 => Bytes

/-- `(a, b) => a[0] - b[0]`. -/
def byIndex (a b : Chunk) : Bool := decide (a.1.toNat ≤ b.1.toNat)

/-- The bytes of a `Blob` of the chunks, sorted by index. -/
def joinChunks (chunks : AList fun _ : UInt32 => Bytes) : Bytes :=
  ((chunks.entries.mergeSort byIndex).map (·.2)).flatten

namespace Browser

/-- `downloadFile`, up to its request. -/
def downloadFile (b : Browser) (filename : String) (msgId : UInt32) : Browser :=
  { b with activeDownloads := b.activeDownloads.insert msgId ⟨filename, ∅, none, none, none, 0⟩ }

/-- `requestNextDownloadChunk`, over a connected socket. -/
def requestNextDownloadChunk (b : Browser) (msgId : UInt32) : Browser :=
  match b.activeDownloads.lookup msgId with
  | none => b
  | some download =>
      { b with
        requests := b.requests ++
          [⟨download.downloadId, UInt32.ofNat download.nextChunkToRequest, msgId⟩]
        activeDownloads := b.activeDownloads.insert msgId
          { download with nextChunkToRequest := download.nextChunkToRequest + 1 } }

/-- What `startPromise` does with the start response. -/
def handleDownloadStartResponse (b : Browser) (msgId : UInt32)
    (response : SFTPDownloadStartResponse) : Browser :=
  match b.activeDownloads.lookup msgId with
  | none => b
  | some download =>
      let download := { download with
        downloadId := some response.downloadId
        totalSize := some response.totalSize
        totalChunks := some response.totalChunks
        nextChunkToRequest := 0 }
      requestNextDownloadChunk
        { b with activeDownloads := b.activeDownloads.insert msgId download } msgId

/-- `finalizeDownload`. -/
def finalizeDownload (b : Browser) (msgId : UInt32) : Browser :=
  match b.activeDownloads.lookup msgId with
  | none => b
  | some download =>
      { b with
        saved := b.saved ++ [(download.filename, joinChunks download.chunks)]
        activeDownloads := b.activeDownloads.erase msgId }

/-- `handleDownloadChunk`. -/
def handleDownloadChunk (b : Browser) (msgId : UInt32) (chunk : SFTPDownloadChunk) : Browser :=
  match b.activeDownloads.lookup msgId with
  | none => b
  | some download =>
      if !truthy (download.totalChunks.map (·.toNat)) ||
          !truthy (download.totalSize.map (·.toNat)) then b
      else
        let download := { download with
          chunks := download.chunks.insert chunk.chunkIndex chunk.data }
        let b := { b with activeDownloads := b.activeDownloads.insert msgId download }
        if some download.chunks.keys.length = download.totalChunks.map (·.toNat) then
          b.finalizeDownload msgId
        else b.requestNextDownloadChunk msgId

end Browser

/-! ## Joining -/

section Join

variable {chunks : AList fun _ : UInt32 => Bytes} {total : UInt32} {piece : UInt32 → Bytes}

/-- The pieces in order. -/
def pieces (total : UInt32) (piece : UInt32 → Bytes) : Bytes :=
  (List.range total.toNat).flatMap fun i => piece (UInt32.ofNat i)

theorem pairwise_byIndex (l : List Chunk) :
    (l.mergeSort byIndex).Pairwise fun a b => a.1.toNat ≤ b.1.toNat := by
  have htrans (a b c : Chunk) (hab : byIndex a b = true) (hbc : byIndex b c = true) :
      byIndex a c = true :=
    decide_eq_true (Nat.le_trans (of_decide_eq_true hab) (of_decide_eq_true hbc))
  have htotal (a b : Chunk) : (byIndex a b || byIndex b a) = true := by
    simpa [byIndex] using Nat.le_total a.1.toNat b.1.toNat
  exact (List.pairwise_mergeSort htrans htotal l).imp fun hle => of_decide_eq_true hle

theorem toNat_ofNat_of_lt {i : Nat} (hi : i < total.toNat) : (UInt32.ofNat i).toNat = i := by
  rw [UInt32.toNat_ofNat', Nat.mod_eq_of_lt (Nat.lt_trans hi total.toNat_lt)]

/-- The sorted chunks, all of them there. -/
theorem mergeSort_entries
    (h : ∀ i, chunks.lookup i = if i < total then some (piece i) else none) :
    chunks.entries.mergeSort byIndex =
      (List.range total.toNat).map fun i => (⟨UInt32.ofNat i, piece (UInt32.ofNat i)⟩ : Chunk) := by
  have hmem (x : Chunk) : x ∈ chunks.entries ↔ x.1 < total ∧ x.2 = piece x.1 := by
    obtain ⟨key, data⟩ := x
    rw [← AList.mem_lookup_iff, h key, Option.mem_def]
    split
    · next hlt => simp [hlt, eq_comm]
    · next hlt => simp [hlt]
  have hnodup : ((List.range total.toNat).map fun i =>
      (⟨UInt32.ofNat i, piece (UInt32.ofNat i)⟩ : Chunk)).Nodup := by
    refine List.Nodup.map_on (fun i hi j hj heq => ?_) List.nodup_range
    rw [List.mem_range] at hi hj
    rw [← toNat_ofNat_of_lt hi, ← toNat_ofNat_of_lt hj, (Sigma.mk.inj heq).1]
  have hperm : (chunks.entries.mergeSort byIndex).Perm ((List.range total.toNat).map fun i =>
      (⟨UInt32.ofNat i, piece (UInt32.ofNat i)⟩ : Chunk)) := by
    refine (List.mergeSort_perm _ _).trans ?_
    refine (List.perm_ext_iff_of_nodup (List.Nodup.of_map _ chunks.nodupKeys) hnodup).2 fun x => ?_
    rw [hmem, List.mem_map]
    constructor
    · rintro ⟨hlt, hdata⟩
      refine ⟨x.1.toNat, List.mem_range.2 hlt, ?_⟩
      rw [UInt32.ofNat_toNat, ← hdata]
    · rintro ⟨i, hi, rfl⟩
      rw [List.mem_range] at hi
      exact ⟨UInt32.lt_iff_toNat_lt.2 (by rw [toNat_ofNat_of_lt hi]; exact hi), rfl⟩
  have hsorted : ((List.range total.toNat).map fun i =>
      (⟨UInt32.ofNat i, piece (UInt32.ofNat i)⟩ : Chunk)).Pairwise
        fun a b => a.1.toNat ≤ b.1.toNat := by
    rw [List.pairwise_map]
    refine List.pairwise_lt_range.imp_of_mem fun hi hj hlt => ?_
    rw [List.mem_range] at hi hj
    rw [toNat_ofNat_of_lt hi, toNat_ofNat_of_lt hj]
    exact Nat.le_of_lt hlt
  refine hperm.eq_of_pairwise (fun a b ha hb hab hba => ?_) (pairwise_byIndex _) hsorted
  -- one index has one chunk
  rw [hperm.mem_iff] at ha
  obtain ⟨i, hi, rfl⟩ := List.mem_map.1 ha
  obtain ⟨j, hj, rfl⟩ := List.mem_map.1 hb
  rw [show UInt32.ofNat i = UInt32.ofNat j from UInt32.toNat_inj.1 (Nat.le_antisymm hab hba)]

theorem joinChunks_eq (h : ∀ i, chunks.lookup i = if i < total then some (piece i) else none) :
    joinChunks chunks = pieces total piece := by
  rw [joinChunks, mergeSort_entries h, List.map_map, pieces, List.flatMap]
  rfl

/-- There are as many chunks as announced exactly if every index has one. -/
theorem length_keys_iff {got : List UInt32}
    (h : ∀ i, chunks.lookup i = if i ∈ got then some (piece i) else none)
    (hgot : ∀ i ∈ got, i < total) :
    chunks.keys.length = total.toNat ↔ ∀ i, i < total → i ∈ got := by
  have hkey (i : UInt32) : i ∈ chunks.keys ↔ i ∈ got := by
    rw [← AList.mem_keys, ← AList.lookup_isSome, h i]
    split
    · next hmem => simp [hmem]
    · next hmem => simp [hmem]
  have hsub : chunks.keys.map UInt32.toNat ⊆ List.range total.toNat := by
    intro n hn
    obtain ⟨i, hi, rfl⟩ := List.mem_map.1 hn
    exact List.mem_range.2 (UInt32.lt_iff_toNat_lt.1 (hgot i ((hkey i).1 hi)))
  have hnodup : (chunks.keys.map UInt32.toNat).Nodup :=
    chunks.nodupKeys.map fun i j heq => UInt32.toNat_inj.1 heq
  have hsubperm := hnodup.subperm hsub
  constructor
  · intro hlen i hi
    have hperm := hsubperm.perm_of_length_le (by simp [hlen])
    have hmem : i.toNat ∈ chunks.keys.map UInt32.toNat :=
      hperm.mem_iff.2 (List.mem_range.2 (UInt32.lt_iff_toNat_lt.1 hi))
    obtain ⟨j, hj, heq⟩ := List.mem_map.1 hmem
    exact (hkey i).1 (UInt32.toNat_inj.1 heq ▸ hj)
  · intro hall
    have hback : List.range total.toNat ⊆ chunks.keys.map UInt32.toNat := by
      intro n hn
      rw [List.mem_range] at hn
      refine List.mem_map.2 ⟨UInt32.ofNat n, (hkey _).2 (hall _ ?_), toNat_ofNat_of_lt hn⟩
      rw [UInt32.lt_iff_toNat_lt, toNat_ofNat_of_lt hn]
      exact hn
    have hle := (List.nodup_range.subperm hback).length_le
    have hge := hsubperm.length_le
    simp only [List.length_map, List.length_range] at hle hge
    omega

end Join

/-! ## Receiving -/

/-- Every chunk has been received. -/
def Complete (total : UInt32) (got : List UInt32) : Prop := ∀ j, j < total → j ∈ got

instance (total : UInt32) (got : List UInt32) : Decidable (Complete total got) :=
  decidable_of_iff (∀ n ∈ List.range total.toNat, UInt32.ofNat n ∈ got) (by
    constructor
    · intro h j hj
      have hmem := h j.toNat (List.mem_range.2 (UInt32.lt_iff_toNat_lt.1 hj))
      rwa [UInt32.ofNat_toNat] at hmem
    · intro h n hn
      rw [List.mem_range] at hn
      refine h _ (UInt32.lt_iff_toNat_lt.2 ?_)
      rw [toNat_ofNat_of_lt hn]
      exact hn)

/-- The download `msgId` is under way and holds the chunks of `got`. -/
structure Gathering (b : Browser) (msgId : UInt32) (filename : String) (downloadId total : UInt32)
    (piece : UInt32 → Bytes) (got : List UInt32) (next : Nat) : Prop where
  entry : ∃ chunks size, b.activeDownloads.lookup msgId =
      some ⟨filename, chunks, some total, some size, some downloadId, next⟩ ∧ size ≠ 0 ∧
    ∀ i, chunks.lookup i = if i ∈ got then some (piece i) else none
  inRange : ∀ i ∈ got, i < total

section Receive

variable {b : Browser} {msgId downloadId total : UInt32} {filename : String}
  {piece : UInt32 → Bytes} {got : List UInt32} {next : Nat}

theorem truthy_of_ne {n : Nat} (h : n ≠ 0) : truthy (some n) = true := by simp [truthy, h]

variable (b msgId filename piece) in
/-- The start response of a file that is not empty: the first request goes out. -/
theorem gathering_start (response : SFTPDownloadStartResponse)
    (hsize : response.totalSize ≠ 0) :
    Gathering ((b.downloadFile filename msgId).handleDownloadStartResponse msgId response) msgId
        filename response.downloadId response.totalChunks piece [] 1 ∧
      ((b.downloadFile filename msgId).handleDownloadStartResponse msgId response).requests =
        b.requests ++ [⟨some response.downloadId, 0, msgId⟩] ∧
      ((b.downloadFile filename msgId).handleDownloadStartResponse msgId response).saved =
        b.saved := by
  have hbrowser : (b.downloadFile filename msgId).handleDownloadStartResponse msgId response =
      ⟨((b.activeDownloads.insert msgId ⟨filename, ∅, none, none, none, 0⟩).insert msgId
          ⟨filename, ∅, some response.totalChunks, some response.totalSize,
            some response.downloadId, 0⟩).insert msgId
          ⟨filename, ∅, some response.totalChunks, some response.totalSize,
            some response.downloadId, 1⟩,
        b.requests ++ [⟨some response.downloadId, 0, msgId⟩], b.saved⟩ := by
    simp [Browser.downloadFile, Browser.handleDownloadStartResponse,
      Browser.requestNextDownloadChunk]
  rw [hbrowser]
  refine ⟨⟨⟨∅, response.totalSize, AList.lookup_insert _, hsize, fun i => ?_⟩, ?_⟩, rfl, rfl⟩
  · rfl
  · intro i hi
    cases hi

/-- **A chunk is received**, in whatever order: either more are wanted and the next is
requested, or the pieces are joined and saved. -/
theorem handleDownloadChunk_gathering
    (hb : Gathering b msgId filename downloadId total piece got next) {i size : UInt32}
    (hi : i < total) (chunk : SFTPDownloadChunk) (hchunk : chunk = ⟨downloadId, i, size, piece i⟩) :
    (¬ Complete total (i :: got) ∧
      Gathering (b.handleDownloadChunk msgId chunk) msgId filename downloadId total piece (i :: got)
        (next + 1) ∧
      (b.handleDownloadChunk msgId chunk).requests =
        b.requests ++ [⟨some downloadId, UInt32.ofNat next, msgId⟩] ∧
      (b.handleDownloadChunk msgId chunk).saved = b.saved) ∨
    (Complete total (i :: got) ∧
      (b.handleDownloadChunk msgId chunk).activeDownloads.lookup msgId = none ∧
      (b.handleDownloadChunk msgId chunk).requests = b.requests ∧
      (b.handleDownloadChunk msgId chunk).saved =
        b.saved ++ [(filename, pieces total piece)]) := by
  obtain ⟨⟨chunks, fileSize, hentry, hsize, hchunks⟩, hrange⟩ := hb
  subst hchunk
  have hlookup : ∀ j, (chunks.insert i (piece i)).lookup j =
      if j ∈ i :: got then some (piece j) else none := by
    intro j
    by_cases hj : j = i
    · subst hj
      simp
    · rw [AList.lookup_insert_ne hj, hchunks j]
      simp [hj]
  have hall : ∀ j ∈ i :: got, j < total := by
    intro j hj
    rcases List.mem_cons.1 hj with rfl | hj
    · exact hi
    · exact hrange j hj
  have htotal : total.toNat ≠ 0 := by
    intro hzero
    have hlt := UInt32.lt_iff_toNat_lt.1 hi
    omega
  have hfileSize : fileSize.toNat ≠ 0 := fun hzero => hsize (UInt64.toNat_inj.1 hzero)
  have hcount := length_keys_iff hlookup hall
  unfold Browser.handleDownloadChunk
  simp only [hentry, Option.map_some, truthy_of_ne htotal, truthy_of_ne hfileSize, Bool.not_true,
    Bool.or_self, Bool.false_eq_true, if_false, Option.some.injEq]
  by_cases hfull : Complete total (i :: got)
  · rw [if_pos (hcount.2 hfull)]
    refine .inr ⟨hfull, ?_⟩
    have hjoin : joinChunks (chunks.insert i (piece i)) = pieces total piece := by
      refine joinChunks_eq fun j => ?_
      rw [hlookup j]
      by_cases hj : j < total
      · rw [if_pos hj, if_pos (hfull j hj)]
      · rw [if_neg hj, if_neg fun hmem => hj (hall j hmem)]
    simp [Browser.finalizeDownload, hjoin]
  · rw [if_neg fun hlen => hfull (hcount.1 hlen)]
    refine .inl ⟨hfull, ?_⟩
    simp only [Browser.requestNextDownloadChunk, AList.lookup_insert]
    exact ⟨⟨⟨chunks.insert i (piece i), fileSize, AList.lookup_insert _, hsize, hlookup⟩, hall⟩,
      trivial, trivial⟩

/-- Chunks of a download that is over are ignored. -/
theorem foldl_of_none (chunks : List SFTPDownloadChunk) (hb : b.activeDownloads.lookup msgId = none) :
    chunks.foldl (fun b chunk => b.handleDownloadChunk msgId chunk) b = b := by
  induction chunks with
  | nil => rfl
  | cons chunk chunks ih =>
      have hsame : b.handleDownloadChunk msgId chunk = b := by
        unfold Browser.handleDownloadChunk
        rw [hb]
      rw [List.foldl_cons, hsame, ih]

/-- **Any order, any repetitions**: the file is saved once its indices are all there, and not
before. -/
theorem foldl_gathering (size : UInt32 → UInt32) (indices : List UInt32)
    (hrange : ∀ i ∈ indices, i < total) :
    ∀ {b : Browser} {got : List UInt32} {next : Nat},
      Gathering b msgId filename downloadId total piece got next → ¬ Complete total got →
      ((indices.map fun i => (⟨downloadId, i, size i, piece i⟩ : SFTPDownloadChunk)).foldl
          (fun b chunk => b.handleDownloadChunk msgId chunk) b).saved =
        b.saved ++
          if Complete total (indices ++ got) then [(filename, pieces total piece)] else [] := by
  induction indices with
  | nil =>
      intro b got next _ hmore
      rw [List.nil_append, if_neg hmore]
      exact (List.append_nil _).symm
  | cons i indices ih =>
      intro b got next hb hmore
      have hi := hrange i List.mem_cons_self
      have hcond : Complete total (i :: indices ++ got) ↔ Complete total (indices ++ i :: got) := by
        unfold Complete
        simp only [List.cons_append, List.mem_cons, List.mem_append]
        refine forall_congr' fun j => imp_congr_right fun _ => ?_
        tauto
      rw [List.map_cons, List.foldl_cons]
      simp only [hcond]
      rcases handleDownloadChunk_gathering hb hi ⟨downloadId, i, size i, piece i⟩ rfl with
        ⟨hmore', hb', -, hsaved⟩ | ⟨hall, hnone, -, hsaved⟩
      · rw [ih (fun j hj => hrange j (List.mem_cons_of_mem _ hj)) hb' hmore', hsaved]
      · have hcomplete : Complete total (indices ++ i :: got) :=
          fun j hj => List.mem_append_right _ (hall j hj)
        rw [foldl_of_none _ hnone, hsaved, if_pos hcomplete]

end Receive

end Phirepass.Channel
