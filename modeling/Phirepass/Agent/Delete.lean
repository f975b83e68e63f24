/-
# `Phirepass.Agent.Delete` — what `delete_file` takes for the uploads of a file

`start_upload`, the end of `upload_file_chunk` and `start_download` join a
directory and a file name with one `/` unless the directory ends in one.
`delete_file` cuts every `/` off the end of the directory and adds one:

    directory    the three      delete_file
    d            d/f            d/f
    d/           d/f            d/f
    d//          d//f           d/f

So the two agree exactly on directories that do not end in two slashes
(`deletePath_eq_iff`), and there the uploads `delete_file` cancels are the ones
of that file (`deleteAgrees_iff`).
-/
import Mathlib.Data.List.DropRight
import Phirepass.Agent.Walks
import Phirepass.Interleave.Solo

namespace Phirepass.Agent

open Rust Interleave

/-! ## The two ways to join -/

/-- The directory ends in two slashes. -/
def EndsInSlashes (directory : String) : Prop := ['/', '/'] <:+ directory.toList

section Paths

variable {directory filename : String}

theorem toList_trimEndMatches (s : String) (c : Char) :
    (trimEndMatches s c).toList = s.toList.rdropWhile (· == c) := by
  rw [trimEndMatches, String.toList_ofList]
  rfl

/-- Text that does not end in `c`, and what follows of it. -/
theorem rdropWhile_append_replicate {c : Char} {body : List Char} (hbody : body.getLast? ≠ some c)
    (n : Nat) : (body ++ List.replicate n c).rdropWhile (· == c) = body := by
  induction n with
  | zero =>
      rw [List.replicate_zero, List.append_nil, List.rdropWhile_eq_self_iff]
      intro hne hlast
      exact hbody (by rw [List.getLast?_eq_some_getLast hne, beq_iff_eq.1 hlast])
  | succ n ih =>
      rw [List.replicate_succ', ← List.append_assoc,
        List.rdropWhile_concat_pos (· == c) _ c (by simp)]
      exact ih

/-- Every directory is one that does not end in a slash, with slashes behind it. -/
theorem exists_slashes (l : List Char) :
    ∃ body n, l = body ++ List.replicate n '/' ∧ body.getLast? ≠ some '/' := by
  refine ⟨l.rdropWhile (· == '/'), (l.rtakeWhile (· == '/')).length, ?_, fun hlast => ?_⟩
  · have hall : l.rtakeWhile (· == '/') = List.replicate (l.rtakeWhile (· == '/')).length '/' := by
      refine List.eq_replicate_iff.2 ⟨rfl, fun c hc => ?_⟩
      exact beq_iff_eq.1 (List.mem_rtakeWhile_imp (p := (· == '/')) hc)
    rw [← hall, List.rdropWhile_append_rtakeWhile]
  · have hne : l.rdropWhile (· == '/') ≠ [] := by
      intro hnil
      rw [hnil] at hlast
      cases hlast
    refine List.rdropWhile_last_not (· == '/') l hne ?_
    rw [List.getLast?_eq_some_getLast hne, Option.some.injEq] at hlast
    rw [hlast]
    rfl

theorem getLast?_append_replicate {body : List Char} (n : Nat) :
    (body ++ List.replicate (n + 1) '/').getLast? = some '/' := by
  rw [List.replicate_succ', ← List.append_assoc, List.getLast?_concat]

/-- `delete_file` puts one slash behind the directory without its slashes. -/
theorem toList_deletePath {body : List Char} {n : Nat} (hbody : body.getLast? ≠ some '/')
    (hdir : directory.toList = body ++ List.replicate n '/') :
    (deletePath ⟨directory, filename⟩).toList = body ++ '/' :: filename.toList := by
  have hcut : (trimEndMatches (directory ++ if endsWith directory '/' then "" else "/") '/').toList =
      body := by
    rw [toList_trimEndMatches, String.toList_append, hdir, List.append_assoc]
    split
    · simpa using rdropWhile_append_replicate hbody n
    · have hone : List.replicate n '/' ++ "/".toList = List.replicate (n + 1) '/' :=
        List.replicate_succ'.symm
      rw [hone]
      exact rdropWhile_append_replicate hbody (n + 1)
  rw [deletePath, String.toList_append, String.toList_append, hcut, List.append_assoc]
  rfl

/-- The others leave the slashes that are there, and add one if there is none. -/
theorem toList_filePath {body : List Char} {n : Nat} (hbody : body.getLast? ≠ some '/')
    (hdir : directory.toList = body ++ List.replicate n '/') :
    (filePath directory filename).toList =
      body ++ List.replicate (max n 1) '/' ++ filename.toList := by
  unfold filePath endsWith
  rw [hdir]
  cases n with
  | zero =>
      rw [List.replicate_zero, List.append_nil, if_neg (by simpa using hbody),
        String.toList_append, String.toList_append, hdir]
      simp
  | succ n =>
      rw [getLast?_append_replicate, if_pos (by simp), String.toList_append, hdir]
      simp

theorem endsInSlashes_iff {body : List Char} {n : Nat} (hbody : body.getLast? ≠ some '/')
    (hdir : directory.toList = body ++ List.replicate n '/') :
    EndsInSlashes directory ↔ 2 ≤ n := by
  unfold EndsInSlashes
  rw [hdir]
  constructor
  · rintro ⟨front, hfront⟩
    by_contra hlt
    obtain rfl | rfl : n = 0 ∨ n = 1 := by omega
    · refine hbody ?_
      have hlast := congrArg List.getLast? hfront
      simpa using hlast.symm
    · refine hbody ?_
      have hinit : front ++ ['/'] = body := by
        have hcut : (front ++ ['/']) ++ ['/'] = body ++ ['/'] := by simpa using hfront
        exact List.append_cancel_right hcut
      rw [← hinit, List.getLast?_concat]
  · intro hle
    obtain ⟨m, rfl⟩ : ∃ m, n = m + 2 := ⟨n - 2, by omega⟩
    refine ⟨body ++ List.replicate m '/', ?_⟩
    rw [List.append_assoc]
    show body ++ (List.replicate m '/' ++ List.replicate 2 '/') = _
    rw [List.replicate_append_replicate]

/-- **The recipes agree exactly** where the directory does not end in two slashes. -/
theorem deletePath_eq_iff :
    deletePath ⟨directory, filename⟩ = filePath directory filename ↔ ¬ EndsInSlashes directory := by
  obtain ⟨body, n, hdir, hbody⟩ := exists_slashes directory.toList
  rw [endsInSlashes_iff hbody hdir, ← String.toList_inj, toList_deletePath hbody hdir,
    toList_filePath hbody hdir]
  constructor
  · intro heq hle
    have hlen := congrArg List.length heq
    simp only [List.length_append, List.length_cons, List.length_replicate] at hlen
    omega
  · intro hlt
    have hone : max n 1 = 1 := by omega
    rw [hone, List.append_assoc]
    rfl

end Paths

/-! ## What is cancelled -/

/-- The upload is one of the tunnel's client, and of the file at `path`. -/
def destined (tn : Tunnel) (path : String) (key : Key) (upload : FileUpload) : Bool :=
  key.1 == tn.cid && filePath upload.remotePath upload.filename == path

/-- The temporary file of an upload is named after its file. -/
def FileUpload.Named (upload : FileUpload) : Prop :=
  upload.tempPath = filePath upload.remotePath upload.filename ++ ".tmp"

/-- The walk of `delete_file` goes on, turn by turn, and then the file is removed. -/
inductive Cancelling (S : Setup) (t : Nat) (tn : Tunnel) (data : SFTPDelete)
    (msgId : Option UInt32) (keys : List Key) : List Key → State → State → Prop
  | next {visited visited' : List Key} {s s₁ s' : State}
      (hturn : (retainUploads t tn data msgId keys visited).Runs (exec S (.tunnel t)) s
        (.retainUploads t tn data msgId keys visited') s₁)
      (hrest : Cancelling S t tn data msgId keys visited' s₁ s') :
      Cancelling S t tn data msgId keys visited s s'
  | last {visited : List Key} {s s' : State}
      (hturn : (retainUploads t tn data msgId keys visited).Runs (exec S (.tunnel t)) s
        (.sftpLoop t tn) s') :
      Cancelling S t tn data msgId keys visited s s'

/-- The tunnel `t` obeys `Delete` from `s` to `s'`, while the others stand still. -/
def Deletes (S : Setup) (t : Nat) (tn : Tunnel) (data : SFTPDelete) (msgId : Option UInt32)
    (s s' : State) : Prop :=
  ∃ keys s₀, (sftpCommand S t tn (.delete data msgId)).Runs (exec S (.tunnel t)) s
    (.retainUploads t tn data msgId keys []) s₀ ∧ Cancelling S t tn data msgId keys [] s₀ s'

/-- `delete_file` and the other three mean the same file by a directory and a file name. -/
structure DeleteAgrees (directory filename : String) : Prop where
  /-- They build the same path. -/
  same : deletePath ⟨directory, filename⟩ = filePath directory filename
  /-- In every reachable state the client's uploads of that file go, and no other entry. -/
  cancels : ∀ S A cfg, (machine S).Reach A start cfg → ∀ t tn msgId s',
    Deletes S t tn ⟨directory, filename⟩ msgId cfg.world.state s' → ∀ k key,
      (s'.uploads k).lookup key = ((cfg.world.state.uploads k).lookup key).filter fun upload =>
        !(decide (k = tn.conn) && destined tn (filePath directory filename) key upload)
  /-- Whatever the other tasks do meanwhile, only uploads of that file go. -/
  only : ∀ S A cfg, (machine S).Reach A start cfg → ∀ i k tn key past,
    (⟨i, .uploads k (.removeIf key (Agent.cancels tn ⟨directory, filename⟩ key)), true⟩ :
      Ev Tid Resp) :: past <:+ cfg.world.trace →
    ∃ upload, (mapAt (onUploads k) past).lookup key = some upload ∧
      destined tn (filePath directory filename) key upload = true

section Deleting

variable {S : Setup} {A : Restriction} {cfg : Config State Tid Resp Label} {t : Nat} {tn : Tunnel}
  {data : SFTPDelete} {msgId : Option UInt32} {keys visited : List Key} {s s' : State} {l : Label}

/-- `start_upload` enters the upload of the command it obeys. -/
theorem May.entersNamed {i : Tid} {h : Hist Resp} {k : Nat} {key : Key} {upload : FileUpload}
    (hm : May S i h (.uploads k (.insert key upload))) : upload.Named := by
  obtain ⟨t, rfl, ⟨-, hc⟩ | ⟨tn, hb, -, hc⟩⟩ := hm.byTunnel rfl
  · cases hc
  · cases hc with
    | uploadInsert => rfl
    | sweep hc => cases hc

theorem FileUpload.Same.named {upload upload' : FileUpload} (h : upload.Same upload')
    (hn : upload.Named) : upload'.Named := by
  unfold FileUpload.Same at h
  rw [h] at hn
  exact hn

/-- **Every upload is named after its file.** -/
theorem uploads_named (hr : (machine S).Reach A start cfg) :
    ∀ k key upload, (cfg.world.state.uploads k).lookup key = some upload → upload.Named := by
  refine agent_inv (fun w => ∀ k key upload, (w.state.uploads k).lookup key = some upload →
    upload.Named) ?_ ?_ hr
  · intro k key upload hentry
    cases hentry
  · intro cfg i c o r s _ hI hmay _ hexec k key upload hentry
    rw [World.push_state, (exec_effect hexec).uploads] at hentry
    cases c with
    | uploads j op =>
        rcases eq_or_ne k j with rfl | hj
        · rw [Cmd.uploadsAfter, Function.update_self] at hentry
          rcases MapOp.lookup_apply hentry with hold | rfl | ⟨f, old, rfl, hold, rfl⟩
          · exact hI k key upload hold
          · exact hmay.entersNamed
          · exact (hmay.touchesUpload old).named (hI k key old hold)
        · rw [Cmd.uploadsAfter, Function.update_of_ne hj] at hentry
          exact hI k key upload hentry
    | _ => exact hI k key upload hentry

variable (tn data) in
/-- Where the paths agree, an upload is cancelled exactly if it is one of that file. -/
theorem cancels_eq_destined (key : Key) {upload : FileUpload} (hn : upload.Named)
    (hsame : deletePath data = filePath data.path data.filename) :
    cancels tn data key upload = destined tn (filePath data.path data.filename) key upload := by
  have hpath : (upload.tempPath == deletePath data ++ ".tmp") =
      (filePath upload.remotePath upload.filename == filePath data.path data.filename) := by
    rw [hsame, hn, Bool.eq_iff_iff, beq_iff_eq, beq_iff_eq]
    constructor
    · intro heq
      have hlist := congrArg String.toList heq
      rw [String.toList_append, String.toList_append] at hlist
      exact String.toList_inj.1 (List.append_cancel_right hlist)
    · intro heq
      rw [heq]
  rw [cancels, destined, hpath]

/-- What one turn of the walk does. -/
inductive Turn (t : Nat) (tn : Tunnel) (data : SFTPDelete) (msgId : Option UInt32)
    (keys visited : List Key) (s : State) : Label → State → Prop
  | meet {key : Key} {s' : State} (hnew : key ∉ visited)
      (hs' : s'.uploads = Function.update s.uploads tn.conn
        (MapOp.apply (s.uploads tn.conn) (.removeIf key (cancels tn data key)))) :
      Turn t tn data msgId keys visited s (.retainUploads t tn data msgId keys (key :: visited)) s'
  | finish {s' : State}
      (hall : ∀ key ∈ keys, key ∈ (s.uploads tn.conn).keys → key ∈ visited)
      (hs' : s'.uploads = s.uploads) :
      Turn t tn data msgId keys visited s (.sftpLoop t tn) s'

/-- Removing the file leaves the uploads. -/
theorem removeFile_uploads {u : Unit}
    (h : (removeFile tn data msgId).Runs (exec S (.tunnel t)) s u s') :
    s'.uploads = s.uploads := by
  obtain ⟨o, r, s₁, hexec, hrest⟩ := Prog.runs_perform.1 h
  have hfirst : s₁.uploads = s.uploads := (exec_effect hexec).uploads
  cases r with
  | ok _ =>
      obtain ⟨-, rfl⟩ := Prog.runs_ret.1 hrest
      exact hfirst
  | error err =>
      obtain ⟨o, r, s₂, hexec, hrest⟩ := Prog.runs_perform.1 hrest
      obtain ⟨-, rfl⟩ := Prog.runs_ret.1 hrest
      exact (exec_effect hexec).uploads.trans hfirst

theorem turn_of_runs
    (h : (retainUploads t tn data msgId keys visited).Runs (exec S (.tunnel t)) s l s') :
    Turn t tn data msgId keys visited s l s' := by
  obtain ⟨o, r, s₁, hexec, hrest⟩ := Prog.runs_perform.1 h
  have hnext := MapOp.answer_next (exec_uploads_answer hexec)
  have hsame : s₁.uploads = s.uploads := by
    rw [(exec_effect hexec).uploads]
    exact Function.update_eq_self _ _
  cases r with
  | some found =>
      obtain ⟨key, upload⟩ := found
      obtain ⟨o, r, s₂, hexec, hrest⟩ := Prog.runs_perform.1 hrest
      obtain ⟨rfl, rfl⟩ := Prog.runs_ret.1 hrest
      refine .meet (hnext.1 key upload rfl).1 ?_
      rw [(exec_effect hexec).uploads, hsame]
      rfl
  | none =>
      obtain ⟨u, s₂, hremove, hrest⟩ := Prog.runs_bind.1 hrest
      obtain ⟨rfl, rfl⟩ := Prog.runs_ret.1 hrest
      exact .finish (hnext.2 rfl) ((removeFile_uploads hremove).trans hsame)

/-- An entry under the key the walk meets stays if it is not to be cancelled. -/
theorem lookup_removeIf {m : DashMap Key FileUpload} {key key' : Key} {p : FileUpload → Bool} :
    (MapOp.apply m (.removeIf key p)).lookup key' =
      if key' = key then (m.lookup key').filter fun upload => !p upload else m.lookup key' := by
  rw [MapOp.apply]
  by_cases hkey : key' = key
  · subst hkey
    rw [if_pos rfl]
    cases hentry : m.lookup key' with
    | none => simp [hentry]
    | some upload =>
        cases hp : p upload with
        | true => simp [AList.lookup_erase, Option.filter, hp]
        | false => simp [hentry, Option.filter, hp]
  · rw [if_neg hkey]
    cases hentry : m.lookup key with
    | none => rfl
    | some upload =>
        cases hp : p upload with
        | true => simp [hp, AList.lookup_erase_ne hkey]
        | false => simp [hp]

/-- **The whole walk.**  What it has met is cancelled if it is to be, and nothing else is
touched; at its end everything it began with has been met. -/
theorem Cancelling.lookup (h : Cancelling S t tn data msgId keys visited s s')
    (m : Nat → DashMap Key FileUpload) (hkeys : keys = (m tn.conn).keys)
    (hother : ∀ k, k ≠ tn.conn → s.uploads k = m k)
    (hmet : ∀ key, (s.uploads tn.conn).lookup key =
      if key ∈ visited then ((m tn.conn).lookup key).filter fun upload => !cancels tn data key upload
      else (m tn.conn).lookup key) (k : Nat) (key : Key) :
    (s'.uploads k).lookup key = ((m k).lookup key).filter fun upload =>
      !(decide (k = tn.conn) && cancels tn data key upload) := by
  induction h with
  | @next visited visited' s s₁ s' hturn _ ih =>
      cases turn_of_runs hturn with
      | @meet met _ hnew hs₁ =>
          refine ih (fun k hk => ?_) fun key' => ?_
          · rw [hs₁, Function.update_of_ne hk]
            exact hother k hk
          · rw [hs₁, Function.update_self, lookup_removeIf, hmet key']
            by_cases hkey : key' = met
            · subst hkey
              rw [if_pos rfl, if_neg hnew, if_pos List.mem_cons_self]
            · simp [hkey]
  | @last visited s s' hturn =>
      cases turn_of_runs hturn with
      | finish hall hs' =>
          rw [hs']
          by_cases hk : k = tn.conn
          · subst hk
            simp only [hmet key, decide_true, Bool.true_and]
            split
            · rfl
            · next hnew =>
                -- a key that was not met was not there to begin with
                cases hentry : (m tn.conn).lookup key with
                | none => rfl
                | some upload =>
                    refine absurd (hall key ?_ ?_) hnew
                    · rw [hkeys]
                      exact AList.lookup_isSome.1 (by rw [hentry]; rfl)
                    · refine AList.lookup_isSome.1 ?_
                      rw [hmet key, if_neg hnew, hentry]
                      rfl
          · simp only [hother k hk, decide_eq_false hk, Bool.false_and, Bool.not_false]
            cases (m k).lookup key <;> rfl

/-- What `delete_file` does to the uploads, alone. -/
theorem Deletes.lookup (h : Deletes S t tn data msgId s s') (k : Nat) (key : Key) :
    (s'.uploads k).lookup key = ((s.uploads k).lookup key).filter fun upload =>
      !(decide (k = tn.conn) && cancels tn data key upload) := by
  obtain ⟨keys, s₀, hstart, hwalk⟩ := h
  obtain ⟨o, r, s₁, hexec, hrest⟩ := Prog.runs_perform.1 hstart
  have hsame : s₁.uploads = s.uploads := by
    rw [(exec_effect hexec).uploads]
    exact Function.update_eq_self _ _
  obtain ⟨hlabel, rfl⟩ := Prog.runs_ret.1 hrest
  cases hlabel
  have hkeys := exec_uploads_answer hexec
  simp only [MapOp.answer, Option.some.injEq] at hkeys
  refine hwalk.lookup s.uploads hkeys.symm (fun k _ => by rw [hsame]) (fun key => ?_) k key
  rw [hsame, if_neg List.not_mem_nil]

/-- **Deleting agrees with uploading on file names** exactly for the directories that do not
end in two slashes. -/
theorem deleteAgrees_iff (directory filename : String) :
    DeleteAgrees directory filename ↔ ¬ EndsInSlashes directory := by
  constructor
  · intro h
    exact deletePath_eq_iff.1 h.same
  · intro hdir
    have hsame : deletePath ⟨directory, filename⟩ = filePath directory filename :=
      deletePath_eq_iff.2 hdir
    refine ⟨hsame, ?_, ?_⟩
    · intro S A cfg hr t tn msgId s' hdel k key
      rw [hdel.lookup k key]
      cases hentry : (cfg.world.state.uploads k).lookup key with
      | none => rfl
      | some upload =>
          have heq := cancels_eq_destined tn ⟨directory, filename⟩ key
            (uploads_named hr k key upload hentry) hsame
          simp only [Option.filter_some, heq]
    · intro S A cfg hr i k tn key past hs
      refine agent_events (fun past e => e = ⟨i, .uploads k (.removeIf key
        (Agent.cancels tn ⟨directory, filename⟩ key)), true⟩ →
          ∃ upload, (mapAt (onUploads k) past).lookup key = some upload ∧
            destined tn (filePath directory filename) key upload = true) ?_ hr _ past hs rfl
      intro cfg j c o r s hr _ _ hexec heq
      cases heq
      have hany := exec_uploads_answer hexec
      simp only [MapOp.answer, Option.some.injEq, Option.any_eq_true] at hany
      obtain ⟨upload, hentry, hcancels⟩ := hany
      rw [← (uploads_answered hr k).1]
      refine ⟨upload, hentry, ?_⟩
      rw [← hcancels]
      exact (cancels_eq_destined tn ⟨directory, filename⟩ key
        (uploads_named hr k key upload hentry) hsame).symm

/-- **The file `a` in `d//` is not the file the upload went to.** -/
theorem delete_other_path :
    filePath "d//" "a" = "d//a" ∧ deletePath ⟨"d//", "a"⟩ = "d/a" ∧ ¬ DeleteAgrees "d//" "a" := by
  refine ⟨by decide, by decide, fun h => ?_⟩
  exact absurd h.same (by decide)

end Deleting

end Phirepass.Agent
