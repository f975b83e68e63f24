/-
# `Phirepass.Server.Token` — which texts `extract_creds` takes for a token

The documented format is `pat_<token_id>.<secret>`.  `extract_creds` cuts the
body at its first dot and looks at neither part: the test for a missing secret
asks whether there was a dot, which there was.  So it accepts the format and,
beside it, the texts with an empty part (`EmptyPart`).
-/
import Mathlib.Data.List.TakeWhile
import Phirepass.Server.Claim

namespace Phirepass.Server.Claim

open Rust

/-- The text is a token with this id and this secret. -/
structure IsPat (text tokenId secret : String) : Prop where
  format : trim text = "pat_" ++ tokenId ++ "." ++ secret
  tokenId_ne : tokenId ≠ ""
  dotFree : '.' ∉ tokenId.toList
  secret_ne : secret ≠ ""

/-- The parser returns the parts of a token, and an error for every other text. -/
structure ParsesPat (text : String) : Prop where
  parts : ∀ tokenId secret, extractCreds text = .ok (tokenId, secret) ↔ IsPat text tokenId secret
  refuses : (∀ tokenId secret, ¬ IsPat text tokenId secret) → ∃ why, extractCreds text = .error why

/-- One of the two parts is empty. -/
inductive EmptyPart (text : String) : Prop
  | tokenId (secret : String) (h : trim text = "pat_" ++ "." ++ secret)
  | secret (tokenId : String) (hdot : '.' ∉ tokenId.toList)
      (h : trim text = "pat_" ++ tokenId ++ ".")

section Strings

variable {s pre rest : String} {c : Char}

theorem stripPrefix_eq_some : stripPrefix pre s = some rest ↔ s = pre ++ rest := by
  unfold stripPrefix
  constructor
  · intro h
    split at h
    · next hpre =>
        obtain ⟨tail, htail⟩ := hpre
        cases h
        apply String.toList_inj.1
        rw [String.toList_append, String.toList_ofList, ← htail, ← String.length_toList,
          List.drop_left]
    · cases h
  · rintro rfl
    rw [String.toList_append, if_pos (List.prefix_append _ _), ← String.length_toList,
      List.drop_left, String.ofList_toList]

theorem splitOnce_eq_some {before behind : String} :
    splitOnce s c = some (before, behind) ↔
      s = before ++ String.singleton c ++ behind ∧ c ∉ before.toList := by
  unfold splitOnce
  have hcut := List.takeWhile_append_dropWhile (p := (· != c)) (l := s.toList)
  constructor
  · intro h
    cases hdrop : s.toList.dropWhile (· != c) with
    | nil =>
        rw [hdrop] at h
        cases h
    | cons d rest =>
        rw [hdrop] at h hcut
        cases h
        have hd : d = c := by
          have hhead := List.head_dropWhile_not (· != c) (l := s.toList) (by simp [hdrop])
          simpa [hdrop] using hhead
        refine ⟨?_, ?_⟩
        · apply String.toList_inj.1
          simp [hd ▸ hcut]
        · intro hmem
          rw [String.toList_ofList] at hmem
          simpa using List.mem_takeWhile_imp hmem
  · rintro ⟨rfl, hfree⟩
    have hall : ∀ d ∈ before.toList, (d != c) = true := by
      intro d hd
      exact bne_iff_ne.2 fun heq => hfree (heq ▸ hd)
    simp [List.dropWhile_append_of_pos hall, List.takeWhile_append_of_pos hall]

end Strings

section Token

variable {text tokenId secret : String}

/-- **What `extract_creds` accepts**: both parts may be empty. -/
theorem extractCreds_eq_ok : extractCreds text = .ok (tokenId, secret) ↔
    trim text = "pat_" ++ tokenId ++ "." ++ secret ∧ '.' ∉ tokenId.toList := by
  unfold extractCreds
  generalize trim text = body
  constructor
  · intro h
    dsimp only at h
    split at h
    · cases h
    · split at h
      · cases h
      · next patBody hstrip =>
          split at h
          · cases h
          · next before behind hsplit =>
              cases h
              obtain ⟨rfl, hfree⟩ := splitOnce_eq_some.1 hsplit
              exact ⟨by rw [stripPrefix_eq_some.1 hstrip]; simp [String.append_assoc], hfree⟩
  · rintro ⟨rfl, hfree⟩
    have hne : ("pat_" ++ tokenId ++ "." ++ secret).isEmpty = false := by
      simp
    have hstrip : stripPrefix "pat_" ("pat_" ++ tokenId ++ "." ++ secret) =
        some (tokenId ++ "." ++ secret) :=
      stripPrefix_eq_some.2 (by simp [String.append_assoc])
    have hsplit : splitOnce (tokenId ++ "." ++ secret) '.' = some (tokenId, secret) :=
      splitOnce_eq_some.2 ⟨rfl, hfree⟩
    simp [hne, hstrip, hsplit]

/-- **The parser accepts exactly the format** unless a part is empty. -/
theorem parsesPat_iff : ParsesPat text ↔ ¬ EmptyPart text := by
  constructor
  · rintro hparse (⟨secret, h⟩ | ⟨tokenId, hdot, h⟩)
    · have hok : extractCreds text = .ok ("", secret) :=
        extractCreds_eq_ok.2 ⟨by simpa using h, by simp⟩
      exact ((hparse.parts _ _).1 hok).tokenId_ne rfl
    · have hok : extractCreds text = .ok (tokenId, "") :=
        extractCreds_eq_ok.2 ⟨by simpa using h, hdot⟩
      exact ((hparse.parts _ _).1 hok).secret_ne rfl
  · intro hparts
    have haccept {tokenId secret : String} (hok : extractCreds text = .ok (tokenId, secret)) :
        IsPat text tokenId secret := by
      obtain ⟨hformat, hfree⟩ := extractCreds_eq_ok.1 hok
      refine ⟨hformat, ?_, hfree, ?_⟩
      · rintro rfl
        exact hparts (.tokenId secret (by simpa using hformat))
      · rintro rfl
        exact hparts (.secret tokenId hfree (by simpa using hformat))
    refine ⟨fun tokenId secret => ⟨haccept, fun h => extractCreds_eq_ok.2 ⟨h.format, h.dotFree⟩⟩,
      fun hnone => ?_⟩
    cases hres : extractCreds text with
    | error why => exact ⟨why, rfl⟩
    | ok parts => exact absurd (haccept hres) (hnone _ _)

/-- A token without id and secret is accepted. -/
theorem empty_parts_accepted : extractCreds "pat_." = .ok ("", "") ∧ ¬ ParsesPat "pat_." := by
  have htrim : trim "pat_." = "pat_." := by
    rw [trim]
    rfl
  have hok : extractCreds "pat_." = .ok ("", "") :=
    extractCreds_eq_ok.2 ⟨by rw [htrim]; rfl, by simp⟩
  exact ⟨hok, fun hparse => ((hparse.parts _ _).1 hok).tokenId_ne rfl⟩

end Token

end Phirepass.Server.Claim
