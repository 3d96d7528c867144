import MultiAddonRss.Foundations.PastTime
import MultiAddonRss.Manager.Progress

/-!
# Turning the assets back on

The setter forgets which assets an opted-out client has when it turns them on
again. From then on an asset has to be offered before it counts as downloaded.
-/

namespace MultiAddonRss

open Foundations

namespace MultiAddonManager

def SetsPending (m : MultiAddonManager) (steamID64 : UInt64) (addon : CString) (call : Call) :
    Prop :=
  (m.progress steamID64).2 ≠ addon ∧ ((m.step call).1.progress steamID64).2 = addon

def WasPending (m : MultiAddonManager) (steamID64 : UInt64) (addon : CString) :
    List Call → Prop :=
  Once fun pre call => (run step m pre).SetsPending steamID64 addon call

/-- An addon that the client has, or is to download, was made the pending one. -/
structure StagedSince (m : MultiAddonManager) (steamID64 : UInt64) (addon : CString)
    (pre : List Call) (m' : MultiAddonManager) : Prop where
  downloaded : addon ∈ (m'.progress steamID64).1 → m.WasPending steamID64 addon pre
  pending : (m'.progress steamID64).2 = addon → m.WasPending steamID64 addon pre

variable {m : MultiAddonManager} {steamID64 : UInt64} {addon : CString}

theorem stagedSince_step {pre : List Call} {call : Call}
    (hpre : m.StagedSince steamID64 addon pre (run step m pre)) :
    m.StagedSince steamID64 addon (pre ++ [call]) (step (run step m pre) call).1 := by
  constructor
  · intro haddon
    apply once_concat.2
    rcases mem_downloaded_step _ haddon with hmem | hpending
    · exact .inl (hpre.downloaded hmem)
    · exact .inl (hpre.pending hpending.symm)
  · intro hafter
    apply once_concat.2
    by_cases hbefore : ((run step m pre).progress steamID64).2 = addon
    · exact .inl (hpre.pending hbefore)
    · exact .inr ⟨hbefore, hafter⟩

/-- What was neither downloaded nor pending at first was made pending before it
counts as downloaded. -/
theorem stagedSince_run (hdownloaded : addon ∉ (m.progress steamID64).1)
    (hpending : (m.progress steamID64).2 ≠ addon) (calls : List Call) :
    m.StagedSince steamID64 addon calls (run step m calls) :=
  run_invariant step (m.StagedSince steamID64 addon)
    ⟨fun h => absurd h hdownloaded, fun h => absurd h hpending⟩
    (fun _ _ hpre => stagedSince_step hpre) calls

theorem clientAddons_of_turned_on {o : SaveOutcome}
    (hoff : m.isClientRssAssetsEnabled steamID64 = false)
    (hresult : (m.setClientRssAssetsEnabled o steamID64 true).1 = true) :
    (m.setClientRssAssetsEnabled o steamID64 true).2.clientAddons =
      (m.clearRssAssets steamID64).clientAddons := by
  have hset := setClientRssAssetsEnabled_of_changed (by simp [hoff]) hresult
  rw [hset]
  rfl

/-- After a setter call that turns the assets of a client on again, its record
has lost the assets and nothing else, and the other records are unchanged. In
every later run, an asset counts as downloaded only after some call has made it
the pending addon. -/
theorem rss_assets_restaged (m : MultiAddonManager) (o : SaveOutcome) (steamID64 : UInt64)
    (hoff : m.isClientRssAssetsEnabled steamID64 = false)
    (hresult : (m.setClientRssAssetsEnabled o steamID64 true).1 = true) :
    let m' := (m.setClientRssAssetsEnabled o steamID64 true).2
    (m'.clientAddons steamID64).downloadedAddons =
        (m.clientAddons steamID64).downloadedAddons.filter (fun addon => !isRssAssetAddon addon) ∧
      (isRssAssetAddon (m.clientAddons steamID64).currentPendingAddon = false →
        (m'.clientAddons steamID64).currentPendingAddon =
          (m.clientAddons steamID64).currentPendingAddon) ∧
      (∀ id ≠ steamID64, m'.clientAddons id = m.clientAddons id) ∧
      ∀ calls addon, isRssAssetAddon addon = true →
        addon ∈ ((run step m' calls).clientAddons steamID64).downloadedAddons →
          m'.WasPending steamID64 addon calls := by
  intro m'
  have hrecords : m'.clientAddons = (m.clearRssAssets steamID64).clientAddons :=
    clientAddons_of_turned_on hoff hresult
  refine ⟨?_, fun hrss => ?_, fun id hid => ?_, fun calls addon haddon => ?_⟩
  · rw [hrecords, clearRssAssets, clientAddons_setClient_self]
  · rw [hrecords, clearRssAssets, clientAddons_setClient_self]
    simp [hrss]
  · rw [hrecords, clearRssAssets, clientAddons_setClient_of_ne _ _ _ hid]
  · apply (stagedSince_run ?_ ?_ calls).downloaded
    · simp [progress, hrecords, clearRssAssets, haddon]
    · rw [progress, hrecords, clearRssAssets, clientAddons_setClient_self]
      dsimp only
      split_ifs with hpending
      · rintro rfl
        simp [isRssAssetAddon_nil] at haddon
      · rintro rfl
        exact hpending haddon

theorem rss_assets_restaged_cached_asset :
    let m : MultiAddonManager :=
      { rssAssetPreferencesWritable := true, rssAssetOptOutClients := {76561198000000001},
        clientAddons := fun _ => { downloadedAddons := [ascii "3782730321", ascii "1111111111"],
                                   currentPendingAddon := ascii "2222222222" } }
    let m' := (m.setClientRssAssetsEnabled {} 76561198000000001 true).2
    (m'.clientAddons 76561198000000001).downloadedAddons = [ascii "1111111111"] ∧
      ∀ calls, ascii "3782730321" ∈
          ((run step m' calls).clientAddons 76561198000000001).downloadedAddons →
        m'.WasPending 76561198000000001 (ascii "3782730321") calls := by
  intro m m'
  obtain ⟨hdownloaded, -, -, hlater⟩ :=
    rss_assets_restaged m {} 76561198000000001 (by decide) (by decide +kernel)
  constructor
  · rw [hdownloaded]
    decide +kernel
  · intro calls
    exact hlater calls _ (by decide +kernel)

end MultiAddonManager
end MultiAddonRss
