import MultiAddonRss.Manager.HookSpecs

/-!
# Reconnects

What `CheckClientAddons` makes of a pending addon: the fast mount that it
announces for opted-out clients, and the timeout that a late client misses.
-/

namespace MultiAddonRss
namespace MultiAddonManager

def openAddons (m : MultiAddonManager) (steamID64 : UInt64) : List CString :=
  (m.getClientAddons steamID64 true).filter fun addon =>
    addon ≠ (m.clientAddons steamID64).currentPendingAddon &&
      addon ∉ (m.clientAddons steamID64).downloadedAddons

/-- The need has shrunk to assets that an opted-out client skips. -/
def OnlySkippedLeft (m : MultiAddonManager) (steamID64 : UInt64) : Prop :=
  m.openAddons steamID64 ≠ [] ∧
    ∀ addon ∈ m.openAddons steamID64,
      isRssAssetAddon addon = true ∧ addon ≠ m.currentWorkshopMap

instance decidableOnlySkippedLeft (m : MultiAddonManager) (steamID64 : UInt64) :
    Decidable (m.OnlySkippedLeft steamID64) :=
  inferInstanceAs (Decidable (_ ∧ _))

/-- The states in which an opted-out client is to be fast-mounted. -/
structure FastMountDue (m : MultiAddonManager) (steamID64 : UInt64) : Prop where
  dedicatedServer : m.dedicatedServer = true
  optedOut : m.isClientRssAssetsEnabled steamID64 = false
  pending : (m.clientAddons steamID64).currentPendingAddon ≠ []
  staged : ∀ addon ∈ m.getClientAddons steamID64 false,
    addon ∈ (m.clientAddons steamID64).downloadedAddons
  onlySkipped : m.OnlySkippedLeft steamID64

/-- The skipped assets count as downloaded and nothing is pending. -/
structure FastMounted (m m' : MultiAddonManager) (now : ℚ) (steamID64 : UInt64) : Prop where
  downloaded : ∀ addon ∈ m.openAddons steamID64,
    addon ∈ (m'.clientAddons steamID64).downloadedAddons
  pending : (m'.clientAddons steamID64).currentPendingAddon = []
  lastActiveTime : (m'.clientAddons steamID64).lastActiveTime = now

/-- A late reconnect downloads nothing, any other at most the pending addon. -/
structure CreditsInTime (m m' : MultiAddonManager) (now : ℚ) (steamID64 : UInt64) : Prop where
  late : now - (m.clientAddons steamID64).lastActiveTime > m.conVars.mmExtraAddonsTimeout →
    (m'.clientAddons steamID64).downloadedAddons = (m.clientAddons steamID64).downloadedAddons ∧
      (m'.clientAddons steamID64).currentPendingAddon = []
  timely : now - (m.clientAddons steamID64).lastActiveTime ≤ m.conVars.mmExtraAddonsTimeout →
    (m'.clientAddons steamID64).downloadedAddons = (m.clientAddons steamID64).downloadedAddons ∨
      (m'.clientAddons steamID64).downloadedAddons =
        (m.clientAddons steamID64).downloadedAddons ++
          [(m.clientAddons steamID64).currentPendingAddon]

def PreCredits (m : MultiAddonManager) (steamID64 : UInt64) : Prop :=
  m.isClientRssAssetsEnabled steamID64 = false ∧ m.remainingAddons steamID64 = [] ∧
    isRssAssetAddon (m.clientAddons steamID64).currentPendingAddon = false ∧
    (m.clientAddons steamID64).currentPendingAddon ∉ (m.clientAddons steamID64).downloadedAddons

variable {m : MultiAddonManager} {steamID64 : UInt64} (now : ℚ)

/-! ## The fast mount -/

theorem downloadedAddons_checkClientAddons (hdedicated : m.dedicatedServer = true)
    (hfull : m.getClientAddons steamID64 true ≠ []) :
    ((m.checkClientAddons now steamID64).clientAddons steamID64).downloadedAddons =
      (m.clientAddons steamID64).downloadedAddons ++ m.credited now steamID64 := by
  rw [checkClientAddons_of_ne_nil hdedicated hfull, clientAddons_setClient_self]

/-- What is open stays open: the list of skipped assets is never appended. -/
theorem openAddons_notMem_checkClientAddons {addon : CString}
    (hdedicated : m.dedicatedServer = true) (haddon : addon ∈ m.openAddons steamID64) :
    addon ∉ ((m.checkClientAddons now steamID64).clientAddons steamID64).downloadedAddons := by
  simp only [openAddons, List.mem_filter, Bool.and_eq_true, decide_eq_true_eq] at haddon
  obtain ⟨hmem, hpending, hdownloaded⟩ := haddon
  rw [downloadedAddons_checkClientAddons now hdedicated (List.ne_nil_of_mem hmem)]
  intro hnew
  rcases List.mem_append.1 hnew with hold | hcredited
  · exact hdownloaded hold
  · exact hpending (mem_credited_eq hcredited)

/-- Where the fast mount is due it does not happen: the skipped assets stay in
the list that the branch expects to be empty. -/
theorem fast_mount_never (m : MultiAddonManager) (now : ℚ) (steamID64 : UInt64)
    (hdue : m.FastMountDue steamID64) :
    ¬ m.FastMounted (m.checkClientAddons now steamID64) now steamID64 := by
  intro hmounted
  obtain ⟨addon, haddon⟩ := List.exists_mem_of_ne_nil _ hdue.onlySkipped.1
  exact openAddons_notMem_checkClientAddons now hdue.dedicatedServer haddon
    (hmounted.downloaded addon haddon)

theorem fast_mount_never_late_client :
    let m : MultiAddonManager :=
      { currentWorkshopMap := ascii "1111111111", mountedAddons := [ascii "3782731016"],
        rssAssetOptOutClients := {76561198000000001},
        clientAddons := fun _ => { downloadedAddons := [ascii "1111111111"],
                                   currentPendingAddon := ascii "1111111111" } }
    ¬ m.FastMounted (m.checkClientAddons 100 76561198000000001) 100 76561198000000001 := by
  intro m
  apply fast_mount_never m 100 76561198000000001
  exact ⟨rfl, by decide, by decide +kernel, by decide +kernel, by decide +kernel⟩

/-- The workshop map 1111111111 is downloaded and pending, the asset 3782730321
is all that is left. The client connects in time, and the asset is not credited. -/
theorem skipped_asset_not_mounted :
    let m : MultiAddonManager :=
      { currentWorkshopMap := ascii "1111111111", mountedAddons := [ascii "3782730321"],
        rssAssetOptOutClients := {76561198000000001},
        clientAddons := fun _ => { downloadedAddons := [ascii "1111111111"],
                                   currentPendingAddon := ascii "1111111111" } }
    m.FastMountDue 76561198000000001 ∧
      ¬ m.FastMounted (m.checkClientAddons 5 76561198000000001) 5 76561198000000001 := by
  intro m
  constructor
  · exact ⟨rfl, by decide, by decide +kernel, by decide +kernel, by decide +kernel⟩
  · intro hmounted
    exact absurd (hmounted.downloaded (ascii "3782730321") (by decide +kernel)) (by decide +kernel)

/-! ## Late reconnects -/

theorem credited_of_preCredits (hpending : (m.clientAddons steamID64).currentPendingAddon ≠ [])
    (hpre : m.PreCredits steamID64) :
    m.credited now steamID64 = (m.clientAddons steamID64).currentPendingAddon ::
      if now - (m.clientAddons steamID64).lastActiveTime > m.conVars.mmExtraAddonsTimeout then []
      else [(m.clientAddons steamID64).currentPendingAddon] := by
  obtain ⟨henabled, hneed, hrss, hmem⟩ := hpre
  simp [credited, hpending, henabled, hneed, hrss, hmem]

theorem credited_of_not_preCredits
    (hpending : (m.clientAddons steamID64).currentPendingAddon ≠ [])
    (hpre : ¬ m.PreCredits steamID64) :
    m.credited now steamID64 =
      if now - (m.clientAddons steamID64).lastActiveTime > m.conVars.mmExtraAddonsTimeout then []
      else if m.isClientRssAssetsEnabled steamID64 ||
          !isRssAssetAddon (m.clientAddons steamID64).currentPendingAddon then
        [(m.clientAddons steamID64).currentPendingAddon]
      else [] := by
  have htest : (!m.isClientRssAssetsEnabled steamID64 && m.remainingAddons steamID64 = [] &&
      !isRssAssetAddon (m.clientAddons steamID64).currentPendingAddon &&
        (m.clientAddons steamID64).currentPendingAddon ∉
          (m.clientAddons steamID64).downloadedAddons) = false := by
    by_contra h
    apply hpre
    simpa [PreCredits, and_assoc] using h
  simp only [credited, hpending, htest, if_false, Bool.false_eq_true, List.nil_append]

theorem credits_in_time_iff (m : MultiAddonManager) (now : ℚ) (steamID64 : UInt64)
    (hdedicated : m.dedicatedServer = true)
    (hpending : (m.clientAddons steamID64).currentPendingAddon ≠ [])
    (hfull : m.getClientAddons steamID64 true ≠ []) :
    m.CreditsInTime (m.checkClientAddons now steamID64) now steamID64 ↔
      ¬ m.PreCredits steamID64 := by
  have hdownloaded := downloadedAddons_checkClientAddons now hdedicated hfull
  constructor
  · intro hcredits hpre
    rw [credited_of_preCredits now hpending hpre] at hdownloaded
    rcases lt_or_ge m.conVars.mmExtraAddonsTimeout
      (now - (m.clientAddons steamID64).lastActiveTime) with hlate | htimely
    · have hsame := (hcredits.late hlate).1
      simp [hdownloaded] at hsame
    · have hgain := hcredits.timely htimely
      simp [hdownloaded, not_lt.2 htimely] at hgain
  · intro hpre
    rw [credited_of_not_preCredits now hpending hpre] at hdownloaded
    constructor
    · intro hlate
      rw [hdownloaded, if_pos hlate, checkClientAddons_of_ne_nil hdedicated hfull]
      simp
    · intro htimely
      rw [hdownloaded, if_neg (not_lt.2 htimely)]
      split_ifs
      · exact .inr rfl
      · exact .inl (List.append_nil _)

theorem credits_in_time_iff_timely_client :
    let m : MultiAddonManager :=
      { mountedAddons := [ascii "1111111111"],
        clientAddons := fun _ => { currentPendingAddon := ascii "1111111111" } }
    m.CreditsInTime (m.checkClientAddons 5 76561198000000001) 5 76561198000000001 ↔
      ¬ m.PreCredits 76561198000000001 :=
  credits_in_time_iff _ 5 76561198000000001 rfl (by decide +kernel) (by decide +kernel)

/-- The pending addon 2222222222 is on no list any more. An opted-out client
connects 100 seconds after it was offered, and the addon is credited. -/
theorem late_reconnect_credited :
    let m : MultiAddonManager :=
      { mountedAddons := [ascii "1111111111"], rssAssetOptOutClients := {76561198000000001},
        clientAddons := fun _ => { downloadedAddons := [ascii "1111111111"],
                                   currentPendingAddon := ascii "2222222222" } }
    m.getClientAddons 76561198000000001 true ≠ [] ∧ ¬ m.OnlySkippedLeft 76561198000000001 ∧
      ¬ m.CreditsInTime (m.checkClientAddons 100 76561198000000001) 100 76561198000000001 := by
  intro m
  refine ⟨by decide +kernel, by decide +kernel, fun hcredits => ?_⟩
  exact absurd (hcredits.late (by decide +kernel)).1 (by decide +kernel)

end MultiAddonManager
end MultiAddonRss
