import MultiAddonRss.Foundations.StepCounts
import MultiAddonRss.Manager.Downloads
import MultiAddonRss.Manager.HostState

/-!
# Map reloads

A map reload mounts the extra addons again and queues the downloads of those
that are not installed; the last important download to complete reloads the map.
A failed completion counts for that like a successful one.
-/

namespace MultiAddonRss

open Foundations

structure DownloadItemResult where
  eResult : UInt32
  publishedFileId : UInt64

def eResultOK : UInt32 := 1

inductive ReloadEvent
  | refreshAddons (bReloadMap : Bool)
  | mountAddon (pszAddon : CString)
  | downloadAddon (pszAddon : CString) (bImportant bForce : Bool)
  | onAddonDownloaded (pResult : DownloadItemResult)
  | reloadMap
  | startupServer

structure ReloadCall where
  host : Host
  event : ReloadEvent

/-- A server command was issued. The only one is the map reload. -/
def reloadsMap (out : List Output) : Bool :=
  out.any fun
    | .serverCommand _ => true
    | _ => false

namespace MultiAddonManager

/-- The result code decides what is printed, and nothing else. -/
def reloadStep (m : MultiAddonManager) : ReloadCall → MultiAddonManager × List Output
  | ⟨h, .refreshAddons bReloadMap⟩ => m.refreshAddons h bReloadMap
  | ⟨h, .mountAddon pszAddon⟩ => (m.mountAddon h pszAddon).2
  | ⟨h, .downloadAddon pszAddon bImportant bForce⟩ =>
    (m.downloadAddon h pszAddon bImportant bForce).2
  | ⟨h, .onAddonDownloaded pResult⟩ => m.onAddonDownloaded h pResult.publishedFileId
  | ⟨h, .reloadMap⟩ => (m, m.reloadMap h)
  | ⟨h, .startupServer⟩ => m.hookStartupServer h

/-- A completion of an important download, with the result code OK. -/
def succeeds (m : MultiAddonManager) : ReloadCall → Bool
  | ⟨_, .onAddonDownloaded pResult⟩ =>
    pResult.eResult = eResultOK && pResult.publishedFileId ∈ m.downloadQueue &&
      pResult.publishedFileId ∈ m.importantDownloads
  | _ => false

/-- A failed completion of the only important download left. -/
def failsLast (m : MultiAddonManager) : ReloadCall → Bool
  | ⟨_, .onAddonDownloaded pResult⟩ =>
    pResult.eResult ≠ eResultOK && pResult.publishedFileId ∈ m.downloadQueue &&
      m.importantDownloads = [pResult.publishedFileId]
  | _ => false

def completionReloads (m : MultiAddonManager) (pre : List ReloadCall) (call : ReloadCall) :
    Bool :=
  match call.event with
  | .onAddonDownloaded _ => reloadsMap (reloadStep (run reloadStep m pre) call).2
  | _ => false

/-- Since the last reload, an important download has completed OK. -/
def SucceededSinceReload (m : MultiAddonManager) (pre : List ReloadCall) : Prop :=
  Since (fun pre call => (run reloadStep m pre).succeeds call = true ∧
      reloadsMap (reloadStep (run reloadStep m pre) call).2 = false)
    (fun pre call => reloadsMap (reloadStep (run reloadStep m pre) call).2 = false) pre

variable {m : MultiAddonManager}

theorem reloadsMap_reloadMap (h : Host) : reloadsMap (m.reloadMap h) = true := by
  unfold reloadMap
  split_ifs <;> rfl

theorem reloadsMap_downloadAddon (h : Host) (pszAddon : CString) (bImportant bForce : Bool) :
    reloadsMap (m.downloadAddon h pszAddon bImportant bForce).2.2 = false := by
  rcases m.downloadAddon_cases h pszAddon bImportant bForce with
    ⟨result, hcall⟩ | ⟨addon, importantDownloads, -, -, -, hcall⟩
  · rw [hcall]
    rfl
  · rw [hcall]
    rfl

theorem reloadsMap_onAddonDownloaded (h : Host) (publishedFileId : UInt64) :
    reloadsMap (m.onAddonDownloaded h publishedFileId).2 = true ↔
      publishedFileId ∈ m.downloadQueue ∧ m.importantDownloads = [publishedFileId] := by
  have hsingle : publishedFileId ∈ m.importantDownloads ∧
      (m.importantDownloads.erase publishedFileId).length = 0 ↔
        m.importantDownloads = [publishedFileId] := by
    constructor
    · rintro ⟨hmem, hlength⟩
      rw [List.length_erase_of_mem hmem] at hlength
      have hone : m.importantDownloads.length = 1 := by
        have := List.length_pos_of_mem hmem
        omega
      obtain ⟨id, hid⟩ := List.length_eq_one_iff.1 hone
      rw [hid, List.mem_singleton] at hmem
      rw [hid, hmem]
    · intro himportant
      simp [himportant]
  simp only [onAddonDownloaded, ← hsingle]
  split_ifs with hqueued hlast
  · simpa [hqueued, reloadsMap_reloadMap] using hlast
  · simpa [hqueued, reloadsMap] using hlast
  · simp [hqueued, reloadsMap]

theorem completionReloads_iff {pre : List ReloadCall} {call : ReloadCall} :
    m.completionReloads pre call = true ∧ (run reloadStep m pre).succeeds call = false ↔
      (run reloadStep m pre).failsLast call = true := by
  obtain ⟨h, event⟩ := call
  cases event with
  | onAddonDownloaded pResult =>
    have hreload := reloadsMap_onAddonDownloaded (m := run reloadStep m pre) h
      pResult.publishedFileId
    simp only [completionReloads, reloadStep, succeeds, failsLast, hreload]
    constructor
    · rintro ⟨⟨hqueued, himportant⟩, hfailed⟩
      simpa [hqueued, himportant] using hfailed
    · intro hfails
      simp only [ne_eq, decide_not, Bool.and_eq_true, Bool.not_eq_true', decide_eq_true_eq,
        decide_eq_false_iff_not] at hfails
      obtain ⟨⟨hfailed, hqueued⟩, himportant⟩ := hfails
      simp [hqueued, himportant, hfailed]
  | _ => simp [completionReloads, failsLast]

/-- Every reload issued by a completion is earned by the success of an important
download since the reload before exactly when no failed completion of the last
important download comes without one. There are then no more such reloads than
successes. -/
theorem reloads_earned_iff (m : MultiAddonManager) (calls : List ReloadCall) :
    let Earned := EveryStep (fun pre call => m.completionReloads pre call = true →
      (run reloadStep m pre).succeeds call = true ∨ m.SucceededSinceReload pre) calls
    (Earned ↔ EveryStep (fun pre call =>
        (run reloadStep m pre).failsLast call = true → m.SucceededSinceReload pre) calls) ∧
      (Earned → countSteps m.completionReloads calls ≤
        countSteps (fun pre call => (run reloadStep m pre).succeeds call) calls) := by
  intro Earned
  constructor
  · apply everyStep_congr
    intro pre call
    rw [← completionReloads_iff]
    cases (run reloadStep m pre).succeeds call <;> simp
  · intro hearned
    apply countSteps_le_of_since _ _ (fun pre call =>
      reloadsMap (reloadStep (run reloadStep m pre) call).2) ?_ hearned
    rintro pre ⟨h, event⟩ hreload
    cases event with
    | onAddonDownloaded pResult => exact hreload
    | _ => simp [completionReloads] at hreload

/-- The addon 1111111111 cannot be downloaded. Every map start queues it again and
every failed completion reloads the map. -/
theorem failed_download_reloads_for_ever :
    let m : MultiAddonManager := { globalsReady := true, extraAddons := [ascii "1111111111"] }
    let h : Host := { mapname := ascii "de_dust2", stringToUint64 := fun _ => 1111111111 }
    let cycle : List ReloadCall :=
      [⟨h, .startupServer⟩, ⟨h, .onAddonDownloaded ⟨2, 1111111111⟩⟩]
    (¬ EveryStep (fun pre call => m.completionReloads pre call = true →
      (run reloadStep m pre).succeeds call = true ∨ m.SucceededSinceReload pre) cycle) ∧
    ∀ n, countSteps m.completionReloads (List.replicate n cycle).flatten = n := by
  intro m h cycle
  have hcycle : run reloadStep m cycle = m := by with_unfolding_all rfl
  have hreload : countSteps m.completionReloads cycle = 1 := by decide +kernel
  constructor
  · intro hearned
    have hlast := hearned [⟨h, .startupServer⟩] _ [] rfl (by decide +kernel)
    rcases hlast with hnow | hbefore
    · exact absurd hnow (by decide +kernel)
    · have hstart : succeeds m ⟨h, .startupServer⟩ = false := rfl
      simp [SucceededSinceReload, since_cons, hstart] at hbefore
  · intro n
    have hprogress : (fun pre => m.completionReloads (cycle ++ pre)) = m.completionReloads := by
      funext pre call
      have hrun : run reloadStep m (cycle ++ pre) = run reloadStep m pre := by
        rw [run_append, hcycle]
      simp only [completionReloads, hrun]
    induction n with
    | zero => rfl
    | succ n ih =>
      rw [List.replicate_succ, List.flatten_cons, countSteps_append, hreload, hprogress, ih]
      omega

end MultiAddonManager
end MultiAddonRss
