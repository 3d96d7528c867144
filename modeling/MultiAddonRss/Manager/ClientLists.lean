import MultiAddonRss.Foundations.FirstOccurrences
import MultiAddonRss.Manager.State

/-!
# Addon lists of a client

`GetClientAddons` concatenates the workshop map, the mounted addons, the global
list and the client's own list without duplicates. For an opted-out client it
leaves out the allowlisted assets other than the workshop map.
-/

namespace MultiAddonRss

def rssAssetAddonIds : List CString :=
  [ascii "3782730321", ascii "3782731016", ascii "3782731693", ascii "3782732358",
    ascii "3777226686", ascii "3782764572", ascii "3782764127", ascii "3782764891",
    ascii "3782765512", ascii "3781515645"]

def isRssAssetAddon (pszAddon : CString) : Bool :=
  if pszAddon.isEmpty then false else pszAddon ∈ rssAssetAddonIds

namespace MultiAddonManager

variable (m : MultiAddonManager)

def isClientRssAssetsEnabled (steamID64 : UInt64) : Bool :=
  steamID64 = 0 || steamID64 ∉ m.rssAssetOptOutClients

/-- The local closure of `GetClientAddons`. -/
def pushClientAddon (workshopMap : CString) (bSkipRssAssets : Bool) (addons : List CString)
    (addon : CString) : List CString :=
  if bSkipRssAssets && !(!workshopMap.isEmpty && addon = workshopMap) && isRssAssetAddon addon then
    addons
  else if addon ∈ addons then
    addons
  else
    addons ++ [addon]

def getClientAddons (steamID64 : UInt64) (bIncludeOptedOutRssAssets : Bool) : List CString :=
  let workshopMap := m.currentWorkshopMap
  let bSkipRssAssets :=
    steamID64 ≠ 0 && !bIncludeOptedOutRssAssets && !m.isClientRssAssetsEnabled steamID64
  let push := pushClientAddon workshopMap bSkipRssAssets
  let addons := if !workshopMap.isEmpty then [workshopMap] else []
  let addons := m.mountedAddons.foldl push addons
  let addons := m.globalClientAddons.foldl push addons
  if steamID64 ≠ 0 then (m.clientAddons steamID64).addonsToLoad.foldl push addons else addons

/-- The addons a client still has to download. -/
def remainingAddons (steamID64 : UInt64) : List CString :=
  (m.getClientAddons steamID64 false).diff (m.clientAddons steamID64).downloadedAddons

/-! ## Contents of the lists -/

/-- All addons of a client in the order of the list, with repetitions. -/
def addonSources (steamID64 : UInt64) : List CString :=
  (if !m.currentWorkshopMap.isEmpty then [m.currentWorkshopMap] else []) ++
    (m.mountedAddons ++ (m.globalClientAddons ++
      if steamID64 ≠ 0 then (m.clientAddons steamID64).addonsToLoad else []))

/-- Whether an addon is staged for a client. -/
def isStaged (steamID64 : UInt64) (addon : CString) : Bool :=
  m.isClientRssAssetsEnabled steamID64 || !isRssAssetAddon addon ||
    (!m.currentWorkshopMap.isEmpty && addon = m.currentWorkshopMap)

theorem isRssAssetAddon_nil : isRssAssetAddon [] = false := rfl

@[simp] theorem isClientRssAssetsEnabled_zero : m.isClientRssAssetsEnabled 0 = true := by
  simp [isClientRssAssetsEnabled]

open Foundations in
/-- The full list has the first occurrences of all addons, and the list of a
client those that are staged. -/
theorem getClientAddons_eq_filter (steamID64 : UInt64) (bIncludeOptedOutRssAssets : Bool) :
    m.getClientAddons steamID64 bIncludeOptedOutRssAssets =
      (m.addonSources steamID64).eraseDups.filter fun addon =>
        bIncludeOptedOutRssAssets || m.isStaged steamID64 addon := by
  let keep := fun addon : CString => bIncludeOptedOutRssAssets || m.isStaged steamID64 addon
  have hpush : pushClientAddon m.currentWorkshopMap
      (steamID64 ≠ 0 && !bIncludeOptedOutRssAssets && !m.isClientRssAssetsEnabled steamID64) =
        appendNew keep := by
    funext addons addon
    have hskip : (steamID64 ≠ 0 && !bIncludeOptedOutRssAssets &&
        !m.isClientRssAssetsEnabled steamID64 &&
          !(!m.currentWorkshopMap.isEmpty && addon = m.currentWorkshopMap) &&
            isRssAssetAddon addon) = !keep addon := by
      by_cases hid : steamID64 = 0
      · simp [keep, isStaged, hid]
      · cases hen : m.isClientRssAssetsEnabled steamID64 <;>
          cases hrss : isRssAssetAddon addon <;> simp [keep, isStaged, hid, hen, hrss]
    simp only [pushClientAddon, appendNew, hskip]
  have hhead : (if !m.currentWorkshopMap.isEmpty then [m.currentWorkshopMap] else []) =
      (if !m.currentWorkshopMap.isEmpty then [m.currentWorkshopMap] else []).foldl
        (appendNew keep) [] := by
    split_ifs with hmap
    · have hkeep : keep m.currentWorkshopMap = true := by simp [keep, isStaged, hmap]
      simp [appendNew, hkeep]
    · rfl
  have hfold : m.getClientAddons steamID64 bIncludeOptedOutRssAssets =
      (m.addonSources steamID64).foldl (appendNew keep) [] := by
    simp only [getClientAddons, hpush]
    rw [hhead]
    simp only [addonSources, List.foldl_append]
    split_ifs <;> rfl
  rw [hfold, foldl_appendNew, filter_eraseDups]

variable {m} {steamID64 : UInt64} {addon : CString}

theorem mem_getClientAddons {bIncludeOptedOutRssAssets : Bool} :
    addon ∈ m.getClientAddons steamID64 bIncludeOptedOutRssAssets ↔
      addon ∈ m.addonSources steamID64 ∧
        (bIncludeOptedOutRssAssets = true ∨ m.isStaged steamID64 addon = true) := by
  simp [getClientAddons_eq_filter, List.mem_eraseDups]

theorem nodup_getClientAddons (bIncludeOptedOutRssAssets : Bool) :
    (m.getClientAddons steamID64 bIncludeOptedOutRssAssets).Nodup := by
  rw [getClientAddons_eq_filter]
  exact (Foundations.nodup_eraseDups _).filter _

theorem isStaged_of_mem_getClientAddons (h : addon ∈ m.getClientAddons steamID64 false) :
    m.isStaged steamID64 addon = true := by
  simpa using (mem_getClientAddons.1 h).2

theorem remainingAddons_eq_filter (m : MultiAddonManager) (steamID64 : UInt64) :
    m.remainingAddons steamID64 = (m.getClientAddons steamID64 false).filter fun addon =>
      addon ∉ (m.clientAddons steamID64).downloadedAddons :=
  List.Nodup.sdiff_eq_filter (nodup_getClientAddons false)

theorem getClientAddons_of_enabled (henabled : m.isClientRssAssetsEnabled steamID64 = true) :
    m.getClientAddons steamID64 false = m.getClientAddons steamID64 true := by
  simp [getClientAddons_eq_filter, isStaged, henabled]

theorem getClientAddons_true_eq_nil :
    m.getClientAddons steamID64 true = [] ↔ m.addonSources steamID64 = [] := by
  rw [getClientAddons_eq_filter, List.filter_eq_nil_iff, List.eq_nil_iff_forall_not_mem]
  simp [List.mem_eraseDups]

theorem head?_getClientAddons (hmap : m.currentWorkshopMap ≠ [])
    (bIncludeOptedOutRssAssets : Bool) :
    (m.getClientAddons steamID64 bIncludeOptedOutRssAssets).head? =
      some m.currentWorkshopMap := by
  have hstaged : m.isStaged steamID64 m.currentWorkshopMap = true := by simp [isStaged, hmap]
  rw [getClientAddons_eq_filter, addonSources]
  simp [hmap, List.eraseDups_cons, hstaged]

/-- Leaving out the skipped assets while the list is built is the same as leaving
them out of the finished list. -/
theorem getClientAddons_filter_dedup (m : MultiAddonManager) (steamID64 : UInt64) :
    let full := ((if m.currentWorkshopMap = [] then [] else [m.currentWorkshopMap]) ++
      m.mountedAddons ++ m.globalClientAddons ++
        if steamID64 = 0 then [] else (m.clientAddons steamID64).addonsToLoad).eraseDups
    m.getClientAddons steamID64 true = full ∧
      m.getClientAddons steamID64 false =
        (if steamID64 = 0 ∨ m.isClientRssAssetsEnabled steamID64 = true then full
        else full.filter fun addon =>
          !(isRssAssetAddon addon && addon ≠ m.currentWorkshopMap)) ∧
      ∀ bIncludeOptedOutRssAssets,
        (m.getClientAddons steamID64 bIncludeOptedOutRssAssets).Nodup ∧
        (m.currentWorkshopMap ≠ [] →
          (m.getClientAddons steamID64 bIncludeOptedOutRssAssets).head? =
            some m.currentWorkshopMap) := by
  intro full
  have hsources : (m.addonSources steamID64).eraseDups = full := by
    simp only [full, addonSources]
    congr 1
    by_cases hmap : m.currentWorkshopMap = [] <;> by_cases hid : steamID64 = 0 <;>
      simp [hmap, hid]
  refine ⟨?_, ?_, fun b => ⟨nodup_getClientAddons b, fun hmap => head?_getClientAddons hmap b⟩⟩
  · simp [getClientAddons_eq_filter, hsources]
  · rw [getClientAddons_eq_filter, hsources]
    split_ifs with henabled
    · have hstaged (addon : CString) : m.isStaged steamID64 addon = true := by
        rcases henabled with rfl | henabled
        · simp [isStaged]
        · simp [isStaged, henabled]
      simp [hstaged]
    · obtain ⟨-, hoff⟩ := not_or.1 henabled
      apply List.filter_congr
      intro addon _
      -- an allowlisted addon is not the empty string
      by_cases hmap : m.currentWorkshopMap = []
      · cases addon with
        | nil => simp [isStaged, hmap, isRssAssetAddon_nil]
        | cons c cs => simp [isStaged, hmap, hoff]
      · by_cases heq : addon = m.currentWorkshopMap <;> simp [isStaged, hmap, hoff, heq]

/-! ## Changes of a record -/

@[simp] theorem isClientRssAssetsEnabled_setClient (info : ClientAddonInfo) (id : UInt64) :
    (m.setClient steamID64 info).isClientRssAssetsEnabled id = m.isClientRssAssetsEnabled id := rfl

@[simp] theorem isStaged_setClient (info : ClientAddonInfo) (id : UInt64) :
    (m.setClient steamID64 info).isStaged id addon = m.isStaged id addon := rfl

@[simp] theorem getClientAddons_setClient {info : ClientAddonInfo} (id : UInt64)
    (bIncludeOptedOutRssAssets : Bool)
    (h : info.addonsToLoad = (m.clientAddons steamID64).addonsToLoad) :
    (m.setClient steamID64 info).getClientAddons id bIncludeOptedOutRssAssets =
      m.getClientAddons id bIncludeOptedOutRssAssets := by
  have hload : ((m.setClient steamID64 info).clientAddons id).addonsToLoad =
      (m.clientAddons id).addonsToLoad := by
    by_cases hid : id = steamID64
    · subst hid
      simpa using h
    · rw [clientAddons_setClient_of_ne _ _ _ hid]
  simp only [getClientAddons, hload]
  rfl

theorem remainingAddons_setClient {info : ClientAddonInfo}
    (hload : info.addonsToLoad = (m.clientAddons steamID64).addonsToLoad)
    (hdownloaded : info.downloadedAddons = (m.clientAddons steamID64).downloadedAddons) :
    (m.setClient steamID64 info).remainingAddons steamID64 = m.remainingAddons steamID64 := by
  simp only [remainingAddons, getClientAddons_setClient _ _ hload, clientAddons_setClient_self,
    hdownloaded]

end MultiAddonManager
end MultiAddonRss
