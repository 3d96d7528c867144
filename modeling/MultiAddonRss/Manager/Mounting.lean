import MultiAddonRss.Manager.State

/-!
# Downloads, mounts and the server's addon list

Downloads are queued with Steam one by one; an important download reloads the
map when it is the last one to finish. `RefreshAddons` unmounts everything and
mounts the configured list again. The vectors are lists whose tail is the end.
-/

namespace MultiAddonRss

def itemStateLegacyItem : UInt32 := 2
def itemStateInstalled : UInt32 := 4

namespace MultiAddonManager

variable (h : Host) (m : MultiAddonManager)

/-- `bImportant` adds the download to the list that reloads the map, `bForce`
starts it even if the item is installed. -/
def downloadAddon (pszAddon : CString) (bImportant bForce : Bool) :
    Bool × MultiAddonManager × List Output :=
  if !h.hasSteamUGC then
    (false, m, [])
  else
    let addon := h.stringToUint64 pszAddon
    if addon = 0 then
      (false, m, [])
    else if addon ∈ m.downloadQueue then
      (false, m, [])
    else
      let nItemState := h.itemState addon
      if !bForce && nItemState &&& itemStateInstalled ≠ 0 then
        (true, m, [])
      else if !h.downloadItem addon then
        (false, m, [])
      else
        let importantDownloads :=
          if bImportant && addon ∉ m.importantDownloads then m.importantDownloads ++ [addon]
          else m.importantDownloads
        (true, { m with importantDownloads := importantDownloads,
                        downloadQueue := m.downloadQueue ++ [addon] },
          [.downloadItem addon])

/-- Community maps are reloaded with `changelevel` although they are addons. The map name
comes from the globals, which are taken to be set. -/
def reloadMap : List Output :=
  if m.currentWorkshopMap.isEmpty || h.isOfficialAddon m.currentWorkshopMap then
    [.serverCommand (snprintf h.maxPath (ascii "changelevel " ++ h.mapname))]
  else
    [.serverCommand (snprintf h.maxPath (ascii "host_workshop_map " ++ m.currentWorkshopMap))]

/-- A completion callback from Steam. A failed result is reported and handled
like a successful one. -/
def onAddonDownloaded (publishedFileId : UInt64) : MultiAddonManager × List Output :=
  if publishedFileId ∉ m.downloadQueue then
    (m, [])
  else
    let bFound := publishedFileId ∈ m.importantDownloads
    let m := { m with downloadQueue := m.downloadQueue.tail,
                      importantDownloads := m.importantDownloads.erase publishedFileId }
    if bFound && m.importantDownloads.length = 0 then (m, m.reloadMap h) else (m, [])

/-- Mounts one addon, or queues its download when it is not installed. The
path passed to the file system never has the `_dir` suffix. -/
def mountAddon (pszAddon : CString) : Bool × MultiAddonManager × List Output :=
  if pszAddon.isEmpty then
    (false, m, [])
  else if pszAddon ∈ stringToVector m.currentWorkshopMap then
    (false, m, [])
  else
    let iAddonState := h.itemState (h.stringToUint64 pszAddon)
    if iAddonState &&& itemStateLegacyItem ≠ 0 then
      (false, m, [])
    else if iAddonState &&& itemStateInstalled = 0 then
      let (_, m, out) := m.downloadAddon h pszAddon true true
      (false, m, out)
    else
      let (_, m, out) :=
        if m.conVars.mmAddonMountDownload then m.downloadAddon h pszAddon false true
        else (true, m, [])
      let path : AddonPath := ⟨pszAddon, true⟩
      if !h.packageExists ⟨pszAddon, false⟩ && !h.packageExists path then
        (false, m, out)
      else if pszAddon ∈ m.mountedAddons then
        (false, m, out)
      else
        (true, { m with searchPaths := h.addSearchPath m.searchPaths path,
                        mountedAddons := m.mountedAddons ++ [pszAddon] }, out)

/-- `FindAndFastRemove`: the last element takes the place of the removed one. -/
def findAndFastRemove (vector : List CString) (src : CString) : List CString :=
  if src ∈ vector then
    (vector.set (vector.idxOf src) (vector.getLastD [])).dropLast
  else
    vector

/-- Asks for the removal of the path with the `_dir` suffix. -/
def unmountAddon (pszAddon : CString) : Bool × MultiAddonManager :=
  if pszAddon.isEmpty then
    (false, m)
  else
    match h.removeSearchPath m.searchPaths ⟨pszAddon, false⟩ with
    | none => (false, m)
    | some searchPaths =>
      (true, { m with searchPaths := searchPaths,
                      mountedAddons := findAndFastRemove m.mountedAddons pszAddon })

/-- The unmount loop runs over the indices below `count`, from the back. -/
def unmountAll : ℕ → MultiAddonManager → MultiAddonManager
  | 0, m => m
  | count + 1, m => unmountAll count (m.unmountAddon h (m.mountedAddons.getD count [])).2

/-- The mount loop, which continues after a failure. -/
def mountAll : List CString → MultiAddonManager → Bool × MultiAddonManager × List Output
  | [], m => (true, m, [])
  | addon :: addons, m =>
    let (bMounted, m, out) := m.mountAddon h addon
    let (bAllAddonsMounted, m, rest) := mountAll addons m
    (bMounted && bAllAddonsMounted, m, out ++ rest)

def refreshAddons (bReloadMap : Bool) : MultiAddonManager × List Output :=
  if !h.hasSteamUGC then
    (m, [])
  else
    let m := unmountAll h m.mountedAddons.length m
    let (bAllAddonsMounted, m, out) := mountAll h m.extraAddons m
    if bAllAddonsMounted && bReloadMap then (m, out ++ m.reloadMap h) else (m, out)

def clearAddons : MultiAddonManager :=
  let m := { m with extraAddons := [],
                    conVars := { m.conVars with mmExtraAddons := [] } }
  unmountAll h m.mountedAddons.length m

def addAddon (pszAddon : CString) (bRefresh : Bool) : Bool × MultiAddonManager × List Output :=
  if pszAddon ∈ m.extraAddons then
    (false, m, [])
  else
    let extraAddons := m.extraAddons ++ [pszAddon]
    let m := { m with extraAddons := extraAddons,
                      conVars := { m.conVars with mmExtraAddons := vectorToString extraAddons } }
    if bRefresh then (true, m.refreshAddons h false) else (true, m, [])

def removeAddon (pszAddon : CString) (bRefresh : Bool) :
    Bool × MultiAddonManager × List Output :=
  if pszAddon ∉ m.extraAddons then
    (false, m, [])
  else
    let extraAddons := m.extraAddons.erase pszAddon
    let m := { m with extraAddons := extraAddons,
                      conVars := { m.conVars with mmExtraAddons := vectorToString extraAddons } }
    if bRefresh then (true, m.refreshAddons h false) else (true, m, [])

/-- The change callback of `mm_extra_addons`. -/
def setExtraAddons (newVal : CString) : MultiAddonManager × List Output :=
  { m with extraAddons := stringToVector newVal,
           conVars := { m.conVars with mmExtraAddons := newVal } }.refreshAddons h false

def isAddonMounted (pszAddon : CString) (bCheckWorkshopMap : Bool) : Bool :=
  pszAddon ∈ m.mountedAddons || (bCheckWorkshopMap && m.currentWorkshopMap = pszAddon)

end MultiAddonManager
end MultiAddonRss
