import MultiAddonRss.Manager.Mounting

/-!
# Host state requests

`Hook_SetPendingHostStateRequest` keeps track of the current workshop map and
rewrites the addon string of the request. The engine takes the rewritten string
as the addon string of the server.
-/

namespace MultiAddonRss

structure KeyValues where
  name : CString
  customgamemode : Option CString := none
deriving DecidableEq

structure HostStateRequest where
  keyValues : Option KeyValues := none
  levelName : CString := []
  addons : CString := []
deriving DecidableEq

namespace MultiAddonManager

variable (h : Host) (m : MultiAddonManager) (request : HostStateRequest)

/-- The workshop map after the three tests at the beginning of the hook. -/
def requestedWorkshopMap : CString :=
  let workshopMap :=
    match request.keyValues with
    | none =>
      if !request.addons.isEmpty then request.addons
      else if h.levelFileExists request.levelName then []
      else m.currentWorkshopMap
    | some kv =>
      if !stricmpEq kv.name (ascii "ChangeLevel") then
        if stricmpEq kv.name (ascii "map_workshop") then kv.customgamemode.getD [] else []
      else m.currentWorkshopMap
  if !request.addons.isEmpty && h.isOfficialAddon request.addons then request.addons
  else workshopMap

/-- The addon string left in the request. -/
def rebuiltAddons : CString :=
  if m.extraAddons.length = 0 then
    request.addons
  else if m.currentWorkshopMap.isEmpty then
    vectorToString m.extraAddons
  else
    vectorToString (m.currentWorkshopMap :: m.extraAddons.erase m.currentWorkshopMap)

def hookSetPendingHostStateRequest : MultiAddonManager × HostStateRequest :=
  let m := { m with currentWorkshopMap := m.requestedWorkshopMap h request }
  let addons := m.rebuiltAddons request
  ({ m with serverAddons := addons }, { request with addons := addons })

/-- The empty search paths removed here are not addon paths. -/
def hookStartupServer : MultiAddonManager × List Output :=
  { m with globalsReady := true, timedOutClients := ∅ }.refreshAddons h false

def hookGameServerSteamAPIActivated : MultiAddonManager × List Output :=
  if !m.dedicatedServer then (m, []) else m.refreshAddons h true

/-- `none` leaves the answer to the engine. -/
def hookScriptGetAddon : Option UInt64 :=
  if m.extraAddons.length = 0 then none
  else
    let iAddon := h.stringToUint64 m.currentWorkshopMap
    if iAddon = 0 then none else some iAddon

end MultiAddonManager
end MultiAddonRss
