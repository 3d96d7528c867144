import MultiAddonRss.Foundations.Runs
import MultiAddonRss.Manager.Connections
import MultiAddonRss.Manager.HostState
import MultiAddonRss.Manager.Preferences

/-!
# The plugin as a machine

The events are the hooks, the calls of the interface, the ConVar changes and the
completions from Steam, in any order. Each comes with the answers that the host
gives while it is handled.
-/

namespace MultiAddonRss

open Foundations

inductive Event
  -- hooks
  | replyConnection (steamID64 : UInt64)
  | clientConnect (steamID64 : UInt64)
  | canHLTVClientConnect (steamID64 : UInt64)
  | clientDisconnect (steamID64 : UInt64)
  | clientActive (steamID64 : UInt64)
  | sendNetMessage (steamID64 : UInt64) (pData : NetMessage)
  | gameFrame
  | startupServer
  | gameServerSteamAPIActivated
  | setPendingHostStateRequest (request : HostStateRequest)
  -- server addons
  | downloadAddon (pszAddon : CString) (bImportant bForce : Bool)
  | onAddonDownloaded (publishedFileId : UInt64)
  | mountAddon (pszAddon : CString)
  | unmountAddon (pszAddon : CString)
  | addAddon (pszAddon : CString) (bRefresh : Bool)
  | removeAddon (pszAddon : CString) (bRefresh : Bool)
  | clearAddons
  | refreshAddons (bReloadMap : Bool)
  | setExtraAddons (newVal : CString)
  -- client addons
  | addClientAddon (pszAddon : CString) (steamID64 : UInt64) (bRefresh : Bool)
  | removeClientAddon (pszAddon : CString) (steamID64 : UInt64)
  | clearClientAddons (steamID64 : UInt64)
  | setClientExtraAddons (newVal : CString)
  -- preferences and the remaining ConVars
  | setClientRssAssetsEnabled (o : SaveOutcome) (steamID64 : UInt64) (bEnabled : Bool)
  | setConVars (conVars : ConVars)

structure Call where
  host : Host
  event : Event

namespace MultiAddonManager

/-- The two list ConVars have callbacks of their own. -/
def changeConVars (m : MultiAddonManager) (conVars : ConVars) : MultiAddonManager :=
  { m with conVars := { conVars with mmExtraAddons := m.conVars.mmExtraAddons,
                                     mmClientExtraAddons := m.conVars.mmClientExtraAddons } }

def step (m : MultiAddonManager) : Call → MultiAddonManager × List Output
  | ⟨h, .replyConnection steamID64⟩ => m.hookReplyConnection h.now steamID64
  | ⟨h, .clientConnect steamID64⟩ => (m.hookClientConnect h.now steamID64, [])
  | ⟨h, .canHLTVClientConnect steamID64⟩ => (m.hookCanHLTVClientConnect h.now steamID64, [])
  | ⟨h, .clientDisconnect steamID64⟩ => (m.hookClientDisconnect h.now steamID64, [])
  | ⟨_, .clientActive steamID64⟩ => (m.hookClientActive steamID64, [])
  | ⟨h, .sendNetMessage steamID64 pData⟩ =>
    let (m, pData) := m.hookSendNetMessage h.now steamID64 pData
    (m, [.netMessage steamID64 pData])
  | ⟨h, .gameFrame⟩ => hookGameFrame h.clients m
  | ⟨h, .startupServer⟩ => m.hookStartupServer h
  | ⟨h, .gameServerSteamAPIActivated⟩ => m.hookGameServerSteamAPIActivated h
  | ⟨h, .setPendingHostStateRequest request⟩ =>
    ((m.hookSetPendingHostStateRequest h request).1, [])
  | ⟨h, .downloadAddon pszAddon bImportant bForce⟩ =>
    (m.downloadAddon h pszAddon bImportant bForce).2
  | ⟨h, .onAddonDownloaded publishedFileId⟩ => m.onAddonDownloaded h publishedFileId
  | ⟨h, .mountAddon pszAddon⟩ => (m.mountAddon h pszAddon).2
  | ⟨h, .unmountAddon pszAddon⟩ => ((m.unmountAddon h pszAddon).2, [])
  | ⟨h, .addAddon pszAddon bRefresh⟩ => (m.addAddon h pszAddon bRefresh).2
  | ⟨h, .removeAddon pszAddon bRefresh⟩ => (m.removeAddon h pszAddon bRefresh).2
  | ⟨h, .clearAddons⟩ => (m.clearAddons h, [])
  | ⟨h, .refreshAddons bReloadMap⟩ => m.refreshAddons h bReloadMap
  | ⟨h, .setExtraAddons newVal⟩ => m.setExtraAddons h newVal
  | ⟨h, .addClientAddon pszAddon steamID64 bRefresh⟩ =>
    m.addClientAddon h pszAddon steamID64 bRefresh
  | ⟨_, .removeClientAddon pszAddon steamID64⟩ => (m.removeClientAddon pszAddon steamID64, [])
  | ⟨_, .clearClientAddons steamID64⟩ => (m.clearClientAddons steamID64, [])
  | ⟨_, .setClientExtraAddons newVal⟩ => (m.setClientExtraAddons newVal, [])
  | ⟨_, .setClientRssAssetsEnabled o steamID64 bEnabled⟩ =>
    ((m.setClientRssAssetsEnabled o steamID64 bEnabled).2, [])
  | ⟨_, .setConVars conVars⟩ => (m.changeConVars conVars, [])

end MultiAddonManager
end MultiAddonRss
