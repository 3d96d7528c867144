import Mathlib.Data.Finset.Erase
import MultiAddonRss.Manager.ClientLists

/-!
# Hooks of the connection flow

`Hook_ReplyConnection` names the first addon to a client, `CheckClientAddons`
credits the pending addon when the client comes back, and `Hook_SendNetMessage`
rewrites a `SignonState` into an offer of the next addon until none is left.
-/

namespace MultiAddonRss
namespace MultiAddonManager

variable (m : MultiAddonManager)

/-! ## ReplyConnection -/

def cacheExpired (now : ℚ) (clientInfo : ClientAddonInfo) : Bool :=
  m.conVars.mmCacheClientsWithAddons && m.conVars.mmCacheClientsDuration ≠ 0 &&
    now - clientInfo.lastActiveTime > m.conVars.mmCacheClientsDuration

def connectionTimedOut (now : ℚ) (clientInfo : ClientAddonInfo) : Bool :=
  clientInfo.connectedState = .connecting && m.conVars.mmAddonConnectionTimeout > 0 &&
    now - clientInfo.connectionStartTime > m.conVars.mmAddonConnectionTimeout

/-- The addons named to a client: the downloaded ones and the pending one. An
opted-out client also gets the assets it may have on disk, in full list order. -/
def repliedAddons (steamID64 : UInt64) (clientInfo : ClientAddonInfo) : List CString :=
  let clientAddons := (m.getClientAddons steamID64 false).filter fun addon =>
    addon ∈ clientInfo.downloadedAddons || addon = clientInfo.currentPendingAddon
  if m.isClientRssAssetsEnabled steamID64 then clientAddons
  else
    (m.getClientAddons steamID64 true).filter fun addon =>
      isRssAssetAddon addon || addon ∈ clientAddons

def hookReplyConnection (now : ℚ) (steamID64 : UInt64) : MultiAddonManager × List Output :=
  let clientInfo := m.clientAddons steamID64
  let clientInfo :=
    if m.cacheExpired now clientInfo then
      { clientInfo with currentPendingAddon := [], downloadedAddons := [] }
    else clientInfo
  let clientInfo := { clientInfo with lastActiveTime := now }
  match m.getClientAddons steamID64 false with
  | [] =>
    let m := m.setClient steamID64 { clientInfo with currentPendingAddon := [] }
    if m.isClientRssAssetsEnabled steamID64 then
      (m, [.plainReply steamID64 m.serverAddons])
    else if m.getClientAddons steamID64 true = [] then
      (m, [.plainReply steamID64 m.serverAddons])
    else
      (m, [.replyConnection steamID64 (vectorToString (m.getClientAddons steamID64 true))])
  | firstAddon :: _ =>
    if m.connectionTimedOut now clientInfo then
      ({ m.setClient steamID64 clientInfo with
          timedOutClients := insert steamID64 m.timedOutClients }, [])
    else
      let clientInfo :=
        if clientInfo.connectedState ≠ .connecting then
          { clientInfo with connectionStartTime := now, connectedState := .connecting }
        else clientInfo
      let clientInfo :=
        if firstAddon ∉ clientInfo.downloadedAddons then
          { clientInfo with currentPendingAddon := firstAddon }
        else clientInfo
      (m.setClient steamID64 clientInfo,
        [.replyConnection steamID64 (vectorToString (m.repliedAddons steamID64 clientInfo))])

/-! ## ClientConnect -/

/-- `skippedRssAssets`: the assets of the full list that are neither pending nor
the workshop map. -/
def skippedRssAssets (steamID64 : UInt64) (pending : CString) : List CString :=
  (m.getClientAddons steamID64 true).filter fun addon =>
    addon ≠ pending && (m.currentWorkshopMap.isEmpty || addon ≠ m.currentWorkshopMap) &&
      isRssAssetAddon addon

/-- `fullAddons` after its loop. The skipped assets stay in the list. -/
def fullAddonsLeft (steamID64 : UInt64) (pending : CString) : List CString :=
  (m.getClientAddons steamID64 true).filter fun addon => addon ≠ pending

def checkClientAddons (now : ℚ) (steamID64 : UInt64) : MultiAddonManager :=
  let clientInfo := { m.clientAddons steamID64 with connectedState := .joined }
  let pending := clientInfo.currentPendingAddon
  if m.getClientAddons steamID64 true = [] || !m.dedicatedServer then
    m.setClient steamID64 clientInfo
  else if pending.isEmpty then
    m.setClient steamID64 { clientInfo with lastActiveTime := now }
  else
    let bEnabled := m.isClientRssAssetsEnabled steamID64
    let bNothingNeeded := !bEnabled && m.remainingAddons steamID64 = []
    let downloadedAddons :=
      if bNothingNeeded && !isRssAssetAddon pending &&
          pending ∉ clientInfo.downloadedAddons then
        clientInfo.downloadedAddons ++ [pending]
      else clientInfo.downloadedAddons
    let skippedRssAssets := m.skippedRssAssets steamID64 pending
    if bNothingNeeded && skippedRssAssets ≠ [] && m.fullAddonsLeft steamID64 pending = [] then
      m.setClient steamID64
        { clientInfo with downloadedAddons := downloadedAddons ++ skippedRssAssets,
                          currentPendingAddon := [], lastActiveTime := now }
    else
      let downloadedAddons :=
        if now - clientInfo.lastActiveTime > m.conVars.mmExtraAddonsTimeout then downloadedAddons
        else if bEnabled || !isRssAssetAddon pending then downloadedAddons ++ [pending]
        else downloadedAddons
      m.setClient steamID64
        { clientInfo with downloadedAddons := downloadedAddons,
                          currentPendingAddon := [], lastActiveTime := now }

def hookClientConnect (now : ℚ) (steamID64 : UInt64) : MultiAddonManager :=
  m.checkClientAddons now steamID64

def hookCanHLTVClientConnect (now : ℚ) (steamID64 : UInt64) : MultiAddonManager :=
  m.checkClientAddons now steamID64

/-! ## SendNetMessage -/

/-- `filteredAddonsList`: the addons of a server message that the client may be
sent to. -/
def changelevelAddons (steamID64 : UInt64) (addons : CString) : List CString :=
  (stringToVector addons).filter fun addon =>
    (!m.currentWorkshopMap.isEmpty && addon = m.currentWorkshopMap) ||
      (m.isClientRssAssetsEnabled steamID64 || !isRssAssetAddon addon)

/-- A map change of the server, cut down to its first addon. -/
def sendChangelevel (steamID64 : UInt64) (pMsg : SignonMessage) :
    MultiAddonManager × SignonMessage :=
  let addon := (m.changelevelAddons steamID64 pMsg.addons).headD []
  (m.setClient steamID64 { m.clientAddons steamID64 with currentPendingAddon := addon },
    { pMsg with addons := addon })

/-- Any other state: the next addon, or the message itself when all are there. -/
def sendStaged (steamID64 : UInt64) (pMsg : SignonMessage) : MultiAddonManager × SignonMessage :=
  let clientInfo := m.clientAddons steamID64
  match m.remainingAddons steamID64 with
  | [] =>
    let downloadedAddons :=
      if !clientInfo.currentPendingAddon.isEmpty && m.isClientRssAssetsEnabled steamID64 then
        clientInfo.downloadedAddons ++ [clientInfo.currentPendingAddon]
      else clientInfo.downloadedAddons
    (m.setClient steamID64
      { clientInfo with downloadedAddons := downloadedAddons, currentPendingAddon := [] }, pMsg)
  | addon :: _ =>
    (m.setClient steamID64 { clientInfo with currentPendingAddon := addon }, ⟨.changelevel, addon⟩)

/-- The new state and the message handed to the original function. -/
def hookSendNetMessage (now : ℚ) (steamID64 : UInt64) (pData : NetMessage) :
    MultiAddonManager × NetMessage :=
  let m := m.setClient steamID64 { m.clientAddons steamID64 with lastActiveTime := now }
  match pData with
  | .other => (m, .other)
  | .signonState pMsg =>
    if !m.dedicatedServer then (m, .signonState pMsg)
    else
      let (m, pMsg) :=
        if pMsg.signonState = .changelevel then m.sendChangelevel steamID64 pMsg
        else m.sendStaged steamID64 pMsg
      (m, .signonState pMsg)

/-! ## The other hooks -/

def hookClientDisconnect (now : ℚ) (steamID64 : UInt64) : MultiAddonManager :=
  m.setClient steamID64
    { m.clientAddons steamID64 with lastActiveTime := now, connectedState := .none }

def hookClientActive (steamID64 : UInt64) : MultiAddonManager :=
  if m.conVars.mmCacheClientsWithAddons then m
  else m.setClient steamID64 { m.clientAddons steamID64 with downloadedAddons := [] }

/-- Kicks the connected clients whose download timed out. -/
def hookGameFrame : List ServerSideClient → MultiAddonManager → MultiAddonManager × List Output
  | [], m => (m, [])
  | pClient :: clients, m =>
    let steamID64 := pClient.steamID64
    if steamID64 ∈ m.timedOutClients then
      let clientInfo := { m.clientAddons steamID64 with connectedState := .none }
      let m := { m.setClient steamID64 clientInfo with
                  timedOutClients := m.timedOutClients.erase steamID64 }
      let (m, out) := hookGameFrame clients m
      (m, .disconnect steamID64 :: out)
    else
      hookGameFrame clients m

/-! ## Client lists -/

/-- The refresh loop of `AddClientAddon`, which a `break` ends. The pending
addon is stored under the argument `steamID64`, also for the global list. -/
def refreshClients (pszAddon : CString) (steamID64 : UInt64) :
    List ServerSideClient → MultiAddonManager → MultiAddonManager × List Output
  | [], m => (m, [])
  | pClient :: clients, m =>
    if steamID64 = 0 || pClient.steamID64 = steamID64 then
      if pClient.signonState = .changelevel then (m, [])
      else if !(m.clientAddons steamID64).currentPendingAddon.isEmpty then (m, [])
      else
        match m.remainingAddons steamID64 with
        | [] => (m, [])
        | addon :: _ =>
          let m := m.setClient steamID64
            { m.clientAddons steamID64 with currentPendingAddon := addon }
          let pMsg := .netMessage pClient.steamID64 (.signonState ⟨.changelevel, pszAddon⟩)
          if steamID64 ≠ 0 then (m, [pMsg])
          else
            let (m, out) := refreshClients pszAddon steamID64 clients m
            (m, pMsg :: out)
    else
      refreshClients pszAddon steamID64 clients m

def setGlobalClientAddons (globalClientAddons : List CString) : MultiAddonManager :=
  { m with globalClientAddons := globalClientAddons,
           conVars := { m.conVars with
             mmClientExtraAddons := vectorToString globalClientAddons } }

def setAddonsToLoad (steamID64 : UInt64) (addonsToLoad : List CString) : MultiAddonManager :=
  m.setClient steamID64 { m.clientAddons steamID64 with addonsToLoad := addonsToLoad }

/-- The list that `AddClientAddon` and its siblings change. -/
def clientList (steamID64 : UInt64) : List CString :=
  if steamID64 = 0 then m.globalClientAddons else (m.clientAddons steamID64).addonsToLoad

def setClientList (steamID64 : UInt64) (addons : List CString) : MultiAddonManager :=
  if steamID64 = 0 then m.setGlobalClientAddons addons else m.setAddonsToLoad steamID64 addons

def addClientAddon (h : Host) (pszAddon : CString) (steamID64 : UInt64) (bRefresh : Bool) :
    MultiAddonManager × List Output :=
  if pszAddon ∈ m.clientList steamID64 then (m, [])
  else
    let m := m.setClientList steamID64 (m.clientList steamID64 ++ [pszAddon])
    -- without globals there is no message to send
    if bRefresh && m.globalsReady then refreshClients pszAddon steamID64 h.clients m else (m, [])

def removeClientAddon (pszAddon : CString) (steamID64 : UInt64) : MultiAddonManager :=
  m.setClientList steamID64 ((m.clientList steamID64).erase pszAddon)

def clearClientAddons (steamID64 : UInt64) : MultiAddonManager :=
  m.setClientList steamID64 []

/-- The change callback of `mm_client_extra_addons`. -/
def setClientExtraAddons (newVal : CString) : MultiAddonManager :=
  { m with globalClientAddons := stringToVector newVal,
           conVars := { m.conVars with mmClientExtraAddons := newVal } }

end MultiAddonManager
end MultiAddonRss
