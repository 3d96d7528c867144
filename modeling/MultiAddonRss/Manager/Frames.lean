import MultiAddonRss.Manager.MountEffects
import MultiAddonRss.Manager.PreferenceRuns
import MultiAddonRss.Manager.Refresh
import MultiAddonRss.Manager.System

/-!
# What each event leaves alone

Operations on the server's own addons do not touch what decides about clients,
and send clients nothing. Only two events send messages to clients.
-/

namespace MultiAddonRss

open Foundations

/-- The members that operations on the server's addons do not write. -/
structure ClientSide where
  dedicatedServer : Bool
  globalClientAddons : List CString
  currentWorkshopMap : CString
  rssAssetOptOutClients : Finset UInt64
  clientAddons : UInt64 → ClientAddonInfo
  serverAddons : CString
  mmExtraAddonsTimeout : ℚ

/-- Members that the hooks of clients and the operations on the lists and preferences
of clients do not write. -/
structure ServerPart where
  dedicatedServer : Bool
  currentWorkshopMap : CString
  serverAddons : CString
  mountedAddons : List CString
  searchPaths : List AddonPath

namespace MultiAddonManager

variable (h : Host) (m : MultiAddonManager)

def clientSide : ClientSide :=
  ⟨m.dedicatedServer, m.globalClientAddons, m.currentWorkshopMap, m.rssAssetOptOutClients,
    m.clientAddons, m.serverAddons, m.conVars.mmExtraAddonsTimeout⟩

/-- A result of an operation on the server's addons. -/
structure ServerSide (result : MultiAddonManager × List Output) : Prop where
  clientSide : result.1.clientSide = m.clientSide
  outputs : ∀ o ∈ result.2, o.isServerSide = true

variable {m}

theorem MountChange.clientSide {m' : MultiAddonManager} (hchange : m.MountChange m') :
    m'.clientSide = m.clientSide := by
  obtain ⟨_, _, _, _, rfl⟩ := hchange
  rfl

theorem MountEffect.serverSide {h : Host} {added : List CString}
    {result : MultiAddonManager × List Output} (hresult : m.MountEffect h added result) :
    m.ServerSide result :=
  ⟨hresult.change.clientSide, hresult.outputs⟩

theorem ServerSide.of_nil {m' : MultiAddonManager} (hside : m'.clientSide = m.clientSide) :
    m.ServerSide (m', []) :=
  ⟨hside, by simp⟩

/-! ## Operations on the server's addons -/

theorem ServerSide.refreshAddons {m' : MultiAddonManager} (hside : m'.clientSide = m.clientSide)
    (bReloadMap : Bool) : m.ServerSide (m'.refreshAddons h bReloadMap) := by
  have hrefresh := m'.mountEffect_refreshAddons h bReloadMap
  exact ⟨hrefresh.change.clientSide.trans hside, hrefresh.outputs⟩

variable (m)

theorem clientSide_clearAddons : (m.clearAddons h).clientSide = m.clientSide := by
  unfold clearAddons
  exact (mountEffect_unmountAll h _ _).change.clientSide.trans rfl

theorem serverSide_addAddon (pszAddon : CString) (bRefresh : Bool) :
    m.ServerSide (m.addAddon h pszAddon bRefresh).2 := by
  unfold addAddon
  split_ifs with hmem hrefresh
  · exact .of_nil rfl
  · exact .refreshAddons h (by rfl) false
  · exact .of_nil rfl

theorem serverSide_removeAddon (pszAddon : CString) (bRefresh : Bool) :
    m.ServerSide (m.removeAddon h pszAddon bRefresh).2 := by
  unfold removeAddon
  split_ifs with hmem hrefresh
  · exact .refreshAddons h (by rfl) false
  · exact .of_nil rfl
  · exact .of_nil rfl

theorem serverSide_setExtraAddons (newVal : CString) :
    m.ServerSide (m.setExtraAddons h newVal) := by
  unfold setExtraAddons
  exact .refreshAddons h (by rfl) false

theorem serverSide_hookStartupServer : m.ServerSide (m.hookStartupServer h) := by
  unfold hookStartupServer
  exact .refreshAddons h (by rfl) false

theorem serverSide_hookGameServerSteamAPIActivated :
    m.ServerSide (m.hookGameServerSteamAPIActivated h) := by
  unfold hookGameServerSteamAPIActivated
  split_ifs
  · exact .of_nil rfl
  · exact .refreshAddons h (by rfl) true

end MultiAddonManager

/-- The events that work on the server's addons. -/
def Event.isServerSide : Event → Bool
  | .startupServer | .gameServerSteamAPIActivated | .downloadAddon .. | .onAddonDownloaded ..
  | .mountAddon .. | .unmountAddon .. | .addAddon .. | .removeAddon .. | .clearAddons
  | .refreshAddons .. | .setExtraAddons .. => true
  | _ => false

def Event.isClientSide : Event → Bool
  | .setPendingHostStateRequest .. => false
  | event => !event.isServerSide

def Event.client : Event → Option UInt64
  | .replyConnection id | .clientConnect id | .canHLTVClientConnect id | .clientDisconnect id
  | .clientActive id | .sendNetMessage id _ => some id
  | _ => none

namespace MultiAddonManager

variable (m : MultiAddonManager)

theorem serverSide_step (call : Call) (hevent : call.event.isServerSide = true) :
    m.ServerSide (m.step call) := by
  obtain ⟨h, event⟩ := call
  cases event with
  | startupServer => exact m.serverSide_hookStartupServer h
  | gameServerSteamAPIActivated => exact m.serverSide_hookGameServerSteamAPIActivated h
  | downloadAddon pszAddon bImportant bForce =>
    exact (m.mountEffect_downloadAddon h pszAddon bImportant bForce).serverSide
  | onAddonDownloaded publishedFileId =>
    exact (m.mountEffect_onAddonDownloaded h publishedFileId).serverSide
  | mountAddon pszAddon => exact (m.mountEffect_mountAddon h pszAddon).serverSide
  | unmountAddon pszAddon => exact (m.mountEffect_unmountAddon h pszAddon).serverSide
  | addAddon pszAddon bRefresh => exact m.serverSide_addAddon h pszAddon bRefresh
  | removeAddon pszAddon bRefresh => exact m.serverSide_removeAddon h pszAddon bRefresh
  | clearAddons => exact .of_nil (m.clientSide_clearAddons h)
  | refreshAddons bReloadMap => exact (m.mountEffect_refreshAddons h bReloadMap).serverSide
  | setExtraAddons newVal => exact m.serverSide_setExtraAddons h newVal
  | _ => simp [Event.isServerSide] at hevent

/-! ## Messages to clients -/

theorem outputs_hookGameFrame (clients : List ServerSideClient) :
    ∀ o ∈ (hookGameFrame clients m).2, ∃ steamID64, o = .disconnect steamID64 := by
  induction clients generalizing m with
  | nil => simp [hookGameFrame]
  | cons pClient clients ih =>
    simp only [hookGameFrame]
    split_ifs
    · exact List.forall_mem_cons.2 ⟨⟨_, rfl⟩, ih _⟩
    · exact ih m

theorem netMessage_notMem_hookReplyConnection {now : ℚ} {id steamID64 : UInt64}
    {msg : NetMessage} :
    Output.netMessage steamID64 msg ∉ (m.hookReplyConnection now id).2 := by
  simp only [hookReplyConnection]
  split <;> split_ifs <;> simp

theorem plainReply_notMem_addClientAddon {h : Host} {pszAddon addons : CString}
    {steamID64 id : UInt64} {bRefresh : Bool} :
    Output.plainReply id addons ∉ (m.addClientAddon h pszAddon steamID64 bRefresh).2 := by
  simp only [addClientAddon]
  split_ifs
  · simp
  · simp [refreshClients_eq, refreshMessage]
  · simp

theorem plainReply_mem_step {call : Call} {steamID64 : UInt64} {addons : CString}
    (hreply : .plainReply steamID64 addons ∈ (m.step call).2) :
    ∃ id, call.event = .replyConnection id ∧
      .plainReply steamID64 addons ∈ (m.hookReplyConnection call.host.now id).2 := by
  obtain ⟨h, event⟩ := call
  by_cases hevent : event.isServerSide = true
  · have hout := (m.serverSide_step ⟨h, event⟩ hevent).outputs _ hreply
    simp [Output.isServerSide] at hout
  cases event with
  | replyConnection id => exact ⟨id, rfl, hreply⟩
  | gameFrame =>
    obtain ⟨id, hid⟩ := m.outputs_hookGameFrame h.clients _ hreply
    cases hid
  | addClientAddon pszAddon id bRefresh => exact absurd hreply m.plainReply_notMem_addClientAddon
  | _ => simp_all [step, Event.isServerSide]

theorem netMessage_mem_step {call : Call} {steamID64 : UInt64} {msg : NetMessage}
    (hmsg : .netMessage steamID64 msg ∈ (m.step call).2) :
    (∃ pData, call.event = .sendNetMessage steamID64 pData ∧
      msg = (m.hookSendNetMessage call.host.now steamID64 pData).2) ∨
    ∃ pszAddon id bRefresh, call.event = .addClientAddon pszAddon id bRefresh ∧
      .netMessage steamID64 msg ∈ (m.addClientAddon call.host pszAddon id bRefresh).2 := by
  obtain ⟨h, event⟩ := call
  by_cases hevent : event.isServerSide = true
  · have hout := (m.serverSide_step ⟨h, event⟩ hevent).outputs _ hmsg
    simp [Output.isServerSide] at hout
  cases event with
  | sendNetMessage id pData =>
    obtain ⟨rfl, rfl⟩ : steamID64 = id ∧ msg = (m.hookSendNetMessage h.now id pData).2 := by
      simpa [step] using hmsg
    exact .inl ⟨pData, rfl, rfl⟩
  | addClientAddon pszAddon id bRefresh => exact .inr ⟨pszAddon, id, bRefresh, rfl, hmsg⟩
  | gameFrame =>
    obtain ⟨id, hid⟩ := m.outputs_hookGameFrame h.clients _ hmsg
    cases hid
  | replyConnection id => exact absurd hmsg m.netMessage_notMem_hookReplyConnection
  | _ => simp_all [step, Event.isServerSide]

/-! ## Hooks of one client -/

/-- The states differ at most in the record of the client and in the clients that
have timed out. -/
def RecordChange (steamID64 : UInt64) (m' : MultiAddonManager) : Prop :=
  ∃ info timedOutClients,
    m' = { m.setClient steamID64 info with timedOutClients := timedOutClients }

theorem recordChange_setClient (steamID64 : UInt64) (info : ClientAddonInfo) :
    m.RecordChange steamID64 (m.setClient steamID64 info) :=
  ⟨info, m.timedOutClients, rfl⟩

theorem recordChange_refl (steamID64 : UInt64) : m.RecordChange steamID64 m := by
  simpa using m.recordChange_setClient steamID64 (m.clientAddons steamID64)

theorem recordChange_hookReplyConnection (now : ℚ) (steamID64 : UInt64) :
    m.RecordChange steamID64 (m.hookReplyConnection now steamID64).1 := by
  simp only [hookReplyConnection]
  split
  · split_ifs <;> exact m.recordChange_setClient steamID64 _
  · split_ifs <;> exact ⟨_, _, rfl⟩

theorem recordChange_checkClientAddons (now : ℚ) (steamID64 : UInt64) :
    m.RecordChange steamID64 (m.checkClientAddons now steamID64) := by
  simp only [checkClientAddons]
  split_ifs <;> exact m.recordChange_setClient steamID64 _

theorem recordChange_hookSendNetMessage (now : ℚ) (steamID64 : UInt64) (pData : NetMessage) :
    m.RecordChange steamID64 (m.hookSendNetMessage now steamID64 pData).1 := by
  cases pData with
  | other => exact m.recordChange_setClient steamID64 _
  | signonState pMsg =>
    simp only [hookSendNetMessage]
    split_ifs
    · exact m.recordChange_setClient steamID64 _
    · simp only [sendChangelevel, setClient_setClient]
      exact m.recordChange_setClient steamID64 _
    · simp only [sendStaged, setClient_setClient]
      split <;> exact m.recordChange_setClient steamID64 _

theorem recordChange_hookClientActive (steamID64 : UInt64) :
    m.RecordChange steamID64 (m.hookClientActive steamID64) := by
  unfold hookClientActive
  split_ifs
  · exact m.recordChange_refl steamID64
  · exact m.recordChange_setClient steamID64 _

theorem recordChange_step {call : Call} {steamID64 : UInt64}
    (hclient : call.event.client = some steamID64) :
    m.RecordChange steamID64 (m.step call).1 := by
  obtain ⟨h, event⟩ := call
  cases event with
  | replyConnection id =>
    obtain rfl : id = steamID64 := Option.some.inj hclient
    exact m.recordChange_hookReplyConnection h.now id
  | clientConnect id | canHLTVClientConnect id =>
    obtain rfl : id = steamID64 := Option.some.inj hclient
    exact m.recordChange_checkClientAddons h.now id
  | clientDisconnect id =>
    obtain rfl : id = steamID64 := Option.some.inj hclient
    exact m.recordChange_setClient id _
  | clientActive id =>
    obtain rfl : id = steamID64 := Option.some.inj hclient
    exact m.recordChange_hookClientActive id
  | sendNetMessage id pData =>
    obtain rfl : id = steamID64 := Option.some.inj hclient
    exact m.recordChange_hookSendNetMessage h.now id pData
  | _ => simp [Event.client] at hclient

/-- The states differ at most in the records of clients and in the clients that
have timed out. -/
def RecordsChange (m' : MultiAddonManager) : Prop :=
  ∃ clientAddons timedOutClients,
    m' = { m with clientAddons := clientAddons, timedOutClients := timedOutClients }

variable {m}

theorem RecordChange.recordsChange {m' : MultiAddonManager} {steamID64 : UInt64}
    (hchange : m.RecordChange steamID64 m') : m.RecordsChange m' := by
  obtain ⟨_, _, rfl⟩ := hchange
  exact ⟨_, _, rfl⟩

theorem RecordsChange.trans {m' m'' : MultiAddonManager} (hchange : m.RecordsChange m')
    (hchange' : m'.RecordsChange m'') : m.RecordsChange m'' := by
  obtain ⟨_, _, rfl⟩ := hchange
  obtain ⟨clientAddons, timedOutClients, rfl⟩ := hchange'
  exact ⟨clientAddons, timedOutClients, rfl⟩

variable (m)

theorem recordsChange_hookGameFrame (clients : List ServerSideClient) :
    m.RecordsChange (hookGameFrame clients m).1 := by
  induction clients generalizing m with
  | nil => exact ⟨_, _, rfl⟩
  | cons pClient clients ih =>
    simp only [hookGameFrame]
    split_ifs
    · exact RecordsChange.trans ⟨_, _, rfl⟩ (ih _)
    · exact ih m

theorem recordsChange_refreshClients (pszAddon : CString) (steamID64 : UInt64)
    (clients : List ServerSideClient) :
    m.RecordsChange (refreshClients pszAddon steamID64 clients m).1 := by
  rw [refreshClients_eq]
  dsimp only
  split_ifs
  · exact ⟨_, _, rfl⟩
  · exact (m.recordChange_setClient steamID64 _).recordsChange

/-! ## The setter -/

/-- The states differ at most in the preferences, their files and the assets of a
client that was opted out. -/
def SetterChange (steamID64 : UInt64) (m' : MultiAddonManager) : Prop :=
  ∃ rssAssetOptOutClients rssAssetPreferencesWritable files clientAddons,
    m' = { m with rssAssetOptOutClients := rssAssetOptOutClients,
                  rssAssetPreferencesWritable := rssAssetPreferencesWritable,
                  files := files, clientAddons := clientAddons } ∧
    (clientAddons = m.clientAddons ∨ m.isClientRssAssetsEnabled steamID64 = false ∧
      clientAddons = (m.clearRssAssets steamID64).clientAddons)

theorem setterChange_setClientRssAssetsEnabled (o : SaveOutcome) (steamID64 : UInt64)
    (bEnabled : Bool) :
    m.SetterChange steamID64 (m.setClientRssAssetsEnabled o steamID64 bEnabled).2 := by
  rcases m.setClientRssAssetsEnabled_cases o steamID64 bEnabled with
    ⟨result, hset⟩ | ⟨hchange, hset⟩ | ⟨temp, hset⟩
  · rw [hset]
    exact ⟨_, _, _, _, rfl, .inl rfl⟩
  · rw [hset]
    cases bEnabled with
    | false => exact ⟨_, _, _, _, rfl, .inl rfl⟩
    | true => exact ⟨_, _, _, _, rfl, .inr ⟨Bool.eq_false_of_not_eq_true hchange, rfl⟩⟩
  · rw [hset]
    exact ⟨_, _, _, _, rfl, .inl rfl⟩

/-! ## What client-side events leave alone -/

def serverPart : ServerPart :=
  ⟨m.dedicatedServer, m.currentWorkshopMap, m.serverAddons, m.mountedAddons, m.searchPaths⟩

theorem RecordsChange.serverPart {m m' : MultiAddonManager}
    (hchange : m.RecordsChange m') : m'.serverPart = m.serverPart := by
  obtain ⟨_, _, rfl⟩ := hchange
  rfl

theorem serverPart_setClientList (steamID64 : UInt64) (addons : List CString) :
    (m.setClientList steamID64 addons).serverPart = m.serverPart := by
  unfold setClientList
  split_ifs <;> rfl

theorem serverPart_addClientAddon (h : Host) (pszAddon : CString) (steamID64 : UInt64)
    (bRefresh : Bool) :
    (m.addClientAddon h pszAddon steamID64 bRefresh).1.serverPart = m.serverPart := by
  simp only [addClientAddon]
  split_ifs
  · rfl
  · rw [(recordsChange_refreshClients _ pszAddon steamID64 h.clients).serverPart]
    exact m.serverPart_setClientList steamID64 _
  · exact m.serverPart_setClientList steamID64 _

theorem SetterChange.serverPart {m m' : MultiAddonManager} {steamID64 : UInt64}
    (hchange : m.SetterChange steamID64 m') : m'.serverPart = m.serverPart := by
  obtain ⟨_, _, _, _, rfl, -⟩ := hchange
  rfl

theorem serverPart_step {call : Call} (hevent : call.event.isClientSide = true) :
    (m.step call).1.serverPart = m.serverPart := by
  obtain ⟨h, event⟩ := call
  cases event with
  | replyConnection id | clientConnect id | canHLTVClientConnect id | clientDisconnect id
  | clientActive id | sendNetMessage id pData =>
    exact (m.recordChange_step rfl).recordsChange.serverPart
  | gameFrame => exact (m.recordsChange_hookGameFrame h.clients).serverPart
  | addClientAddon pszAddon steamID64 bRefresh =>
    exact m.serverPart_addClientAddon h pszAddon steamID64 bRefresh
  | removeClientAddon pszAddon steamID64 | clearClientAddons steamID64 =>
    exact m.serverPart_setClientList steamID64 _
  | setClientExtraAddons newVal | setConVars conVars => rfl
  | setClientRssAssetsEnabled o steamID64 bEnabled =>
    exact (m.setterChange_setClientRssAssetsEnabled o steamID64 bEnabled).serverPart
  | _ => simp [Event.isClientSide, Event.isServerSide] at hevent

/-! ## What only a host state request changes -/

def serverState : Bool × CString × CString :=
  (m.dedicatedServer, m.currentWorkshopMap, m.serverAddons)

theorem serverState_of_serverSide {result : MultiAddonManager × List Output}
    (hresult : m.ServerSide result) : result.1.serverState = m.serverState :=
  congrArg (fun c : ClientSide => (c.dedicatedServer, c.currentWorkshopMap, c.serverAddons))
    hresult.clientSide

theorem serverState_of_serverPart {m' : MultiAddonManager} (hpart : m'.serverPart = m.serverPart) :
    m'.serverState = m.serverState :=
  congrArg (fun p : ServerPart => (p.dedicatedServer, p.currentWorkshopMap, p.serverAddons)) hpart

theorem serverState_step {call : Call}
    (hcall : ∀ request, call.event ≠ .setPendingHostStateRequest request) :
    (m.step call).1.serverState = m.serverState := by
  by_cases hserver : call.event.isServerSide = true
  · exact m.serverState_of_serverSide (m.serverSide_step _ hserver)
  · have hclient : call.event.isClientSide = true := by
      cases hevent : call.event <;> simp_all [Event.isServerSide, Event.isClientSide]
    exact m.serverState_of_serverPart (m.serverPart_step hclient)

theorem dedicatedServer_step (call : Call) :
    (m.step call).1.dedicatedServer = m.dedicatedServer := by
  by_cases hcall : ∃ request, call.event = .setPendingHostStateRequest request
  · obtain ⟨h, event⟩ := call
    obtain ⟨request, rfl⟩ := hcall
    rfl
  · exact congrArg Prod.fst (m.serverState_step (not_exists.1 hcall))

theorem dedicatedServer_run {m : MultiAddonManager} (hdedicated : m.dedicatedServer = true)
    (calls : List Call) : (run step m calls).dedicatedServer = true := by
  refine run_invariant step (fun _ m => m.dedicatedServer = true) hdedicated ?_ calls
  intro pre call h
  rw [dedicatedServer_step, h]

end MultiAddonManager
end MultiAddonRss
