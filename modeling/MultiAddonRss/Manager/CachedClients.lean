import MultiAddonRss.Manager.Gate

/-!
# Clients that have everything

A client whose downloaded addons cover its list passes: its messages go through as they
are, and every reply names the whole list. Only three things take this from it: the
downloaded addons are forgotten, the client is turned on again, or its list gets an addon
that it does not have. With the cache on, a map change is none of them.
-/

namespace MultiAddonRss

open Foundations

namespace MultiAddonManager

/-- Every addon of the list counts as downloaded. -/
def HasAll (m : MultiAddonManager) (steamID64 : UInt64) : Prop :=
  ∀ addon ∈ m.getClientAddons steamID64 false, addon ∈ (m.progress steamID64).1

/-- The call enables a client that was opted out. -/
def TurnsOn (m : MultiAddonManager) (steamID64 : UInt64) (call : Call) : Prop :=
  m.isClientRssAssetsEnabled steamID64 = false ∧
    (m.step call).1.isClientRssAssetsEnabled steamID64 = true

/-- The list gets an addon that the client does not have. -/
def Lengthens (m : MultiAddonManager) (steamID64 : UInt64) (call : Call) : Prop :=
  ∃ addon ∈ (m.step call).1.getClientAddons steamID64 false,
    addon ∉ m.getClientAddons steamID64 false ∧ addon ∉ (m.progress steamID64).1

/-- The client may have to download something after the call. -/
def Unsettles (m : MultiAddonManager) (steamID64 : UInt64) (call : Call) : Prop :=
  m.Clears steamID64 call ∨ m.TurnsOn steamID64 call ∨ m.Lengthens steamID64 call

/-- A `SignonState` reaches the client as it is, and a reply in time names the full
list. The refresh of `AddClientAddon` does not look at what the client has, and may still
send it a `CHANGELEVEL`. -/
def LeftAlone (m : MultiAddonManager) (steamID64 : UInt64) (call : Call) : Prop :=
  (∀ pMsg, call.event = .sendNetMessage steamID64 (.signonState pMsg) →
    pMsg.signonState ≠ .changelevel →
      (m.step call).2 = [.netMessage steamID64 (.signonState pMsg)]) ∧
  (call.event = .replyConnection steamID64 → m.getClientAddons steamID64 true ≠ [] →
    m.connectionTimedOut call.host.now (m.replyInfo call.host.now steamID64) = false →
      (m.step call).2 =
        [.replyConnection steamID64 (vectorToString (m.getClientAddons steamID64 true))])

variable {m : MultiAddonManager} {steamID64 : UInt64} {call : Call}

/-! ## What a client has is kept -/

theorem downloaded_subset_setClientRssAssetsEnabled (o : SaveOutcome) (id : UInt64)
    (bEnabled : Bool) {h : Host}
    (hon : ¬ m.TurnsOn steamID64 ⟨h, .setClientRssAssetsEnabled o id bEnabled⟩) :
    (m.progress steamID64).1 ⊆
      ((m.setClientRssAssetsEnabled o id bEnabled).2.progress steamID64).1 := by
  unfold TurnsOn at hon
  simp only [step] at hon
  rcases m.setClientRssAssetsEnabled_cases o id bEnabled with
    ⟨result, hset⟩ | ⟨hchange, hset⟩ | ⟨temp, hset⟩
  · simp [hset]
  · rw [hset] at hon ⊢
    cases bEnabled with
    | false => exact List.Subset.refl _
    | true =>
      have hid : steamID64 ≠ id := by
        rintro rfl
        apply hon
        refine ⟨Bool.eq_false_of_not_eq_true hchange, ?_⟩
        simp [isClientRssAssetsEnabled, requestedOptOut]
      have hrecord : (m.clearRssAssets id).clientAddons steamID64 = m.clientAddons steamID64 :=
        clientAddons_setClient_of_ne _ _ _ hid
      simp [progress, hrecord]
  · rw [hset]
    exact List.Subset.refl _

/-- What a client has is lost only when it is forgotten or when the client is turned
on. -/
theorem downloaded_subset_step (hclears : ¬ m.Clears steamID64 call)
    (hon : ¬ m.TurnsOn steamID64 call) :
    (m.progress steamID64).1 ⊆ ((m.step call).1.progress steamID64).1 := by
  have hkept {m' : MultiAddonManager} (hsame : (m'.progress steamID64).1 =
      (m.progress steamID64).1) : (m.progress steamID64).1 ⊆ (m'.progress steamID64).1 := by
    rw [hsame]
    exact List.Subset.refl _
  by_cases hcheck : m.ChecksPending steamID64 call
  · rw [m.downloaded_of_checksPending hcheck]
    exact List.subset_append_left _ _
  by_cases hcomplete : m.CompletesList steamID64 call
  · rw [m.downloaded_of_completesList hcomplete]
    exact List.subset_append_left _ _
  by_cases hforeign : call.event.isServerSide = true ∨
      ∃ id, call.event.client = some id ∧ id ≠ steamID64
  · exact hkept (congrArg Prod.fst (m.progress_step_of_foreign hforeign))
  obtain ⟨hevent, hother⟩ := not_or.1 hforeign
  obtain ⟨h, event⟩ := call
  cases event with
  | replyConnection id =>
    obtain rfl : id = steamID64 := by simpa [Event.client] using hother
    have hcache : m.cacheExpired h.now (m.clientAddons id) = false := by
      simpa [Clears] using hclears
    apply hkept
    rw [step, downloaded_hookReplyConnection]
    simp [replyInfo, hcache, progress]
  | clientConnect id =>
    obtain rfl : id = steamID64 := by simpa [Event.client] using hother
    exact hkept (m.downloaded_checkClientAddons (.inl rfl) hcheck)
  | canHLTVClientConnect id =>
    obtain rfl : id = steamID64 := by simpa [Event.client] using hother
    exact hkept (m.downloaded_checkClientAddons (.inr rfl) hcheck)
  | clientDisconnect id => exact hkept (congrArg Prod.fst (m.progress_setClient rfl rfl))
  | clientActive id =>
    obtain rfl : id = steamID64 := by simpa [Event.client] using hother
    have hcache : m.conVars.mmCacheClientsWithAddons = true := by simpa [Clears] using hclears
    apply hkept
    simp [step, hookClientActive, hcache]
  | sendNetMessage id pData =>
    obtain rfl : id = steamID64 := by simpa [Event.client] using hother
    exact hkept (m.downloaded_hookSendNetMessage hcomplete)
  | gameFrame => exact hkept (congrArg Prod.fst (m.progress_hookGameFrame h.clients))
  | addClientAddon pszAddon id bRefresh =>
    exact hkept (m.downloaded_addClientAddon h pszAddon id bRefresh)
  | removeClientAddon pszAddon id | clearClientAddons id =>
    exact hkept (congrArg Prod.fst (m.progress_setClientList id _))
  | setClientRssAssetsEnabled o id bEnabled =>
    exact downloaded_subset_setClientRssAssetsEnabled o id bEnabled hon
  | setPendingHostStateRequest request | setClientExtraAddons newVal | setConVars conVars =>
    exact hkept rfl
  | _ => simp [Event.isServerSide] at hevent

theorem hasAll_step (hall : m.HasAll steamID64) (hcall : ¬ m.Unsettles steamID64 call) :
    (m.step call).1.HasAll steamID64 := by
  obtain ⟨hclears, hrest⟩ := not_or.1 hcall
  obtain ⟨hon, hlengthens⟩ := not_or.1 hrest
  intro addon haddon
  apply downloaded_subset_step hclears hon
  by_contra hmissing
  apply hlengthens
  exact ⟨addon, haddon, fun hold => hmissing (hall addon hold), hmissing⟩

/-! ## How such a client is treated -/

theorem remainingAddons_of_hasAll (hall : m.HasAll steamID64) :
    m.remainingAddons steamID64 = [] := by
  rw [remainingAddons_eq_filter, List.filter_eq_nil_iff]
  intro addon haddon
  simpa [progress] using hall addon haddon

theorem isRssAssetAddon_of_not_staged {addon : CString}
    (haddon : addon ∈ m.getClientAddons steamID64 true)
    (hstaged : addon ∉ m.getClientAddons steamID64 false) : isRssAssetAddon addon = true := by
  by_contra hasset
  apply hstaged
  rw [mem_getClientAddons] at haddon ⊢
  refine ⟨haddon.1, .inr ?_⟩
  simp [isStaged, hasset]

theorem repliedAddons_of_hasAll {clientInfo : ClientAddonInfo}
    (hall : ∀ addon ∈ m.getClientAddons steamID64 false, addon ∈ clientInfo.downloadedAddons) :
    m.repliedAddons steamID64 clientInfo = m.getClientAddons steamID64 true := by
  have hlist : (m.getClientAddons steamID64 false).filter (fun addon =>
      addon ∈ clientInfo.downloadedAddons || addon = clientInfo.currentPendingAddon) =
        m.getClientAddons steamID64 false := by
    rw [List.filter_eq_self]
    intro addon haddon
    simp [hall addon haddon]
  unfold repliedAddons
  rw [hlist]
  dsimp only
  split_ifs with henabled
  · exact getClientAddons_of_enabled henabled
  · rw [List.filter_eq_self]
    intro addon haddon
    by_cases hstaged : addon ∈ m.getClientAddons steamID64 false
    · simp [hstaged]
    · simp [isRssAssetAddon_of_not_staged haddon hstaged]

theorem leftAlone_of_hasAll (hdedicated : m.dedicatedServer = true) (hall : m.HasAll steamID64)
    (hclears : ¬ m.Clears steamID64 call) : m.LeftAlone steamID64 call := by
  obtain ⟨h, event⟩ := call
  constructor
  · rintro pMsg rfl hstate
    have hstep : m.hookSendNetMessage h.now steamID64 (.signonState pMsg) = _ :=
      hookSendNetMessage_of_complete hdedicated hstate (remainingAddons_of_hasAll hall)
    simp [step, hstep]
  · rintro rfl hfull htimeout
    have hcache : m.cacheExpired h.now (m.clientAddons steamID64) = false := by
      simpa [Clears] using hclears
    dsimp only at htimeout
    rw [step]
    cases hlist : m.getClientAddons steamID64 false with
    | nil =>
      have henabled : m.isClientRssAssetsEnabled steamID64 = false := by
        by_contra henabled
        rw [Bool.not_eq_false] at henabled
        rw [← getClientAddons_of_enabled henabled] at hfull
        exact hfull hlist
      rw [hookReplyConnection_of_nil hlist]
      simp [henabled, hfull]
    | cons firstAddon rest =>
      rw [hookReplyConnection_of_cons hlist htimeout]
      have hdownloaded : (m.repliedInfo h.now steamID64 firstAddon).downloadedAddons =
          (m.progress steamID64).1 := by
        simp [repliedInfo, replyInfo, hcache, progress]
      rw [repliedAddons_of_hasAll]
      rw [hdownloaded]
      exact hall

/-! ## Whole runs -/

end MultiAddonManager
end MultiAddonRss
