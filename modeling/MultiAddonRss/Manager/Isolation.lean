import MultiAddonRss.Foundations.Purge
import MultiAddonRss.Manager.CrashSafety
import MultiAddonRss.Manager.Independence

/-!
# What a client learns of the others

A client is concerned by its own hooks, by all changes of the shared lists, settings and
preferences, and by the record of the identifier zero, which the refresh of the global list
works on. The hooks of other clients and the changes of their lists leave no trace in what
the client is sent.
-/

namespace MultiAddonRss

open Foundations RssPrefs

/-- The hooks of the client and of the identifier zero, the changes of their lists, and
everything that has no client. The preference calls of all clients are among the latter: a
failed save closes the latch for everyone. -/
def Event.isVisibleTo (steamID64 : UInt64) : Event → Bool
  | .replyConnection id | .clientConnect id | .canHLTVClientConnect id | .clientDisconnect id
  | .clientActive id | .sendNetMessage id _ | .addClientAddon _ id _ | .removeClientAddon _ id
  | .clearClientAddons id => id = steamID64 || id = 0
  | _ => true

def Event.isShared : Event → Bool
  | .gameServerSteamAPIActivated | .setPendingHostStateRequest .. | .downloadAddon ..
  | .onAddonDownloaded .. | .mountAddon .. | .unmountAddon .. | .addAddon .. | .removeAddon ..
  | .clearAddons | .refreshAddons .. | .setExtraAddons .. | .setClientExtraAddons ..
  | .setConVars .. => true
  | _ => false

/-- What the client gets, and what everyone can notice. -/
def Output.seenBy (steamID64 : UInt64) : Output → Bool
  | .netMessage id _ | .replyConnection id _ | .plainReply id _ | .disconnect id => id = steamID64
  | .downloadItem _ | .serverCommand _ => true

namespace MultiAddonManager

/-- The states differ at most in the records of other clients and in whether those have
timed out. -/
def AlikeTo (steamID64 : UInt64) (m m' : MultiAddonManager) : Prop :=
  ∃ c t, m' = m.withClients c t ∧ ∀ id, id = steamID64 ∨ id = 0 →
    c id = m.clientAddons id ∧ (id ∈ t ↔ id ∈ m.timedOutClients)

def AlikeResults (steamID64 : UInt64) (result result' : MultiAddonManager × List Output) : Prop :=
  AlikeTo steamID64 result.1 result'.1 ∧
    result.2.filter (Output.seenBy steamID64) = result'.2.filter (Output.seenBy steamID64)

variable {m m' : MultiAddonManager} {steamID64 id : UInt64}
  {op : MultiAddonManager → MultiAddonManager × List Output}

theorem alikeTo_refl (steamID64 : UInt64) (m : MultiAddonManager) : AlikeTo steamID64 m m :=
  ⟨m.clientAddons, m.timedOutClients, rfl, fun _ _ => ⟨rfl, Iff.rfl⟩⟩

theorem AlikeTo.symm (h : AlikeTo steamID64 m m') : AlikeTo steamID64 m' m := by
  obtain ⟨c, t, rfl, hsame⟩ := h
  refine ⟨m.clientAddons, m.timedOutClients, rfl, fun id hid => ?_⟩
  exact ⟨(hsame id hid).1.symm, (hsame id hid).2.symm⟩

theorem AlikeTo.trans {m'' : MultiAddonManager} (h : AlikeTo steamID64 m m')
    (h' : AlikeTo steamID64 m' m'') : AlikeTo steamID64 m m'' := by
  obtain ⟨c, t, rfl, hsame⟩ := h
  obtain ⟨c', t', rfl, hsame'⟩ := h'
  refine ⟨c', t', rfl, fun id hid => ?_⟩
  exact ⟨(hsame' id hid).1.trans (hsame id hid).1, (hsame' id hid).2.trans (hsame id hid).2⟩

/-! ## Operations that read no record -/

def ReadsNoRecord (op : MultiAddonManager → MultiAddonManager × List Output) : Prop :=
  ∀ m c t, op (m.withClients c t) = ((op m).1.withClients c t, (op m).2)

theorem AlikeTo.of_readsNoRecord {op : MultiAddonManager → MultiAddonManager × List Output}
    (h : AlikeTo steamID64 m m') (hop : ReadsNoRecord op) :
    AlikeResults steamID64 (op m) (op m') := by
  obtain ⟨c, t, rfl, hsame⟩ := h
  -- the records of the result are those from before
  have hkept : op m = ((op m).1.withClients m.clientAddons m.timedOutClients, (op m).2) :=
    hop m m.clientAddons m.timedOutClients
  have hclients : (op m).1.clientAddons = m.clientAddons :=
    congrArg (fun result => result.1.clientAddons) hkept
  have htimedOut : (op m).1.timedOutClients = m.timedOutClients :=
    congrArg (fun result => result.1.timedOutClients) hkept
  refine ⟨⟨c, t, congrArg Prod.fst (hop m c t), ?_⟩,
    congrArg (fun result => result.2.filter (Output.seenBy steamID64)) (hop m c t).symm⟩
  rw [hclients, htimedOut]
  exact hsame

/-! ## Operations on one record -/

theorem AlikeTo.of_ownRecord (hop : OwnRecord id op) (hid : id = steamID64 ∨ id = 0)
    (h : AlikeTo steamID64 m m') : AlikeResults steamID64 (op m) (op m') := by
  obtain ⟨c, t, rfl, hsame⟩ := h
  obtain ⟨info, marks, out, hresult⟩ := hop m
  have hleft : op m = _ := hresult m.clientAddons m.timedOutClients rfl
  rw [hleft, hresult c t (hsame id hid).1]
  refine ⟨⟨_, _, rfl, fun id' hid' => ⟨?_, ?_⟩⟩, rfl⟩
  · simp only [Function.update_apply, (hsame id' hid').1]
  · cases marks <;> simp [(hsame id' hid').2]

theorem AlikeTo.of_otherRecord (hop : OwnRecord id op) (hid : ¬ (id = steamID64 ∨ id = 0))
    (h : AlikeTo steamID64 m m') : AlikeTo steamID64 (op m).1 m' := by
  obtain ⟨info, marks, out, hresult⟩ := hop m
  have hleft : op m = _ := hresult m.clientAddons m.timedOutClients rfl
  apply AlikeTo.trans (AlikeTo.symm ?_) h
  rw [hleft]
  refine ⟨_, _, rfl, fun id' hid' => ?_⟩
  have hne : id' ≠ id := by
    rintro rfl
    exact hid hid'
  refine ⟨by rw [Function.update_of_ne hne], ?_⟩
  cases marks <;> simp [hne]

/-! ## Steps -/

theorem alikeResults_hookStartupServer (h : AlikeTo steamID64 m m') (host : Host) :
    AlikeResults steamID64 (m.hookStartupServer host) (m'.hookStartupServer host) := by
  have hcleared : AlikeTo steamID64 { m with globalsReady := true, timedOutClients := ∅ }
      { m' with globalsReady := true, timedOutClients := ∅ } := by
    obtain ⟨c, t, rfl, hsame⟩ := h
    exact ⟨c, ∅, rfl, fun id hid => ⟨(hsame id hid).1, Iff.rfl⟩⟩
  unfold hookStartupServer
  have hrefresh : ReadsNoRecord fun m => m.refreshAddons host false := fun m c t =>
    m.refreshAddons_withClients host c t false
  exact hcleared.of_readsNoRecord hrefresh

theorem readsNoRecord_step {call : Call} (hcall : call.event.isShared = true) :
    ReadsNoRecord fun m => m.step call := by
  intro m c t
  obtain ⟨host, event⟩ := call
  cases event with
  | gameServerSteamAPIActivated => exact m.hookGameServerSteamAPIActivated_withClients host c t
  | downloadAddon pszAddon bImportant bForce =>
    exact congrArg Prod.snd (m.downloadAddon_withClients host c t pszAddon bImportant bForce)
  | onAddonDownloaded publishedFileId =>
    exact m.onAddonDownloaded_withClients host c t publishedFileId
  | mountAddon pszAddon => exact congrArg Prod.snd (m.mountAddon_withClients host c t pszAddon)
  | unmountAddon pszAddon =>
    exact congrArg (fun result => (result.2, [])) (m.unmountAddon_withClients host c t pszAddon)
  | addAddon pszAddon bRefresh =>
    exact congrArg Prod.snd (m.addAddon_withClients host c t pszAddon bRefresh)
  | removeAddon pszAddon bRefresh =>
    exact congrArg Prod.snd (m.removeAddon_withClients host c t pszAddon bRefresh)
  | clearAddons => exact congrArg (fun m => (m, [])) (m.clearAddons_withClients host c t)
  | refreshAddons bReloadMap => exact m.refreshAddons_withClients host c t bReloadMap
  | setExtraAddons newVal => exact m.setExtraAddons_withClients host c t newVal
  | setPendingHostStateRequest request => rfl
  | setClientExtraAddons newVal => rfl
  | setConVars conVars => rfl
  | _ => simp [Event.isShared] at hcall

theorem saveRssAssetOptOutClientsLocked_withClients (m : MultiAddonManager)
    (c : UInt64 → ClientAddonInfo) (t : Finset UInt64) (o : SaveOutcome)
    (ids : Finset RssSteamId) :
    (m.withClients c t).saveRssAssetOptOutClientsLocked o ids =
      ((m.saveRssAssetOptOutClientsLocked o ids).1,
        (m.saveRssAssetOptOutClientsLocked o ids).2.withClients c t) := by
  simp only [saveRssAssetOptOutClientsLocked]
  split_ifs <;> rfl

theorem AlikeTo.saved (h : AlikeTo steamID64 m m') (o : SaveOutcome) (ids : Finset RssSteamId) :
    AlikeTo steamID64 (m.saveRssAssetOptOutClientsLocked o ids).2
        (m'.saveRssAssetOptOutClientsLocked o ids).2 ∧
      (m'.saveRssAssetOptOutClientsLocked o ids).1 =
        (m.saveRssAssetOptOutClientsLocked o ids).1 := by
  have hop : ReadsNoRecord fun m => ((m.saveRssAssetOptOutClientsLocked o ids).2, []) :=
    fun m c t => by simp only [saveRssAssetOptOutClientsLocked_withClients]
  refine ⟨(h.of_readsNoRecord hop).1, ?_⟩
  obtain ⟨c, t, rfl, -⟩ := h
  rw [saveRssAssetOptOutClientsLocked_withClients]

theorem AlikeTo.published (h : AlikeTo steamID64 m m') (ids : Finset RssSteamId) (latch : Bool) :
    AlikeTo steamID64
      { m with rssAssetOptOutClients := ids, rssAssetPreferencesWritable := latch }
      { m' with rssAssetOptOutClients := ids, rssAssetPreferencesWritable := latch } := by
  obtain ⟨c, t, rfl, hsame⟩ := h
  exact ⟨c, t, rfl, hsame⟩

theorem AlikeTo.cleared (h : AlikeTo steamID64 m m') (id : UInt64) :
    AlikeTo steamID64 (m.clearRssAssets id) (m'.clearRssAssets id) := by
  obtain ⟨c, t, rfl, hsame⟩ := h
  refine ⟨_, t, rfl, fun id' hid' => ⟨?_, (hsame id' hid').2⟩⟩
  by_cases hid : id' = id
  · subst hid
    simp [clearRssAssets, setClient, (hsame id' hid').1]
  · simp [clearRssAssets, setClient, hid, (hsame id' hid').1]

theorem AlikeTo.setClientRssAssetsEnabled (h : AlikeTo steamID64 m m') (o : SaveOutcome)
    (id : UInt64) (bEnabled : Bool) :
    AlikeTo steamID64 (m.setClientRssAssetsEnabled o id bEnabled).2
      (m'.setClientRssAssetsEnabled o id bEnabled).2 := by
  have hshared : m'.rssAssetOptOutClients = m.rssAssetOptOutClients ∧
      m'.rssAssetPreferencesWritable = m.rssAssetPreferencesWritable := by
    obtain ⟨c, t, rfl, -⟩ := h
    exact ⟨rfl, rfl⟩
  simp only [MultiAddonManager.setClientRssAssetsEnabled, applyRssPreferenceChange, hshared]
  by_cases hid : id = 0
  · simpa only [hid, if_true] using h
  cases hlatch : m.rssAssetPreferencesWritable with
  | false => simpa [hid] using h.published m.rssAssetOptOutClients false
  | true =>
    by_cases hwas : decide (id ∉ m.rssAssetOptOutClients) = bEnabled
    · simpa [hid, hwas] using h.published m.rssAssetOptOutClients true
    · obtain ⟨hsaved, hresult⟩ := h.saved o
        (if bEnabled then m.rssAssetOptOutClients.erase id else insert id m.rssAssetOptOutClients)
      simp only [hid, hwas, hresult, if_false, Bool.not_true, Bool.false_eq_true]
      generalize MultiAddonManager.saveRssAssetOptOutClientsLocked m o _ = saved at hsaved ⊢
      generalize MultiAddonManager.saveRssAssetOptOutClientsLocked m' o _ = saved' at hsaved ⊢
      obtain ⟨bPersisted, s⟩ := saved
      cases bPersisted with
      | false => exact hsaved.published _ _
      | true =>
        cases bEnabled with
        | false => exact hsaved.published _ _
        | true => exact (hsaved.cleared id).published _ _

/-! ## Hooks and lists of clients -/

theorem ownRecord_step {call : Call} (hclient : call.event.client = some id) :
    OwnRecord id fun m => m.step call := by
  obtain ⟨host, event⟩ := call
  cases event with
  | replyConnection steamID64 =>
    obtain rfl : steamID64 = id := Option.some.inj hclient
    exact ownRecord_hookReplyConnection host.now steamID64
  | clientConnect steamID64 | canHLTVClientConnect steamID64 =>
    obtain rfl : steamID64 = id := Option.some.inj hclient
    exact ownRecord_checkClientAddons host.now steamID64
  | clientDisconnect steamID64 =>
    obtain rfl : steamID64 = id := Option.some.inj hclient
    exact ownRecord_hookClientDisconnect host.now steamID64
  | clientActive steamID64 =>
    obtain rfl : steamID64 = id := Option.some.inj hclient
    exact ownRecord_hookClientActive steamID64
  | sendNetMessage steamID64 pData =>
    obtain rfl : steamID64 = id := Option.some.inj hclient
    exact ownRecord_hookSendNetMessage host.now steamID64 pData
  | _ => simp [Event.client] at hclient

theorem seenBy_step_of_client {call : Call} (hclient : call.event.client = some id)
    (hne : id ≠ steamID64) : ∀ o ∈ (m.step call).2, o.seenBy steamID64 = false := by
  obtain ⟨host, event⟩ := call
  cases event with
  | replyConnection client =>
    obtain rfl : client = id := Option.some.inj hclient
    simp only [step, hookReplyConnection]
    split <;> split_ifs <;> simp [Output.seenBy, hne]
  | sendNetMessage client pData =>
    obtain rfl : client = id := Option.some.inj hclient
    simp [step, Output.seenBy, hne]
  | clientConnect client | canHLTVClientConnect client | clientDisconnect client
  | clientActive client => simp [step]
  | _ => simp [Event.client] at hclient

theorem AlikeTo.clientList_eq (h : AlikeTo steamID64 m m') (hid : id = steamID64 ∨ id = 0) :
    m'.clientList id = m.clientList id := by
  obtain ⟨c, t, rfl, hsame⟩ := h
  unfold clientList
  split_ifs
  · rfl
  · simp only [(hsame id hid).1]

theorem AlikeTo.setClientList (h : AlikeTo steamID64 m m') (hid : id = steamID64 ∨ id = 0)
    (addons : List CString) :
    AlikeTo steamID64 (m.setClientList id addons) (m'.setClientList id addons) := by
  unfold MultiAddonManager.setClientList
  split_ifs with h0
  · have hglobal : ReadsNoRecord fun m => (m.setGlobalClientAddons addons, []) := fun _ _ _ => rfl
    exact (h.of_readsNoRecord hglobal).1
  · exact (h.of_ownRecord (ownRecord_setAddonsToLoad id fun _ => addons) hid).1

theorem AlikeTo.otherList (h : AlikeTo steamID64 m m') (hid : ¬ (id = steamID64 ∨ id = 0))
    (addons : List CString) : AlikeTo steamID64 (m.setClientList id addons) m' := by
  unfold MultiAddonManager.setClientList
  rw [if_neg (not_or.1 hid).2]
  exact h.of_otherRecord (ownRecord_setAddonsToLoad id fun _ => addons) hid

theorem AlikeTo.addClientAddon (h : AlikeTo steamID64 m m') (hid : id = steamID64 ∨ id = 0)
    (host : Host) (pszAddon : CString) (bRefresh : Bool) :
    AlikeResults steamID64 (m.addClientAddon host pszAddon id bRefresh)
      (m'.addClientAddon host pszAddon id bRefresh) := by
  have hready : ∀ addons, (m'.setClientList id addons).globalsReady =
      (m.setClientList id addons).globalsReady := by
    intro addons
    obtain ⟨c, t, hset, -⟩ := h.setClientList hid addons
    rw [hset]
  simp only [MultiAddonManager.addClientAddon, h.clientList_eq hid, hready]
  have hset := h.setClientList hid (m.clientList id ++ [pszAddon])
  split_ifs
  · exact ⟨h, rfl⟩
  · exact hset.of_ownRecord (ownRecord_refreshClients pszAddon id host.clients) hid
  · exact ⟨hset, rfl⟩

theorem steamID64_of_mem_refreshTargets {clients : List ServerSideClient}
    {pClient : ServerSideClient} (h0 : id ≠ 0) (hmem : pClient ∈ m.refreshTargets id clients) :
    pClient.steamID64 = id := by
  have hcandidate : pClient ∈ refreshCandidates id clients := by
    unfold refreshTargets at hmem
    split_ifs at hmem
    · simp at hmem
    · split at hmem
      · simp at hmem
      · simp only [h0, decide_false, Bool.false_and, Bool.false_eq_true, if_false] at hmem
        exact List.mem_of_mem_take hmem
  have hfilter := (List.takeWhile_sublist _).subset hcandidate
  simpa [h0] using (List.mem_filter.1 hfilter).2

theorem AlikeTo.otherAddClientAddon (h : AlikeTo steamID64 m m')
    (hid : ¬ (id = steamID64 ∨ id = 0)) (host : Host) (pszAddon : CString) (bRefresh : Bool) :
    AlikeTo steamID64 (m.addClientAddon host pszAddon id bRefresh).1 m' ∧
      ∀ o ∈ (m.addClientAddon host pszAddon id bRefresh).2, o.seenBy steamID64 = false := by
  have hset := h.otherList hid (m.clientList id ++ [pszAddon])
  obtain ⟨hne, h0⟩ := not_or.1 hid
  simp only [MultiAddonManager.addClientAddon]
  split_ifs
  · exact ⟨h, by simp⟩
  · refine ⟨hset.of_otherRecord (ownRecord_refreshClients pszAddon id host.clients) hid, ?_⟩
    rw [refreshClients_eq]
    intro o ho
    obtain ⟨pClient, hmem, rfl⟩ := List.mem_map.1 ho
    simp [refreshMessage, Output.seenBy, steamID64_of_mem_refreshTargets h0 hmem, hne]
  · exact ⟨hset, by simp⟩

/-! ## Frames -/

theorem filter_seenBy_hookGameFrame (clients : List ServerSideClient) (m : MultiAddonManager) :
    (hookGameFrame clients m).2.filter (Output.seenBy steamID64) =
      if m.Kicks clients steamID64 then [.disconnect steamID64] else [] := by
  induction clients generalizing m with
  | nil => simp [hookGameFrame, Kicks]
  | cons pClient clients ih =>
    simp only [hookGameFrame, kicks_cons]
    by_cases hkick : pClient.steamID64 ∈ m.timedOutClients
    · simp only [hkick, if_true, true_and, List.filter_cons, ih, kicks_erase]
      by_cases hid : steamID64 = pClient.steamID64
      · simp [hid, Output.seenBy]
      · simp [hid, Output.seenBy, Ne.symm hid]
    · simp only [hkick, if_false, false_and, false_or, ih]

theorem alikeResults_hookGameFrame (h : AlikeTo steamID64 m m') (clients : List ServerSideClient) :
    AlikeResults steamID64 (hookGameFrame clients m) (hookGameFrame clients m') := by
  obtain ⟨c, t, rfl, hsame⟩ := h
  have hkicks (id : UInt64) (hid : id = steamID64 ∨ id = 0) :
      (m.withClients c t).Kicks clients id ↔ m.Kicks clients id := by
    unfold Kicks
    rw [(hsame id hid).2]
  refine ⟨?_, ?_⟩
  · obtain ⟨c', t', hleft⟩ := m.recordsChange_hookGameFrame clients
    obtain ⟨c'', t'', hright⟩ := (m.withClients c t).recordsChange_hookGameFrame clients
    refine ⟨c'', t'', by rw [hleft, hright], fun id hid => ⟨?_, ?_⟩⟩
    · have hinfo := clientAddons_hookGameFrame (m.withClients c t) id clients
      rw [hright] at hinfo
      rw [clientAddons_hookGameFrame]
      apply hinfo.trans
      simp only [hkicks id hid, (hsame id hid).1]
    · have hmem := mem_timedOutClients_hookGameFrame (m.withClients c t) id clients
      rw [hright] at hmem
      rw [mem_timedOutClients_hookGameFrame]
      apply hmem.trans
      rw [hkicks id hid, (hsame id hid).2]
  · rw [filter_seenBy_hookGameFrame, filter_seenBy_hookGameFrame]
    simp only [hkicks steamID64 (.inl rfl)]

/-! ## Whole runs -/

theorem alikeResults_step {call : Call} (h : AlikeTo steamID64 m m')
    (hcall : call.event.isVisibleTo steamID64 = true) :
    AlikeResults steamID64 (m.step call) (m'.step call) := by
  by_cases hshared : call.event.isShared = true
  · exact h.of_readsNoRecord (readsNoRecord_step hshared)
  obtain ⟨host, event⟩ := call
  cases event with
  | replyConnection id | clientConnect id | canHLTVClientConnect id | clientDisconnect id
  | clientActive id | sendNetMessage id pData =>
    exact h.of_ownRecord (ownRecord_step rfl) (by simpa [Event.isVisibleTo] using hcall)
  | gameFrame => exact alikeResults_hookGameFrame h host.clients
  | startupServer => exact alikeResults_hookStartupServer h host
  | addClientAddon pszAddon id bRefresh =>
    exact h.addClientAddon (by simpa [Event.isVisibleTo] using hcall) host pszAddon bRefresh
  | removeClientAddon pszAddon id =>
    have hid : id = steamID64 ∨ id = 0 := by simpa [Event.isVisibleTo] using hcall
    simp only [step, removeClientAddon, h.clientList_eq hid]
    exact ⟨h.setClientList hid _, rfl⟩
  | clearClientAddons id =>
    exact ⟨h.setClientList (by simpa [Event.isVisibleTo] using hcall) [], rfl⟩
  | setClientRssAssetsEnabled o id bEnabled =>
    exact ⟨h.setClientRssAssetsEnabled o id bEnabled, rfl⟩
  | _ => simp [Event.isShared] at hshared

theorem alikeTo_step_of_other {call : Call} (h : AlikeTo steamID64 m m')
    (hcall : call.event.isVisibleTo steamID64 = false) :
    AlikeTo steamID64 (m.step call).1 m' ∧
      (m.step call).2.filter (Output.seenBy steamID64) = [] := by
  obtain ⟨host, event⟩ := call
  cases event with
  | replyConnection id | clientConnect id | canHLTVClientConnect id | clientDisconnect id
  | clientActive id | sendNetMessage id pData =>
    have hid : ¬ (id = steamID64 ∨ id = 0) := by simpa [Event.isVisibleTo] using hcall
    refine ⟨h.of_otherRecord (ownRecord_step rfl) hid, List.filter_eq_nil_iff.2 ?_⟩
    intro o ho
    simp [seenBy_step_of_client rfl (not_or.1 hid).1 o ho]
  | addClientAddon pszAddon id bRefresh =>
    have hid : ¬ (id = steamID64 ∨ id = 0) := by simpa [Event.isVisibleTo] using hcall
    obtain ⟨hstate, hunseen⟩ := h.otherAddClientAddon hid host pszAddon bRefresh
    refine ⟨hstate, List.filter_eq_nil_iff.2 fun o ho => ?_⟩
    simp [hunseen o ho]
  | removeClientAddon pszAddon id | clearClientAddons id =>
    exact ⟨h.otherList (by simpa [Event.isVisibleTo] using hcall) _, rfl⟩
  | _ => simp [Event.isVisibleTo] at hcall

theorem unwinding (steamID64 : UInt64) :
    Unwinding step (AlikeTo steamID64) (fun call => call.event.isVisibleTo steamID64)
      (Output.seenBy steamID64) where
  consistent _ _ _ h hcall := alikeResults_step h hcall
  respects _ _ _ h hcall := alikeTo_step_of_other h hcall

/-- Two servers whose states differ only in what they store of other clients, and two
runs that differ only in the hooks of other clients and the changes of their lists: the
client is sent the same messages in the same order, and its record is the same at the
end. -/
theorem client_isolated (m m' : MultiAddonManager) (steamID64 : UInt64)
    (halike : AlikeTo steamID64 m m') (calls calls' : List Call)
    (hcalls : calls.filter (fun call => call.event.isVisibleTo steamID64) =
      calls'.filter fun call => call.event.isVisibleTo steamID64) :
    Unwinding.seen step (Output.seenBy steamID64) m calls =
        Unwinding.seen step (Output.seenBy steamID64) m' calls' ∧
      (run step m calls).clientAddons steamID64 = (run step m' calls').clientAddons steamID64 ∧
      AlikeTo steamID64 (run step m calls) (run step m' calls') := by
  obtain ⟨hrun, hseen⟩ := (unwinding steamID64).seen_eq_of_filter_eq
    (fun _ _ h => h.symm) (fun _ _ _ h h' => h.trans h') halike hcalls
  refine ⟨hseen, ?_, hrun⟩
  obtain ⟨c, t, hstate, hsame⟩ := hrun
  rw [hstate]
  exact (hsame steamID64 (.inl rfl)).1.symm

theorem client_isolated_two_clients :
    let m : MultiAddonManager := { mountedAddons := [ascii "1"] }
    Unwinding.seen step (Output.seenBy 7) m
        [⟨{}, .replyConnection 9⟩, ⟨{}, .replyConnection 7⟩, ⟨{}, .clientDisconnect 9⟩] =
      Unwinding.seen step (Output.seenBy 7) m [⟨{}, .replyConnection 7⟩] :=
  (client_isolated _ _ 7 (alikeTo_refl 7 _) _ _ rfl).1

-- A preference call of client 9 is no such event: when its save fails, client 7 is refused.
example :
    let m : MultiAddonManager := { rssAssetPreferencesWritable := true }
    let own : Call := ⟨{}, .setClientRssAssetsEnabled {} 7 false⟩
    let failed : Call := ⟨{}, .setClientRssAssetsEnabled { renameFile := false } 9 false⟩
    (run step m [own]).isClientRssAssetsEnabled 7 = false ∧
      (run step m [failed, own]).isClientRssAssetsEnabled 7 = true := by
  decide +kernel

end MultiAddonManager
end MultiAddonRss
