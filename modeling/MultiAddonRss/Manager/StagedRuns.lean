import MultiAddonRss.Foundations.Stuttering
import MultiAddonRss.Manager.Isolation
import MultiAddonRss.Manager.LastWrite
import MultiAddonRss.Manager.Progress
import MultiAddonRss.Manager.Staged

/-!
# Staging amid everything else

The three connection hooks of a client are the parts of a delivery round, whatever other
clients, frames and downloads the server handles in between. As long as the lists of the
client stay as they are, a run of the plugin is a run of the delivery of its list.
-/

namespace MultiAddonRss

open Foundations RssPrefs

def Event.stage (steamID64 : UInt64) : Event → Option Delivery.Part
  | .replyConnection id => if id = steamID64 then some .reply else none
  | .clientConnect id | .canHLTVClientConnect id => if id = steamID64 then some .reconnect else none
  | .sendNetMessage id (.signonState _) => if id = steamID64 then some .offer else none
  | _ => none

def Output.offerTo (steamID64 : UInt64) : Output → Option CString
  | .netMessage id msg => if id = steamID64 then offeredAddon msg else none
  | _ => none

namespace MultiAddonManager

/-- The connection hooks of the client meet neither the cache expiry nor a timeout nor a
map change. Besides them there are the hooks, lists and preferences of other clients,
frames, downloads, and messages to the client that are no `SignonState`. -/
def Orderly (steamID64 : UInt64) (m : MultiAddonManager) (call : Call) : Prop :=
  match call.event with
  | .replyConnection id => id = steamID64 →
    m.cacheExpired call.host.now (m.clientAddons steamID64) = false ∧
      m.connectionTimedOut call.host.now (m.replyInfo call.host.now steamID64) = false
  | .clientConnect id | .canHLTVClientConnect id => id = steamID64 →
    call.host.now - (m.clientAddons steamID64).lastActiveTime ≤ m.conVars.mmExtraAddonsTimeout
  | .sendNetMessage id (.signonState pMsg) => id = steamID64 → pMsg.signonState ≠ .changelevel
  | .clientActive id | .setClientRssAssetsEnabled _ id _ => id ≠ steamID64
  | .addClientAddon _ id _ | .removeClientAddon _ id | .clearClientAddons id =>
    id ≠ steamID64 ∧ id ≠ 0
  | .sendNetMessage _ .other | .clientDisconnect _ | .gameFrame | .downloadAddon ..
  | .onAddonDownloaded _ | .setConVars _ => True
  | _ => False

/-- The members that the lists of a client are made of, and its progress. -/
structure SameStaging (steamID64 : UInt64) (m m' : MultiAddonManager) : Prop where
  currentWorkshopMap : m'.currentWorkshopMap = m.currentWorkshopMap
  mountedAddons : m'.mountedAddons = m.mountedAddons
  globalClientAddons : m'.globalClientAddons = m.globalClientAddons
  addonsToLoad : (m'.clientAddons steamID64).addonsToLoad = (m.clientAddons steamID64).addonsToLoad
  enabled : m'.isClientRssAssetsEnabled steamID64 = m.isClientRssAssetsEnabled steamID64
  progress : m'.progress steamID64 = m.progress steamID64

variable {m m' : MultiAddonManager} {steamID64 : UInt64} {call : Call}

theorem SameStaging.getClientAddons (h : SameStaging steamID64 m m')
    (bIncludeOptedOutRssAssets : Bool) :
    m'.getClientAddons steamID64 bIncludeOptedOutRssAssets =
      m.getClientAddons steamID64 bIncludeOptedOutRssAssets := by
  simp only [MultiAddonManager.getClientAddons, h.currentWorkshopMap, h.mountedAddons,
    h.globalClientAddons, h.addonsToLoad, h.enabled]

theorem SameStaging.delivery (h : SameStaging steamID64 m m') :
    m'.delivery steamID64 = m.delivery steamID64 := by
  have hprogress := h.progress
  simp only [MultiAddonManager.progress, Prod.mk.injEq] at hprogress
  unfold MultiAddonManager.delivery
  rw [hprogress.1, hprogress.2]

/-! ## The other calls -/

theorem sameStaging_refl (steamID64 : UInt64) (m : MultiAddonManager) :
    SameStaging steamID64 m m :=
  ⟨rfl, rfl, rfl, rfl, rfl, rfl⟩

theorem sameStaging_setClient {id : UInt64} {info : ClientAddonInfo}
    (hload : info.addonsToLoad = (m.clientAddons id).addonsToLoad)
    (hdownloaded : info.downloadedAddons = (m.clientAddons id).downloadedAddons)
    (hpending : info.currentPendingAddon = (m.clientAddons id).currentPendingAddon) :
    SameStaging steamID64 m (m.setClient id info) := by
  refine ⟨rfl, rfl, rfl, ?_, rfl, m.progress_setClient hdownloaded hpending⟩
  by_cases hid : steamID64 = id
  · rw [hid, clientAddons_setClient_self, hload]
  · rw [clientAddons_setClient_of_ne _ _ _ hid]

theorem RecordChange.sameStaging {id : UInt64} (hchange : m.RecordChange id m')
    (hid : id ≠ steamID64) : SameStaging steamID64 m m' := by
  obtain ⟨info, timedOutClients, rfl⟩ := hchange
  refine ⟨rfl, rfl, rfl, ?_, rfl, m.progress_setClient_of_ne info hid⟩
  exact congrArg ClientAddonInfo.addonsToLoad (clientAddons_setClient_of_ne _ _ _ hid.symm)

theorem AlikeTo.sameStaging (h : AlikeTo steamID64 m' m) : SameStaging steamID64 m m' := by
  obtain ⟨c, t, rfl, hsame⟩ := h
  have hown := (hsame steamID64 (.inl rfl)).1
  exact ⟨rfl, rfl, rfl, by rw [← hown], rfl, by simp only [progress, ← hown]⟩

theorem sameStaging_hookGameFrame (clients : List ServerSideClient) (m : MultiAddonManager) :
    SameStaging steamID64 m (hookGameFrame clients m).1 := by
  have hrecord := clientAddons_hookGameFrame m steamID64 clients
  have hprogress : (hookGameFrame clients m).1.progress steamID64 = m.progress steamID64 :=
    m.progress_hookGameFrame clients
  obtain ⟨c, t, hframe⟩ := m.recordsChange_hookGameFrame clients
  rw [hframe] at hrecord hprogress ⊢
  refine ⟨rfl, rfl, rfl, ?_, rfl, hprogress⟩
  rw [hrecord]
  split_ifs <;> rfl

theorem sameStaging_setClientRssAssetsEnabled (o : SaveOutcome) {id : UInt64} (bEnabled : Bool)
    (hid : id ≠ steamID64) :
    SameStaging steamID64 m (m.setClientRssAssetsEnabled o id bEnabled).2 := by
  have henabled : (m.setClientRssAssetsEnabled o id bEnabled).2.isClientRssAssetsEnabled steamID64 =
      m.isClientRssAssetsEnabled steamID64 :=
    @isClientRssAssetsEnabled_of_not_writes m steamID64 ⟨id, bEnabled, o⟩ fun _ hwrites =>
      hid hwrites.1
  obtain ⟨_, _, _, records, hset, hrecords⟩ :=
    m.setterChange_setClientRssAssetsEnabled o id bEnabled
  have hrecord : records steamID64 = m.clientAddons steamID64 := by
    rcases hrecords with rfl | ⟨-, rfl⟩
    · rfl
    · exact clientAddons_setClient_of_ne _ _ _ hid.symm
  rw [hset] at henabled ⊢
  refine ⟨rfl, rfl, rfl, ?_, henabled, ?_⟩
  · exact congrArg ClientAddonInfo.addonsToLoad hrecord
  · simp only [progress, hrecord]

theorem filterMap_offerTo_eq_nil {out : List Output}
    (hout : ∀ msg, Output.netMessage steamID64 msg ∈ out → offeredAddon msg = none) :
    out.filterMap (Output.offerTo steamID64) = [] := by
  rw [List.filterMap_eq_nil_iff]
  intro o ho
  cases o with
  | netMessage id msg =>
    by_cases hid : id = steamID64
    · subst hid
      simp [Output.offerTo, hout msg ho]
    · simp [Output.offerTo, hid]
  | _ => rfl

theorem stays_of_otherList (hcall : call.event.isVisibleTo steamID64 = false) :
    SameStaging steamID64 m (m.step call).1 ∧
      (m.step call).2.filterMap (Output.offerTo steamID64) = [] := by
  obtain ⟨halike, hunseen⟩ := alikeTo_step_of_other (alikeTo_refl steamID64 m) hcall
  refine ⟨halike.sameStaging, filterMap_offerTo_eq_nil fun msg hmsg => ?_⟩
  have hseen := List.filter_eq_nil_iff.1 hunseen _ hmsg
  simp [Output.seenBy] at hseen

theorem stays_of_otherClient {id : UInt64} (hclient : call.event.client = some id)
    (hid : id ≠ steamID64) :
    SameStaging steamID64 m (m.step call).1 ∧
      (m.step call).2.filterMap (Output.offerTo steamID64) = [] := by
  refine ⟨(m.recordChange_step hclient).sameStaging hid, filterMap_offerTo_eq_nil ?_⟩
  intro msg hmsg
  have hseen := seenBy_step_of_client hclient hid _ hmsg
  simp [Output.seenBy] at hseen

theorem sameStaging_downloadAddon (h : Host) (m : MultiAddonManager) (pszAddon : CString)
    (bImportant bForce : Bool) :
    SameStaging steamID64 m (m.downloadAddon h pszAddon bImportant bForce).2.1 := by
  rcases downloadAddon_cases h m pszAddon bImportant bForce with
    ⟨result, hcall⟩ | ⟨addon, importantDownloads, -, -, -, hcall⟩
  · rw [hcall]
    exact sameStaging_refl steamID64 m
  · rw [hcall]
    exact ⟨rfl, rfl, rfl, rfl, rfl, rfl⟩

theorem sameStaging_onAddonDownloaded (h : Host) (m : MultiAddonManager)
    (publishedFileId : UInt64) :
    SameStaging steamID64 m (m.onAddonDownloaded h publishedFileId).1 := by
  by_cases hid : publishedFileId ∈ m.downloadQueue
  · rw [onAddonDownloaded_of_queued h hid]
    exact ⟨rfl, rfl, rfl, rfl, rfl, rfl⟩
  · rw [onAddonDownloaded_of_foreign h hid]
    exact sameStaging_refl steamID64 m

theorem stays_of_orderly (hcall : m.Orderly steamID64 call)
    (hstage : call.event.stage steamID64 = none) :
    SameStaging steamID64 m (m.step call).1 ∧
      (m.step call).2.filterMap (Output.offerTo steamID64) = [] := by
  obtain ⟨h, event⟩ := call
  have hserver (hside : event.isServerSide = true) :
      (m.step ⟨h, event⟩).2.filterMap (Output.offerTo steamID64) = [] := by
    apply filterMap_offerTo_eq_nil
    intro msg hmsg
    have hout := (m.serverSide_step ⟨h, event⟩ hside).outputs _ hmsg
    simp [Output.isServerSide] at hout
  cases event with
  | replyConnection id | clientConnect id | canHLTVClientConnect id =>
    have hid : id ≠ steamID64 := by simpa [Event.stage] using hstage
    exact stays_of_otherClient rfl hid
  | clientActive id => exact stays_of_otherClient rfl hcall
  | clientDisconnect id => exact ⟨sameStaging_setClient rfl rfl rfl, rfl⟩
  | sendNetMessage id pData =>
    cases pData with
    | signonState pMsg =>
      have hid : id ≠ steamID64 := by simpa [Event.stage] using hstage
      exact stays_of_otherClient rfl hid
    | other =>
      refine ⟨sameStaging_setClient rfl rfl rfl, filterMap_offerTo_eq_nil ?_⟩
      simp [step, hookSendNetMessage, offeredAddon]
  | gameFrame =>
    refine ⟨sameStaging_hookGameFrame h.clients m, filterMap_offerTo_eq_nil fun msg hmsg => ?_⟩
    obtain ⟨id, hdisconnect⟩ := m.outputs_hookGameFrame h.clients _ hmsg
    cases hdisconnect
  | downloadAddon pszAddon bImportant bForce =>
    exact ⟨sameStaging_downloadAddon h m pszAddon bImportant bForce, hserver rfl⟩
  | onAddonDownloaded publishedFileId =>
    exact ⟨sameStaging_onAddonDownloaded h m publishedFileId, hserver rfl⟩
  | addClientAddon pszAddon id bRefresh =>
    have hid : id ≠ steamID64 ∧ id ≠ 0 := hcall
    exact stays_of_otherList (by simp [Event.isVisibleTo, hid])
  | removeClientAddon pszAddon id | clearClientAddons id =>
    have hid : id ≠ steamID64 ∧ id ≠ 0 := hcall
    exact stays_of_otherList (by simp [Event.isVisibleTo, hid])
  | setClientRssAssetsEnabled o id bEnabled =>
    exact ⟨sameStaging_setClientRssAssetsEnabled o bEnabled hcall, rfl⟩
  | setConVars conVars => exact ⟨⟨rfl, rfl, rfl, rfl, rfl, rfl⟩, rfl⟩
  | _ => exact False.elim hcall

/-! ## The hooks of the client -/

section Moves

variable {needed : List CString} {enabled : Bool}

/-- The lists of the client during a run. -/
structure Stages (needed : List CString) (enabled : Bool) (steamID64 : UInt64)
    (m : MultiAddonManager) : Prop where
  dedicatedServer : m.dedicatedServer = true
  full : m.getClientAddons steamID64 true ≠ []
  needed : m.getClientAddons steamID64 false = needed
  enabled : m.isClientRssAssetsEnabled steamID64 = enabled

theorem Stages.credits_eq (h : Stages needed enabled steamID64 m) :
    m.credits steamID64 = fun addon => enabled || !isRssAssetAddon addon := by
  rw [← h.enabled]
  rfl

theorem Stages.setClient (h : Stages needed enabled steamID64 m) {info : ClientAddonInfo}
    (hload : info.addonsToLoad = (m.clientAddons steamID64).addonsToLoad) :
    Stages needed enabled steamID64 (m.setClient steamID64 info) := by
  refine ⟨h.dedicatedServer, ?_, ?_, h.enabled⟩
  · rw [getClientAddons_setClient _ _ hload]
    exact h.full
  · rw [getClientAddons_setClient _ _ hload]
    exact h.needed

def Moves (needed : List CString) (enabled : Bool) (steamID64 : UInt64) (m : MultiAddonManager)
    (part : Delivery.Part) (result : MultiAddonManager × List Output) : Prop :=
  Stages needed enabled steamID64 result.1 ∧
    (result.1.delivery steamID64, result.2.filterMap (Output.offerTo steamID64)) =
      (m.delivery steamID64).move needed (fun addon => enabled || !isRssAssetAddon addon)
        (fun _ => enabled) part

variable (h : Stages needed enabled steamID64 m)

include h

theorem moves_reply {now : ℚ} (hids : ∀ a ∈ needed, a ≠ [])
    (hcache : m.cacheExpired now (m.clientAddons steamID64) = false)
    (hconnection : m.connectionTimedOut now (m.replyInfo now steamID64) = false) :
    Moves needed enabled steamID64 m .reply (m.hookReplyConnection now steamID64) := by
  -- the reply of a round that goes on in time
  let after := (m.hookReplyConnection now steamID64).1
  let r : Round := ⟨now, (after.clientAddons steamID64).lastActiveTime +
    m.conVars.mmExtraAddonsTimeout, 0, ⟨.full, []⟩⟩
  have hok : m.RoundOk steamID64 r := ⟨hcache, hconnection, by simp [r, after], by simp [r]⟩
  obtain ⟨info, hreply, hload, hdownloaded, hpending⟩ := reply_of_ok hok (by rwa [h.needed])
  have hreply' : (m.hookReplyConnection now steamID64).1 = m.setClient steamID64 info := hreply
  have hout :
      (m.hookReplyConnection now steamID64).2.filterMap (Output.offerTo steamID64) = [] := by
    apply filterMap_offerTo_eq_nil
    exact fun msg hmsg => absurd hmsg m.netMessage_notMem_hookReplyConnection
  unfold Moves
  rw [hout, hreply']
  refine ⟨h.setClient hload, ?_⟩
  rw [h.needed] at hpending
  rw [Delivery.move, ← hpending]
  simp [delivery, hdownloaded]

theorem moves_reconnect {now : ℚ}
    (htimely : now - (m.clientAddons steamID64).lastActiveTime ≤
      m.conVars.mmExtraAddonsTimeout) :
    Moves needed enabled steamID64 m .reconnect (m.checkClientAddons now steamID64, []) := by
  have hcredited := m.toFinset_credited steamID64 htimely
  rw [h.credits_eq] at hcredited
  unfold Moves
  dsimp only
  rw [checkClientAddons_of_ne_nil h.dedicatedServer h.full]
  refine ⟨h.setClient rfl, ?_⟩
  rw [Delivery.move, ← hcredited]
  simp [delivery, pendingOption]

theorem moves_offer {now : ℚ} {pMsg : SignonMessage} (hids : ∀ a ∈ needed, a ≠ [])
    (hstate : pMsg.signonState ≠ .changelevel) :
    let (m', pData) := m.hookSendNetMessage now steamID64 (.signonState pMsg)
    Moves needed enabled steamID64 m .offer (m', [.netMessage steamID64 pData]) := by
  have hmissing : (m.delivery steamID64).missing needed = m.remainingAddons steamID64 := by
    rw [remainingAddons_eq_filter, h.needed, Delivery.missing]
    simp [delivery]
  unfold Moves
  cases hneed : m.remainingAddons steamID64 with
  | nil =>
    rw [hookSendNetMessage_of_complete h.dedicatedServer hstate hneed]
    refine ⟨h.setClient rfl, ?_⟩
    rw [hneed] at hmissing
    simp only [Delivery.move, hmissing, h.enabled]
    have hoffer := offeredAddon_of_ne hstate
    by_cases hpending : (m.clientAddons steamID64).currentPendingAddon = []
    · simp [delivery, pendingOption, hpending, Output.offerTo, hoffer, Delivery.received]
    · cases enabled <;>
        simp [delivery, pendingOption, hpending, Output.offerTo, hoffer, Delivery.received,
          List.toFinset_append]
  | cons addon rest =>
    have hne : addon ≠ [] := by
      apply hids addon
      rw [← h.needed]
      rw [remainingAddons_eq_filter] at hneed
      exact List.mem_of_mem_filter (hneed ▸ List.mem_cons_self)
    rw [hookSendNetMessage_of_remaining h.dedicatedServer hstate hneed]
    refine ⟨h.setClient rfl, ?_⟩
    rw [hneed] at hmissing
    simp only [Delivery.move, hmissing]
    simp [delivery, pendingOption, hne, Output.offerTo, offeredAddon]

end Moves

/-! ## Whole runs -/

theorem Stages.of_sameStaging {needed : List CString} {enabled : Bool}
    (h : Stages needed enabled steamID64 m) (hsame : SameStaging steamID64 m m')
    (hdedicated : m'.dedicatedServer = m.dedicatedServer) :
    Stages needed enabled steamID64 m' := by
  refine ⟨hdedicated.trans h.dedicatedServer, ?_, ?_, hsame.enabled.trans h.enabled⟩
  · rw [hsame.getClientAddons]
    exact h.full
  · rw [hsame.getClientAddons]
    exact h.needed

theorem moves_step {needed : List CString} {enabled : Bool}
    (h : Stages needed enabled steamID64 m) (hids : ∀ a ∈ needed, a ≠ [])
    (hcall : m.Orderly steamID64 call) {part : Delivery.Part}
    (hstage : call.event.stage steamID64 = some part) :
    Moves needed enabled steamID64 m part (m.step call) := by
  obtain ⟨host, event⟩ := call
  cases event with
  | replyConnection id =>
    obtain ⟨rfl, rfl⟩ : id = steamID64 ∧ .reply = part := by simpa [Event.stage] using hstage
    obtain ⟨hcache, hconnection⟩ := hcall rfl
    exact moves_reply h hids hcache hconnection
  | clientConnect id | canHLTVClientConnect id =>
    obtain ⟨rfl, rfl⟩ : id = steamID64 ∧ .reconnect = part := by simpa [Event.stage] using hstage
    exact moves_reconnect h (hcall rfl)
  | sendNetMessage id pData =>
    cases pData with
    | other => simp [Event.stage] at hstage
    | signonState pMsg =>
      obtain ⟨rfl, rfl⟩ : id = steamID64 ∧ .offer = part := by simpa [Event.stage] using hstage
      exact moves_offer h hids (hcall rfl)
  | _ => simp [Event.stage] at hstage

theorem simulates_delivery {needed : List CString} (enabled : Bool) (steamID64 : UInt64)
    (hids : ∀ a ∈ needed, a ≠ []) :
    Simulates step
      (Delivery.move needed (fun addon => enabled || !isRssAssetAddon addon) fun _ => enabled)
      (Stages needed enabled steamID64) (Orderly steamID64) (fun m => m.delivery steamID64)
      (fun call => call.event.stage steamID64) (Output.offerTo steamID64) where
  keeps m call h hcall := by
    cases hstage : call.event.stage steamID64 with
    | none => exact h.of_sameStaging (stays_of_orderly hcall hstage).1 (m.dedicatedServer_step call)
    | some part => exact (moves_step h hids hcall hstage).1
  moves m call part h hcall hstage := Prod.mk.inj (moves_step h hids hcall hstage).2
  stays m call h hcall hstage :=
    ⟨(stays_of_orderly hcall hstage).1.delivery, (stays_of_orderly hcall hstage).2⟩

/-- Whatever the server does in between for other clients and with its downloads, `n`
timely rounds of a client offer it addons of its list in order and none twice. If there
are fewer offers than rounds, the client has its whole list and nothing is pending. Only a
dedicated server stages, and only with a full list that is not empty; an opted-out client
never has an allowlisted workshop map credited, so that case is left out. -/
theorem staged_download_interleaved (m : MultiAddonManager) (steamID64 : UInt64)
    (hdedicated : m.dedicatedServer = true) (hfull : m.getClientAddons steamID64 true ≠ [])
    (hids : ∀ a ∈ m.getClientAddons steamID64 false, a ≠ [])
    (hmap : m.isClientRssAssetsEnabled steamID64 = true ∨ ¬ m.mapWithheld steamID64)
    (calls : List Call) (n : ℕ)
    (hcalls : EveryStep (fun pre call => Orderly steamID64 (run step m pre) call) calls)
    (hrounds : calls.filterMap (fun call => call.event.stage steamID64) = Delivery.parts n) :
    let offers := Simulates.shown step (Output.offerTo steamID64) m calls
    offers.Sublist (m.getClientAddons steamID64 false) ∧ offers.Nodup ∧
      (offers.length < n →
        (∀ a ∈ m.getClientAddons steamID64 false,
          a ∈ ((run step m calls).clientAddons steamID64).downloadedAddons) ∧
        ((run step m calls).clientAddons steamID64).currentPendingAddon = []) := by
  intro offers
  have hstages : Stages (m.getClientAddons steamID64 false)
      (m.isClientRssAssetsEnabled steamID64) steamID64 m := ⟨hdedicated, hfull, rfl, rfl⟩
  obtain ⟨-, hrun, hoffers⟩ :=
    (simulates_delivery (m.isClientRssAssetsEnabled steamID64) steamID64 hids).run_eq hstages hcalls
  have hneeded : (m.getClientAddons steamID64 false).Nodup := nodup_getClientAddons false
  have hcredits : ∀ a ∈ ((m.delivery steamID64).round (m.getClientAddons steamID64 false)
      (m.credits steamID64)).1.missing (m.getClientAddons steamID64 false),
        m.credits steamID64 a = true := by
    rcases hmap with henabled | hmap
    · exact fun a _ => by simp [credits, henabled]
    · exact credits_of_missing_round hmap
  rw [hrounds] at hrun hoffers
  obtain ⟨hsublist, hcomplete⟩ := Delivery.offers_parts
    (fun _ => m.isClientRssAssetsEnabled steamID64) hneeded hcredits n
  have hoffers' : offers = _ := hoffers
  rw [hoffers']
  refine ⟨hsublist, hsublist.nodup hneeded, fun hlen => ?_⟩
  obtain ⟨hmissing, hpending⟩ := hcomplete hlen
  have hrun' : (run step m calls).delivery steamID64 = _ := hrun
  have hmissing' : ((run step m calls).delivery steamID64).missing
      (m.getClientAddons steamID64 false) = [] := by
    rw [hrun']
    exact hmissing
  have hpending' : ((run step m calls).delivery steamID64).pending = none := by
    rw [hrun']
    exact hpending
  refine ⟨fun a ha => ?_, pendingOption_eq_none.1 hpending'⟩
  have hnot := List.filter_eq_nil_iff.1 hmissing' a ha
  simpa [delivery] using hnot

theorem staged_download_interleaved_other_client :
    let m : MultiAddonManager := { mountedAddons := [ascii "1"] }
    let calls : List Call := [⟨{}, .replyConnection 7⟩, ⟨{}, .replyConnection 9⟩,
      ⟨{ now := 5 }, .clientConnect 7⟩, ⟨{}, .gameFrame⟩,
      ⟨{ now := 6 }, .sendNetMessage 7 (.signonState ⟨.full, []⟩)⟩]
    ∀ a ∈ m.getClientAddons 7 false,
      a ∈ ((run step m calls).clientAddons 7).downloadedAddons := by
  intro m calls
  have hcalls : EveryStep (fun pre call => Orderly 7 (run step m pre) call) calls := by
    simp only [calls, everyStep_cons, everyStep_nil, and_true]
    exact ⟨fun _ => ⟨by decide +kernel, by decide +kernel⟩, fun hid => absurd hid (by decide),
      fun _ => by decide +kernel, trivial, fun _ => by decide⟩
  obtain ⟨-, -, hcomplete⟩ := staged_download_interleaved m 7 rfl (by decide +kernel)
    (by decide +kernel) (.inl (by decide +kernel)) calls 1 hcalls (by decide +kernel)
  exact (hcomplete (by decide +kernel)).1

end MultiAddonManager
end MultiAddonRss
