import MultiAddonRss.Manager.CachedClients
import MultiAddonRss.Manager.LastWrite

/-!
# Where the downloaded addons of a client come from

Two hooks credit an addon to a client, and three calls take addons from it again. The
downloaded addons are therefore determined by the history of the client: an addon is
among them exactly if it was credited and not taken since. An asset is credited only to
a client that has not opted out.
-/

namespace MultiAddonRss

open Foundations

namespace MultiAddonManager

/-- The addon is pending, and the call counts it as downloaded: a reconnect does so in
time, or if an opted-out client needs nothing more, and a `SignonState` does so if
nothing is left to download. An opted-out client is not credited with assets. -/
def Credits (m : MultiAddonManager) (steamID64 : UInt64) (addon : CString) (call : Call) : Prop :=
  addon ≠ [] ∧ addon = (m.progress steamID64).2 ∧
    (m.CompletesList steamID64 call ∨
      m.ChecksPending steamID64 call ∧
        (m.isClientRssAssetsEnabled steamID64 = true ∨ isRssAssetAddon addon = false) ∧
        (call.host.now - (m.clientAddons steamID64).lastActiveTime ≤
            m.conVars.mmExtraAddonsTimeout ∨
          m.isClientRssAssetsEnabled steamID64 = false ∧ m.remainingAddons steamID64 = []))

/-- The call forgets all downloaded addons, or the addon is an asset and the call turns
the assets of the client on. -/
def Takes (m : MultiAddonManager) (steamID64 : UInt64) (addon : CString) (call : Call) : Prop :=
  m.Clears steamID64 call ∨ m.TurnsOn steamID64 call ∧ isRssAssetAddon addon = true

variable {m : MultiAddonManager} {steamID64 : UInt64} {addon : CString} {call : Call}

theorem enabled_of_credits (hcredits : m.Credits steamID64 addon call)
    (hasset : isRssAssetAddon addon = true) : m.isClientRssAssetsEnabled steamID64 = true := by
  obtain ⟨-, -, hcomplete | ⟨-, henabled | hno, -⟩⟩ := hcredits
  · exact hcomplete.2.1
  · exact henabled
  · rw [hasset] at hno
    cases hno

/-! ## Only the setter changes who is enabled -/

theorem RecordsChange.rssAssetOptOutClients {m' : MultiAddonManager}
    (hchange : m.RecordsChange m') : m'.rssAssetOptOutClients = m.rssAssetOptOutClients := by
  obtain ⟨_, _, rfl⟩ := hchange
  rfl

theorem rssAssetOptOutClients_step (hcall : ∀ o id bEnabled,
    call.event ≠ .setClientRssAssetsEnabled o id bEnabled) :
    (m.step call).1.rssAssetOptOutClients = m.rssAssetOptOutClients := by
  by_cases hserver : call.event.isServerSide = true
  · exact congrArg ClientSide.rssAssetOptOutClients (m.serverSide_step call hserver).clientSide
  obtain ⟨h, event⟩ := call
  cases event with
  | replyConnection id | clientConnect id | canHLTVClientConnect id | clientDisconnect id
  | clientActive id | sendNetMessage id pData =>
    exact (m.recordChange_step rfl).recordsChange.rssAssetOptOutClients
  | gameFrame => exact (m.recordsChange_hookGameFrame h.clients).rssAssetOptOutClients
  | addClientAddon pszAddon id bRefresh =>
    have hlist (addons : List CString) : (m.setClientList id addons).rssAssetOptOutClients =
        m.rssAssetOptOutClients := by
      unfold setClientList
      split_ifs <;> rfl
    simp only [step, addClientAddon]
    split_ifs
    · rfl
    · exact (recordsChange_refreshClients _ pszAddon id h.clients).rssAssetOptOutClients.trans
        (hlist _)
    · exact hlist _
  | removeClientAddon pszAddon id | clearClientAddons id =>
    simp only [step, removeClientAddon, clearClientAddons, setClientList]
    split_ifs <;> rfl
  | setPendingHostStateRequest request | setClientExtraAddons newVal | setConVars conVars => rfl
  | setClientRssAssetsEnabled o id bEnabled => exact absurd rfl (hcall o id bEnabled)
  | _ => simp [Event.isServerSide] at hserver

theorem downloaded_of_turnsOn (hon : m.TurnsOn steamID64 call) :
    ((m.step call).1.progress steamID64).1 =
      (m.progress steamID64).1.filter fun addon => !isRssAssetAddon addon := by
  obtain ⟨hoff, hafter⟩ := hon
  obtain ⟨h, event⟩ := call
  by_cases hsetter : ∃ o id bEnabled, event = .setClientRssAssetsEnabled o id bEnabled
  · obtain ⟨o, id, bEnabled, rfl⟩ := hsetter
    simp only [step] at hafter ⊢
    rcases m.setClientRssAssetsEnabled_cases o id bEnabled with
      ⟨result, hset⟩ | ⟨hchange, hset⟩ | ⟨temp, hset⟩
    · rw [hset] at hafter
      simp [hoff] at hafter
    · rw [hset] at hafter ⊢
      have h0 : steamID64 ≠ 0 := by
        rintro rfl
        simp at hoff
      simp only [isClientRssAssetsEnabled, h0, decide_false, Bool.false_or, decide_eq_true_eq,
        decide_eq_false_iff_not, not_not] at hoff hafter
      have hid : steamID64 = id := by
        by_contra hne
        exact hafter ((mem_requestedOptOut_of_ne hne bEnabled).2 hoff)
      subst hid
      cases bEnabled with
      | false => simp [requestedOptOut] at hafter
      | true => simp [progress, clearRssAssets]
    · rw [hset] at hafter
      simp [isClientRssAssetsEnabled] at hafter hoff
      exact absurd hoff.2 (hafter.resolve_left hoff.1)
  · have hsame : (m.step ⟨h, event⟩).1.rssAssetOptOutClients = m.rssAssetOptOutClients :=
      rssAssetOptOutClients_step fun o id bEnabled hevent => hsetter ⟨o, id, bEnabled, hevent⟩
    simp only [isClientRssAssetsEnabled, hsame] at hoff hafter
    rw [hoff] at hafter
    cases hafter

/-! ## One step -/

theorem mem_credited_iff {now : ℚ} : addon ∈ m.credited now steamID64 ↔
    addon ≠ [] ∧ addon = (m.progress steamID64).2 ∧
      (m.isClientRssAssetsEnabled steamID64 = true ∨ isRssAssetAddon addon = false) ∧
      (now - (m.clientAddons steamID64).lastActiveTime ≤ m.conVars.mmExtraAddonsTimeout ∨
        m.isClientRssAssetsEnabled steamID64 = false ∧ m.remainingAddons steamID64 = [] ∧
          addon ∉ (m.progress steamID64).1) := by
  simp only [credited, progress]
  by_cases hpending : (m.clientAddons steamID64).currentPendingAddon = []
  · simp only [hpending, if_true, List.not_mem_nil, false_iff]
    rintro ⟨hne, heq, -⟩
    exact hne heq
  by_cases heq : addon = (m.clientAddons steamID64).currentPendingAddon
  · rw [← heq] at hpending ⊢
    cases henabled : m.isClientRssAssetsEnabled steamID64 <;>
      cases hasset : isRssAssetAddon addon <;>
        by_cases htimely : now - (m.clientAddons steamID64).lastActiveTime ≤
            m.conVars.mmExtraAddonsTimeout <;>
          simp_all [not_lt.2, lt_of_not_ge]
  · constructor
    · intro hmem
      exact absurd (by simpa [hpending] using mem_credited_eq hmem) heq
    · rintro ⟨-, heq', -⟩
      exact absurd heq' heq

theorem not_takes_of_event (hclient : call.event = .clientConnect steamID64 ∨
    call.event = .canHLTVClientConnect steamID64 ∨
    ∃ pData, call.event = .sendNetMessage steamID64 pData) :
    ¬ m.Takes steamID64 addon call := by
  rintro (hclears | ⟨hon, -⟩)
  · rcases hclears with ⟨hevent, -⟩ | ⟨hevent, -⟩ <;>
      rcases hclient with hclient | hclient | ⟨pData, hclient⟩ <;> simp [hclient] at hevent
  · have hsame : (m.step call).1.rssAssetOptOutClients = m.rssAssetOptOutClients := by
      apply rssAssetOptOutClients_step
      intro o id bEnabled hevent
      rcases hclient with hclient | hclient | ⟨pData, hclient⟩ <;> simp [hclient] at hevent
    obtain ⟨hoff, hafter⟩ := hon
    simp only [isClientRssAssetsEnabled, hsame] at hoff hafter
    rw [hoff] at hafter
    cases hafter

/-- After a call the client has what the call credits, and what it had and the call does
not take. -/
theorem mem_downloaded_step_iff : addon ∈ ((m.step call).1.progress steamID64).1 ↔
    m.Credits steamID64 addon call ∨
      addon ∈ (m.progress steamID64).1 ∧ ¬ m.Takes steamID64 addon call := by
  by_cases hcheck : m.ChecksPending steamID64 call
  · have hkept : ¬ m.Takes steamID64 addon call :=
      not_takes_of_event (hcheck.2.1.imp_right .inl)
    have hcomplete : ¬ m.CompletesList steamID64 call := by
      rintro ⟨-, -, -, -, pMsg, hevent, -⟩
      rcases hcheck.2.1 with hclient | hclient <;> simp [hclient] at hevent
    rw [m.downloaded_of_checksPending hcheck, List.mem_append, mem_credited_iff]
    simp only [Credits, hcheck, hcomplete, hkept, false_or, true_and, not_false_eq_true, and_true]
    tauto
  by_cases hcomplete : m.CompletesList steamID64 call
  · have ⟨_, _, hpending, _, pMsg, hevent, _⟩ := hcomplete
    have hkept : ¬ m.Takes steamID64 addon call :=
      not_takes_of_event (.inr (.inr ⟨_, hevent⟩))
    rw [m.downloaded_of_completesList hcomplete, List.mem_append, List.mem_singleton]
    simp only [Credits, hcheck, hcomplete, hkept, true_or, and_true, not_false_eq_true]
    constructor
    · rintro (hmem | rfl)
      · exact .inr hmem
      · exact .inl ⟨hpending, rfl⟩
    · rintro (⟨-, heq⟩ | hmem)
      · exact .inr heq
      · exact .inl hmem
  · have hcredits : ¬ m.Credits steamID64 addon call := by
      rintro ⟨-, -, h | h⟩
      · exact hcomplete h
      · exact hcheck h.1
    simp only [hcredits, false_or]
    constructor
    · intro hmem
      refine ⟨(m.downloaded_of_not hcheck hcomplete).subset hmem, ?_⟩
      rintro (hclears | ⟨hon, hasset⟩)
      · simp [downloaded_of_clears hclears] at hmem
      · simp [downloaded_of_turnsOn hon, hasset] at hmem
    · rintro ⟨hmem, hkept⟩
      obtain ⟨hclears, hon⟩ := not_or.1 hkept
      by_cases hturns : m.TurnsOn steamID64 call
      · have hasset : isRssAssetAddon addon = false := by simpa [hturns] using hon
        simp [downloaded_of_turnsOn hturns, hasset, hmem]
      · exact downloaded_subset_step hclears hturns hmem

/-! ## Whole runs -/

/-- After any run, the downloaded addons of a client are those that were credited and
not taken since, and the first ones if nothing took them. Assets were credited while the
client was enabled. -/
theorem downloaded_iff_credited (m : MultiAddonManager) (steamID64 : UInt64) (addon : CString)
    (calls : List Call) :
    (addon ∈ ((run step m calls).clientAddons steamID64).downloadedAddons ↔
      Since (fun pre call => Credits (run step m pre) steamID64 addon call)
          (fun pre call => ¬ Takes (run step m pre) steamID64 addon call) calls ∨
        addon ∈ (m.clientAddons steamID64).downloadedAddons ∧
          EveryStep (fun pre call => ¬ Takes (run step m pre) steamID64 addon call) calls) ∧
      ∀ pre call, isRssAssetAddon addon = true → Credits (run step m pre) steamID64 addon call →
        (run step m pre).isClientRssAssetsEnabled steamID64 = true := by
  constructor
  · exact holds_iff_since step m (fun m => addon ∈ (m.progress steamID64).1) _ _
      (fun _ _ => mem_downloaded_step_iff) calls
  · intro pre call hasset hcredits
    exact enabled_of_credits hcredits hasset

end MultiAddonManager
end MultiAddonRss
