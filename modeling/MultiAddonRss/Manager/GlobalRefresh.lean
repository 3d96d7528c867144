import MultiAddonRss.Manager.Offers

/-!
# The refresh for all clients

`AddClientAddon` for the global list is to reload every client that needs an
addon. Its loop looks at the record of the identifier zero in place of the
records of the clients, so it reaches the right clients only where there are none.
-/

namespace MultiAddonRss
namespace MultiAddonManager

/-- A client that is not on its way already and needs an addon. -/
def NeedsReload (m : MultiAddonManager) (pClient : ServerSideClient) : Prop :=
  pClient.signonState ≠ .changelevel ∧
    (m.clientAddons pClient.steamID64).currentPendingAddon = [] ∧
    m.remainingAddons pClient.steamID64 ≠ []

instance decidableNeedsReload (m : MultiAddonManager) (pClient : ServerSideClient) :
    Decidable (m.NeedsReload pClient) :=
  inferInstanceAs (Decidable (_ ∧ _))

/-- The messages go to the clients that need an addon once it is on the list, and
each of these is left with a pending addon. -/
structure ReachesNeedy (m : MultiAddonManager) (h : Host) (pszAddon : CString) : Prop where
  sent : (m.addClientAddon h pszAddon 0 true).2.Perm <|
    (h.clients.filter fun pClient => (m.withClientAddon pszAddon 0).NeedsReload pClient).map
      (refreshMessage pszAddon)
  pending : ∀ pClient ∈ h.clients,
    refreshMessage pszAddon pClient ∈ (m.addClientAddon h pszAddon 0 true).2 →
      ((m.addClientAddon h pszAddon 0 true).1.clientAddons
        pClient.steamID64).currentPendingAddon ≠ []

def StopsAtOnce (m : MultiAddonManager) (h : Host) (pszAddon : CString) : Prop :=
  m.globalsReady = false ∨ (m.clientAddons 0).currentPendingAddon ≠ [] ∨
    (m.withClientAddon pszAddon 0).remainingAddons 0 = [] ∨
    ∀ pClient ∈ h.clients.head?, pClient.signonState = .changelevel

variable {m : MultiAddonManager} {h : Host} {pszAddon : CString}

theorem refreshCandidates_zero_eq_nil {clients : List ServerSideClient} :
    refreshCandidates 0 clients = [] ↔
      ∀ pClient ∈ clients.head?, pClient.signonState = .changelevel := by
  cases clients with
  | nil => simp [refreshCandidates]
  | cons pClient clients =>
    rw [refreshCandidates_cons]
    by_cases hstate : pClient.signonState = .changelevel <;> simp [hstate]

theorem refreshTargets_zero_eq_nil {clients : List ServerSideClient} :
    m.refreshTargets 0 clients = [] ↔
      (m.clientAddons 0).currentPendingAddon ≠ [] ∨ m.remainingAddons 0 = [] ∨
        ∀ pClient ∈ clients.head?, pClient.signonState = .changelevel := by
  rw [← refreshCandidates_zero_eq_nil]
  unfold refreshTargets
  by_cases hpending : (m.clientAddons 0).currentPendingAddon = []
  · cases hneed : m.remainingAddons 0 with
    | nil => simp [hpending]
    | cons addon rest =>
      by_cases haddon : addon = [] <;> simp [hpending, haddon]
  · simp [hpending]

theorem refreshTargets_subset {steamID64 : UInt64} {clients : List ServerSideClient}
    {pClient : ServerSideClient} (hmem : pClient ∈ m.refreshTargets steamID64 clients) :
    pClient ∈ clients := by
  have hcandidate : pClient ∈ refreshCandidates steamID64 clients := by
    unfold refreshTargets at hmem
    split_ifs at hmem
    · simp at hmem
    · split at hmem
      · simp at hmem
      · split_ifs at hmem
        · exact hmem
        · exact List.mem_of_mem_take hmem
  exact List.mem_of_mem_filter ((List.takeWhile_sublist _).subset hcandidate)

theorem stopsAtOnce_iff (hnew : pszAddon ∉ m.globalClientAddons) :
    m.StopsAtOnce h pszAddon ↔ (m.addClientAddon h pszAddon 0 true).2 = [] := by
  have hpending := (clientAddons_withClientAddon (m := m) pszAddon 0 0).2
  cases hready : m.globalsReady with
  | false =>
    rw [addClientAddon_outputs_of_not (by simp [Refreshes, hready])]
    simp [StopsAtOnce, hready]
  | true =>
    have hrefresh : m.Refreshes pszAddon 0 true := ⟨rfl, hready, hnew⟩
    rw [addClientAddon_of_refreshes hrefresh, refreshClients_eq, List.map_eq_nil_iff,
      refreshTargets_zero_eq_nil, hpending]
    simp [StopsAtOnce, hready]

theorem pending_of_message (hids : ∀ pClient ∈ h.clients, pClient.steamID64 ≠ 0) {o : Output}
    (hmsg : o ∈ (m.addClientAddon h pszAddon 0 true).2) :
    ∃ pClient ∈ h.clients, o = refreshMessage pszAddon pClient ∧
      ((m.addClientAddon h pszAddon 0 true).1.clientAddons
          pClient.steamID64).currentPendingAddon =
        (m.clientAddons pClient.steamID64).currentPendingAddon := by
  have hrefresh : m.Refreshes pszAddon 0 true := by
    by_contra hnot
    simp [addClientAddon_outputs_of_not hnot] at hmsg
  have htargets := hmsg
  rw [addClientAddon_of_refreshes hrefresh, refreshClients_eq] at htargets
  obtain ⟨pClient, hmem, rfl⟩ := List.mem_map.1 htargets
  have hclient := refreshTargets_subset hmem
  refine ⟨pClient, hclient, rfl, ?_⟩
  rw [pending_of_target hrefresh hmem, if_neg (hids pClient hclient)]

theorem reaches_needy_iff (m : MultiAddonManager) (h : Host) (pszAddon : CString)
    (hnew : pszAddon ∉ m.globalClientAddons)
    (hids : ∀ pClient ∈ h.clients, pClient.steamID64 ≠ 0) :
    m.ReachesNeedy h pszAddon ↔
      (∀ pClient ∈ h.clients, ¬ (m.withClientAddon pszAddon 0).NeedsReload pClient) ∧
        m.StopsAtOnce h pszAddon := by
  rw [stopsAtOnce_iff hnew]
  constructor
  · intro hreaches
    have hsilent : (m.addClientAddon h pszAddon 0 true).2 = [] := by
      apply List.eq_nil_iff_forall_not_mem.2
      intro o hmsg
      obtain ⟨pClient, hclient, rfl, hsame⟩ := pending_of_message hids hmsg
      apply hreaches.pending pClient hclient hmsg
      -- the record that the message is owed to is the one that the loop passes over
      obtain ⟨needy, hneedy, hid⟩ := List.mem_map.1 (hreaches.sent.mem_iff.1 hmsg)
      have hneeds := (List.mem_filter.1 hneedy).2
      obtain ⟨-, hempty, -⟩ := of_decide_eq_true hneeds
      obtain hid : needy.steamID64 = pClient.steamID64 := by simpa [refreshMessage] using hid
      rw [hsame, ← hempty, hid, (clientAddons_withClientAddon pszAddon 0 _).2]
    refine ⟨fun pClient hclient hneeds => ?_, hsilent⟩
    have hsent := hreaches.sent
    rw [hsilent, List.nil_perm, List.map_eq_nil_iff, List.filter_eq_nil_iff] at hsent
    exact hsent pClient hclient (by simpa using hneeds)
  · rintro ⟨hneeds, hsilent⟩
    constructor
    · rw [hsilent, List.filter_eq_nil_iff.2 (by simpa using hneeds)]
      exact .refl _
    · simp [hsilent]

theorem reaches_needy_iff_loading_client :
    let h : Host := { clients := [⟨76561198000000001, .changelevel⟩] }
    ReachesNeedy { globalsReady := true } h (ascii "1111111111") ↔
      (∀ pClient ∈ h.clients, ¬ (withClientAddon { globalsReady := true }
        (ascii "1111111111") 0).NeedsReload pClient) ∧
        StopsAtOnce { globalsReady := true } h (ascii "1111111111") :=
  reaches_needy_iff _ _ _ (by simp) (by simp)

/-- Both clients need the addon, but only the first one is sent its message. -/
theorem refresh_misses_second_client :
    ¬ ReachesNeedy { globalsReady := true }
      { clients := [⟨76561198000000001, .full⟩, ⟨76561198000000002, .full⟩] }
      (ascii "1111111111") := by
  intro hreaches
  have hsent := hreaches.sent.length_eq
  exact absurd hsent (by decide +kernel)

end MultiAddonManager
end MultiAddonRss
