import MultiAddonRss.Manager.Connections

/-!
# The refresh of `AddClientAddon`

The loop stops at its first break, and after its first message the pending
addon of the record it looks at makes it stop as well. So it sends to the first
client concerned, or, when the pending addon is the empty string, to all clients
in front of the first one that is already changing level.
-/

namespace MultiAddonRss
namespace MultiAddonManager

variable (m : MultiAddonManager) (pszAddon : CString) (steamID64 : UInt64)

/-- The clients in the way of the loop up to its first break on a map change. -/
def refreshCandidates (clients : List ServerSideClient) : List ServerSideClient :=
  (clients.filter fun pClient => steamID64 = 0 || pClient.steamID64 = steamID64).takeWhile
    fun pClient => pClient.signonState ≠ .changelevel

/-- The clients that the loop sends its message to. -/
def refreshTargets (clients : List ServerSideClient) : List ServerSideClient :=
  if (m.clientAddons steamID64).currentPendingAddon ≠ [] then []
  else
    match m.remainingAddons steamID64 with
    | [] => []
    | addon :: _ =>
      if steamID64 = 0 && addon = [] then refreshCandidates steamID64 clients
      else (refreshCandidates steamID64 clients).take 1

def refreshedPending : CString :=
  (m.remainingAddons steamID64).headD []

def refreshMessage (pClient : ServerSideClient) : Output :=
  .netMessage pClient.steamID64 (.signonState ⟨.changelevel, pszAddon⟩)

variable {m steamID64}

theorem refreshClients_of_pending (hpending : (m.clientAddons steamID64).currentPendingAddon ≠ [])
    (clients : List ServerSideClient) : refreshClients pszAddon steamID64 clients m = (m, []) := by
  induction clients with
  | nil => rfl
  | cons pClient clients ih =>
    have hne : (!List.isEmpty (m.clientAddons steamID64).currentPendingAddon) = true := by
      simpa using hpending
    simp only [refreshClients, hne, if_true, ih]
    split_ifs <;> rfl

theorem refreshClients_of_no_need (hneed : m.remainingAddons steamID64 = [])
    (clients : List ServerSideClient) : refreshClients pszAddon steamID64 clients m = (m, []) := by
  induction clients with
  | nil => rfl
  | cons pClient clients ih =>
    simp only [refreshClients, hneed, ih]
    split_ifs <;> rfl

theorem refreshCandidates_cons (pClient : ServerSideClient) (clients : List ServerSideClient) :
    refreshCandidates steamID64 (pClient :: clients) =
      if steamID64 = 0 || pClient.steamID64 = steamID64 then
        if pClient.signonState = .changelevel then []
        else pClient :: refreshCandidates steamID64 clients
      else refreshCandidates steamID64 clients := by
  by_cases hclient : (steamID64 = 0 || pClient.steamID64 = steamID64) = true
  · by_cases hstate : pClient.signonState = .changelevel <;>
      simp [refreshCandidates, hclient, hstate]
  · simp [refreshCandidates, hclient]

/-- The loop on a record that needs `addon`: an empty one does not stop it. -/
theorem refreshClients_of_need {addon : CString} {rest : List CString}
    (hpending : (m.clientAddons steamID64).currentPendingAddon = [])
    (hneed : m.remainingAddons steamID64 = addon :: rest) (clients : List ServerSideClient) :
    refreshClients pszAddon steamID64 clients m =
      let targets :=
        if steamID64 = 0 && addon = [] then refreshCandidates steamID64 clients
        else (refreshCandidates steamID64 clients).take 1
      (if targets = [] then m
        else m.setClient steamID64
          { m.clientAddons steamID64 with currentPendingAddon := addon },
        targets.map (refreshMessage pszAddon)) := by
  induction clients with
  | nil => simp [refreshClients, refreshCandidates]
  | cons pClient clients ih =>
    rw [refreshClients, refreshCandidates_cons]
    by_cases hclient : (steamID64 = 0 || pClient.steamID64 = steamID64) = true
    swap
    · simpa only [hclient, if_false, Bool.false_eq_true] using ih
    by_cases hstate : pClient.signonState = .changelevel
    · simp [hclient, hstate]
    simp only [hclient, hstate, if_true, if_false, hpending, hneed, List.isEmpty_nil,
      Bool.not_true, Bool.false_eq_true]
    by_cases hid : steamID64 = 0
    swap
    · simp [hid, refreshMessage]
    by_cases haddon : addon = []
    · -- the stored pending addon is empty again, so the loop goes on unchanged
      have hsame : m.setClient steamID64
          { m.clientAddons steamID64 with currentPendingAddon := addon } = m := by
        rw [haddon, ← hpending, setClient_self]
      simp only [hsame, ih, ite_self]
      simp [hid, haddon, refreshMessage]
    · rw [refreshClients_of_pending _ (by simpa using haddon)]
      simp [hid, haddon, refreshMessage]

/-- The loop sends its message to the targets, and stores its pending addon if
there are any. -/
theorem refreshClients_eq (m : MultiAddonManager) (clients : List ServerSideClient) :
    refreshClients pszAddon steamID64 clients m =
      (if m.refreshTargets steamID64 clients = [] then m
        else m.setClient steamID64
          { m.clientAddons steamID64 with currentPendingAddon := m.refreshedPending steamID64 },
        (m.refreshTargets steamID64 clients).map (refreshMessage pszAddon)) := by
  by_cases hpending : (m.clientAddons steamID64).currentPendingAddon = []
  swap
  · rw [refreshClients_of_pending _ hpending]
    simp [refreshTargets, hpending]
  cases hneed : m.remainingAddons steamID64 with
  | nil =>
    rw [refreshClients_of_no_need _ hneed]
    simp [refreshTargets, hpending, hneed]
  | cons addon rest =>
    rw [refreshClients_of_need _ hpending hneed]
    simp [refreshTargets, refreshedPending, hpending, hneed]

end MultiAddonManager
end MultiAddonRss
