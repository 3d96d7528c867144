import MultiAddonRss.Manager.Frames

/-!
# Only the setter touches the preferences

The opt-out set, the latch and the preference files of the whole plugin are those of the
preference store that gets the setter calls alone.
-/

namespace MultiAddonRss

open Foundations RssPrefs

structure Preferences where
  rssAssetOptOutClients : Finset RssSteamId
  rssAssetPreferencesWritable : Bool
  files : PreferenceFiles

def Preferences.store (p : Preferences) : WriteThrough (Finset RssSteamId) CString :=
  ⟨p.rssAssetOptOutClients, p.files.main, p.rssAssetPreferencesWritable⟩

def Event.setter : Event → Option SetterCall
  | .setClientRssAssetsEnabled o steamID64 bEnabled =>
    some { steamID64 := steamID64, bEnabled := bEnabled, outcome := o }
  | _ => none

namespace MultiAddonManager

def preferences (m : MultiAddonManager) : Preferences :=
  ⟨m.rssAssetOptOutClients, m.rssAssetPreferencesWritable, m.files⟩

variable (m : MultiAddonManager)

/-! ## Other events -/

theorem MountChange.preferences {m m' : MultiAddonManager} (hchange : m.MountChange m') :
    m'.preferences = m.preferences := by
  obtain ⟨_, _, _, _, rfl⟩ := hchange
  rfl

theorem RecordsChange.preferences {m m' : MultiAddonManager} (hchange : m.RecordsChange m') :
    m'.preferences = m.preferences := by
  obtain ⟨_, _, rfl⟩ := hchange
  rfl

theorem preferences_refreshAddons (h : Host) (bReloadMap : Bool) :
    (m.refreshAddons h bReloadMap).1.preferences = m.preferences :=
  (m.mountEffect_refreshAddons h bReloadMap).change.preferences

theorem preferences_setClientList (steamID64 : UInt64) (addons : List CString) :
    (m.setClientList steamID64 addons).preferences = m.preferences := by
  unfold setClientList
  split_ifs <;> rfl

theorem preferences_addAddon (h : Host) (pszAddon : CString) (bRefresh : Bool) :
    (m.addAddon h pszAddon bRefresh).2.1.preferences = m.preferences := by
  unfold addAddon
  split_ifs
  · rfl
  · exact preferences_refreshAddons _ h false
  · rfl

theorem preferences_removeAddon (h : Host) (pszAddon : CString) (bRefresh : Bool) :
    (m.removeAddon h pszAddon bRefresh).2.1.preferences = m.preferences := by
  unfold removeAddon
  split_ifs
  · exact preferences_refreshAddons _ h false
  · rfl
  · rfl

theorem preferences_clearAddons (h : Host) : (m.clearAddons h).preferences = m.preferences := by
  unfold clearAddons
  exact (mountEffect_unmountAll h _ _).change.preferences

theorem preferences_hookGameServerSteamAPIActivated (h : Host) :
    (m.hookGameServerSteamAPIActivated h).1.preferences = m.preferences := by
  unfold hookGameServerSteamAPIActivated
  split_ifs
  · rfl
  · exact preferences_refreshAddons _ h true

theorem preferences_addClientAddon (h : Host) (pszAddon : CString) (steamID64 : UInt64)
    (bRefresh : Bool) :
    (m.addClientAddon h pszAddon steamID64 bRefresh).1.preferences = m.preferences := by
  simp only [addClientAddon]
  split_ifs
  · rfl
  · rw [(recordsChange_refreshClients _ pszAddon steamID64 h.clients).preferences]
    exact m.preferences_setClientList steamID64 _
  · exact m.preferences_setClientList steamID64 _

theorem preferences_step {call : Call} (hcall : call.event.setter = none) :
    (m.step call).1.preferences = m.preferences := by
  obtain ⟨h, event⟩ := call
  cases event with
  | replyConnection id | clientConnect id | canHLTVClientConnect id | clientDisconnect id
  | clientActive id | sendNetMessage id pData =>
    exact (m.recordChange_step rfl).recordsChange.preferences
  | gameFrame => exact (m.recordsChange_hookGameFrame h.clients).preferences
  | startupServer => exact preferences_refreshAddons _ h false
  | gameServerSteamAPIActivated => exact m.preferences_hookGameServerSteamAPIActivated h
  | setPendingHostStateRequest request | setClientExtraAddons newVal | setConVars conVars => rfl
  | downloadAddon pszAddon bImportant bForce =>
    exact (m.mountEffect_downloadAddon h pszAddon bImportant bForce).change.preferences
  | onAddonDownloaded publishedFileId =>
    exact (m.mountEffect_onAddonDownloaded h publishedFileId).change.preferences
  | mountAddon pszAddon => exact (m.mountEffect_mountAddon h pszAddon).change.preferences
  | unmountAddon pszAddon => exact (m.mountEffect_unmountAddon h pszAddon).change.preferences
  | addAddon pszAddon bRefresh => exact m.preferences_addAddon h pszAddon bRefresh
  | removeAddon pszAddon bRefresh => exact m.preferences_removeAddon h pszAddon bRefresh
  | clearAddons => exact m.preferences_clearAddons h
  | refreshAddons bReloadMap => exact m.preferences_refreshAddons h bReloadMap
  | setExtraAddons newVal => exact preferences_refreshAddons _ h false
  | addClientAddon pszAddon steamID64 bRefresh =>
    exact m.preferences_addClientAddon h pszAddon steamID64 bRefresh
  | removeClientAddon pszAddon steamID64 | clearClientAddons steamID64 =>
    exact m.preferences_setClientList steamID64 _
  | setClientRssAssetsEnabled o steamID64 bEnabled => simp [Event.setter] at hcall

/-! ## The setter -/

theorem setterStep_eq {call : Call} {setter : SetterCall}
    (hcall : call.event.setter = some setter) : (m.step call).1 = (m.setterStep setter).1 := by
  obtain ⟨h, event⟩ := call
  cases event <;> simp only [Event.setter, reduceCtorEq, Option.some.injEq] at hcall
  rw [← hcall]
  rfl

theorem exists_saved {m m' : MultiAddonManager} (hfiles : m.files = m'.files) (o : SaveOutcome)
    (ids : Finset RssSteamId) : ∃ bSaved files,
      m.saveRssAssetOptOutClientsLocked o ids = (bSaved, { m with files := files }) ∧
        m'.saveRssAssetOptOutClientsLocked o ids = (bSaved, { m' with files := files }) := by
  cases m
  cases m'
  dsimp only at hfiles
  subst hfiles
  simp only [saveRssAssetOptOutClientsLocked]
  split_ifs <;> exact ⟨_, _, rfl, rfl⟩

theorem preferences_setterStep_congr {m m' : MultiAddonManager}
    (hsame : m.preferences = m'.preferences) (call : SetterCall) :
    (m.setterStep call).1.preferences = (m'.setterStep call).1.preferences := by
  obtain ⟨steamID64, bEnabled, o⟩ := call
  obtain ⟨hset, hlatch, hfiles⟩ := Preferences.mk.inj hsame
  simp only [setterStep, setClientRssAssetsEnabled, applyRssPreferenceChange, hset, hlatch]
  by_cases hid : steamID64 = 0
  · simpa only [hid, if_true] using hsame
  cases hw : m'.rssAssetPreferencesWritable with
  | false =>
    simp only [hid, if_false, Bool.not_false, if_true, preferences, hfiles]
  | true =>
    by_cases hwas : decide (steamID64 ∉ m'.rssAssetOptOutClients) = bEnabled
    · simp only [hid, hwas, if_false, Bool.not_true, Bool.false_eq_true, if_true, preferences,
        hfiles]
    · obtain ⟨bSaved, files, hsave, hsave'⟩ := exists_saved hfiles o
        (if bEnabled then m'.rssAssetOptOutClients.erase steamID64
          else insert steamID64 m'.rssAssetOptOutClients)
      simp only [hid, hwas, if_false, Bool.not_true, Bool.false_eq_true, hsave, hsave']
      cases bSaved with
      | false => rfl
      | true => cases bEnabled <;> rfl

/-! ## Loading -/

theorem preferences_load_congr {m m' : MultiAddonManager} (hfiles : m.files = m'.files)
    (o : LoadOutcome) :
    (m.loadRssAssetOptOutClients o).preferences = (m'.loadRssAssetOptOutClients o).preferences := by
  cases hmain' : m'.files.main with
  | some content =>
    have hmain : m.files.main = some content := by rw [hfiles, hmain']
    simp only [loadRssAssetOptOutClients, hmain, hmain', loadMainFile]
    split_ifs
    · simp only [preferences, hfiles]
    · simp only [preferences, hfiles]
    · simp only [preferences, hfiles]
    · cases parseDocument (transferred o.shortRead content) <;> simp only [preferences, hfiles]
  | none =>
    have hmain : m.files.main = none := by rw [hfiles, hmain']
    cases hlegacy' : m'.files.legacy with
    | some content =>
      have hlegacy : m.files.legacy = some content := by rw [hfiles, hlegacy']
      simp only [loadRssAssetOptOutClients, hmain, hmain', hlegacy, hlegacy', loadLegacyFile]
      split_ifs
      · simp only [preferences, hfiles]
      · cases collectLegacyOptOutIds
            (transferred o.shortReadLine (readLines (content.length + 1) content)) o.isOk with
        | none => simp only [preferences, hfiles]
        | some parsed =>
          have hparsed : ({ m with rssAssetOptOutClients := parsed
                                   rssAssetPreferencesWritable := false } :
              MultiAddonManager).files =
                ({ m' with rssAssetOptOutClients := parsed, rssAssetPreferencesWritable := false } :
                  MultiAddonManager).files := hfiles
          obtain ⟨bSaved, files, hsave, hsave'⟩ := exists_saved hparsed o.save parsed
          simp only [hsave, hsave']
          cases bSaved <;> rfl
    | none =>
      have hlegacy : m.files.legacy = none := by rw [hfiles, hlegacy']
      have hempty : ({ m with rssAssetOptOutClients := ∅, rssAssetPreferencesWritable := false } :
          MultiAddonManager).files =
            ({ m' with rssAssetOptOutClients := ∅, rssAssetPreferencesWritable := false } :
              MultiAddonManager).files := hfiles
      obtain ⟨bSaved, files, hsave, hsave'⟩ := exists_saved hempty o.save ∅
      simp only [loadRssAssetOptOutClients, hmain, hmain', hlegacy, hlegacy', hsave, hsave']
      cases bSaved <;> rfl

end MultiAddonManager
end MultiAddonRss
