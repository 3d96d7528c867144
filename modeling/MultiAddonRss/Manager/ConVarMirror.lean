import MultiAddonRss.CommaLists
import MultiAddonRss.Foundations.MirroredList
import MultiAddonRss.Manager.Frames

/-!
# ConVars and lists

`mm_extra_addons` and `mm_client_extra_addons` are the texts of the server's
list and of the global list. Each pair is a mirrored list, and every event of
the plugin is one of its operations.
-/

namespace MultiAddonRss

open Foundations

def addonCodec : ListCodec CString CString IsSingleEntry where
  encode := vectorToString
  decode := stringToVector
  decode_encode := stringToVector_vectorToString
  good_of_mem_decode := isSingleEntry_of_mem_stringToVector

def Event.AddsSingleEntry : Event → Prop
  | .addAddon pszAddon _ => IsSingleEntry pszAddon
  | .addClientAddon pszAddon steamID64 _ => steamID64 = 0 → IsSingleEntry pszAddon
  | _ => True

namespace MultiAddonManager

variable (m : MultiAddonManager)

def extraMirror : MirroredList CString CString :=
  ⟨m.extraAddons, m.conVars.mmExtraAddons⟩

def globalMirror : MirroredList CString CString :=
  ⟨m.globalClientAddons, m.conVars.mmClientExtraAddons⟩

/-- Both ConVars read as their lists, and assigning their values changes nothing;
for the server's list the callback refreshes the mounts. -/
structure ConVarsMirror : Prop where
  extraAddons : stringToVector m.conVars.mmExtraAddons = m.extraAddons
  globalClientAddons : stringToVector m.conVars.mmClientExtraAddons = m.globalClientAddons
  assignExtraAddons : ∀ h, m.setExtraAddons h m.conVars.mmExtraAddons = m.refreshAddons h false
  assignClientExtraAddons : m.setClientExtraAddons m.conVars.mmClientExtraAddons = m

theorem conVarsMirror_iff :
    m.ConVarsMirror ↔ m.extraMirror.Mirrors addonCodec ∧ m.globalMirror.Mirrors addonCodec := by
  constructor
  · intro hmirror
    exact ⟨hmirror.extraAddons, hmirror.globalClientAddons⟩
  · rintro ⟨hextra, hglobal⟩
    change stringToVector m.conVars.mmExtraAddons = m.extraAddons at hextra
    change stringToVector m.conVars.mmClientExtraAddons = m.globalClientAddons at hglobal
    exact ⟨hextra, hglobal, fun h => by rw [setExtraAddons, hextra],
      by rw [setClientExtraAddons, hglobal]⟩

/-! ## The operations on the two lists -/

def extraOp : Event → MirrorOp CString CString
  | .setExtraAddons newVal => .assign newVal
  | .addAddon pszAddon _ => if pszAddon ∈ m.extraAddons then .keep else .append pszAddon
  | .removeAddon pszAddon _ => if pszAddon ∈ m.extraAddons then .erase pszAddon else .keep
  | .clearAddons => .clear
  | _ => .keep

def globalOp : Event → MirrorOp CString CString
  | .setClientExtraAddons newVal => .assign newVal
  | .addClientAddon pszAddon steamID64 _ =>
    if steamID64 = 0 ∧ pszAddon ∉ m.globalClientAddons then .append pszAddon else .keep
  | .removeClientAddon pszAddon steamID64 => if steamID64 = 0 then .erase pszAddon else .keep
  | .clearClientAddons steamID64 => if steamID64 = 0 then .clear else .keep
  | _ => .keep

def mirrors : MirroredList CString CString × MirroredList CString CString :=
  (m.extraMirror, m.globalMirror)

variable {m}

theorem MountChange.mirrors {m' : MultiAddonManager} (hchange : m.MountChange m') :
    m'.mirrors = m.mirrors := by
  obtain ⟨_, _, _, _, rfl⟩ := hchange
  rfl

theorem RecordsChange.mirrors {m' : MultiAddonManager} (hchange : m.RecordsChange m') :
    m'.mirrors = m.mirrors := by
  obtain ⟨_, _, rfl⟩ := hchange
  rfl

variable (m) (h : Host)

theorem mirrors_refreshAddons (bReloadMap : Bool) :
    (m.refreshAddons h bReloadMap).1.mirrors = m.mirrors :=
  (m.mountEffect_refreshAddons h bReloadMap).change.mirrors

theorem mirrors_addAddon (pszAddon : CString) (bRefresh : Bool) :
    (m.addAddon h pszAddon bRefresh).2.1.mirrors =
      (m.extraMirror.step addonCodec (m.extraOp (.addAddon pszAddon bRefresh)),
        m.globalMirror) := by
  simp only [addAddon, extraOp]
  split_ifs
  · rfl
  · exact mirrors_refreshAddons _ h false
  · rfl

theorem mirrors_removeAddon (pszAddon : CString) (bRefresh : Bool) :
    (m.removeAddon h pszAddon bRefresh).2.1.mirrors =
      (m.extraMirror.step addonCodec (m.extraOp (.removeAddon pszAddon bRefresh)),
        m.globalMirror) := by
  simp only [removeAddon, extraOp]
  split_ifs
  · exact mirrors_refreshAddons _ h false
  · rfl
  · rfl

theorem SetterChange.mirrors {m m' : MultiAddonManager} {steamID64 : UInt64}
    (hchange : m.SetterChange steamID64 m') : m'.mirrors = m.mirrors := by
  obtain ⟨_, _, _, _, rfl, -⟩ := hchange
  rfl

theorem mirrors_setClientList (steamID64 : UInt64) (addons : List CString) :
    (m.setClientList steamID64 addons).mirrors =
      (m.extraMirror,
        if steamID64 = 0 then ⟨addons, vectorToString addons⟩ else m.globalMirror) := by
  unfold setClientList
  split_ifs <;> rfl

theorem mirrors_addClientAddon (pszAddon : CString) (steamID64 : UInt64) (bRefresh : Bool) :
    (m.addClientAddon h pszAddon steamID64 bRefresh).1.mirrors =
      (m.extraMirror, m.globalMirror.step addonCodec
        (m.globalOp (.addClientAddon pszAddon steamID64 bRefresh))) := by
  have hlist : pszAddon ∉ m.clientList steamID64 →
      (m.setClientList steamID64 (m.clientList steamID64 ++ [pszAddon])).mirrors =
        (m.extraMirror, m.globalMirror.step addonCodec
          (m.globalOp (.addClientAddon pszAddon steamID64 bRefresh))) := by
    intro hnew
    rw [mirrors_setClientList]
    by_cases hid : steamID64 = 0
    · subst hid
      simp only [clientList, if_true] at hnew ⊢
      simp [globalOp, hnew, MirroredList.step, globalMirror, addonCodec]
    · simp [globalOp, hid, MirroredList.step]
  simp only [addClientAddon]
  split_ifs with hmem
  · by_cases hid : steamID64 = 0
    · subst hid
      simp only [clientList, if_true] at hmem
      simp [globalOp, hmem, MirroredList.step, mirrors]
    · simp [globalOp, hid, MirroredList.step, mirrors]
  · rw [(recordsChange_refreshClients _ pszAddon steamID64 h.clients).mirrors]
    exact hlist hmem
  · exact hlist hmem

theorem mirrors_step (call : Call) :
    (m.step call).1.mirrors = (m.extraMirror.step addonCodec (m.extraOp call.event),
      m.globalMirror.step addonCodec (m.globalOp call.event)) := by
  obtain ⟨h, event⟩ := call
  cases event with
  | replyConnection id | clientConnect id | canHLTVClientConnect id | clientDisconnect id
  | clientActive id | sendNetMessage id pData =>
    exact (m.recordChange_step rfl).recordsChange.mirrors
  | gameFrame => exact (m.recordsChange_hookGameFrame h.clients).mirrors
  | startupServer => exact mirrors_refreshAddons _ h false
  | gameServerSteamAPIActivated =>
    simp only [step, hookGameServerSteamAPIActivated]
    split_ifs
    · rfl
    · exact m.mirrors_refreshAddons h true
  | downloadAddon pszAddon bImportant bForce =>
    exact (m.mountEffect_downloadAddon h pszAddon bImportant bForce).change.mirrors
  | onAddonDownloaded publishedFileId =>
    exact (m.mountEffect_onAddonDownloaded h publishedFileId).change.mirrors
  | mountAddon pszAddon => exact (m.mountEffect_mountAddon h pszAddon).change.mirrors
  | unmountAddon pszAddon => exact (m.mountEffect_unmountAddon h pszAddon).change.mirrors
  | addAddon pszAddon bRefresh => exact m.mirrors_addAddon h pszAddon bRefresh
  | removeAddon pszAddon bRefresh => exact m.mirrors_removeAddon h pszAddon bRefresh
  | clearAddons => exact (mountEffect_unmountAll h _ _).change.mirrors
  | refreshAddons bReloadMap => exact m.mirrors_refreshAddons h bReloadMap
  | setExtraAddons newVal => exact mirrors_refreshAddons _ h false
  | addClientAddon pszAddon steamID64 bRefresh =>
    exact m.mirrors_addClientAddon h pszAddon steamID64 bRefresh
  | removeClientAddon pszAddon steamID64 | clearClientAddons steamID64 =>
    simp only [step, removeClientAddon, clearClientAddons, globalOp]
    rw [mirrors_setClientList]
    split_ifs with hid
    · simp [hid, clientList, MirroredList.step, extraOp, globalMirror, addonCodec]
    · rfl
  | setClientRssAssetsEnabled o steamID64 bEnabled =>
    exact (m.setterChange_setClientRssAssetsEnabled o steamID64 bEnabled).mirrors
  | setPendingHostStateRequest request | setClientExtraAddons newVal | setConVars conVars => rfl

variable {m}

/-- From a state that mirrors its lists, a step gets to one exactly when it adds
no entry that the text form does not keep. -/
theorem conVarsMirror_step_iff (hm : m.ConVarsMirror) (call : Call) :
    (m.step call).1.ConVarsMirror ↔ call.event.AddsSingleEntry := by
  obtain ⟨hextra, hglobal⟩ := m.conVarsMirror_iff.1 hm
  have hstep := m.mirrors_step call
  have hextraStep : (m.step call).1.extraMirror = _ := congrArg Prod.fst hstep
  have hglobalStep : (m.step call).1.globalMirror = _ := congrArg Prod.snd hstep
  rw [conVarsMirror_iff, hextraStep, hglobalStep, hextra.step_iff, hglobal.step_iff]
  cases call.event with
  | addAddon pszAddon bRefresh =>
    -- an entry of the list is a single one anyway
    have hmem : pszAddon ∈ m.extraAddons → IsSingleEntry pszAddon := hextra.good_of_mem
    simp only [extraOp, globalOp, Event.AddsSingleEntry]
    split_ifs with hold
    · simp [hmem hold]
    · simp
  | addClientAddon pszAddon steamID64 bRefresh =>
    have hmem : pszAddon ∈ m.globalClientAddons → IsSingleEntry pszAddon := hglobal.good_of_mem
    simp only [extraOp, globalOp, Event.AddsSingleEntry]
    split_ifs with hnew
    · simp [hnew.1]
    · simp only [false_imp_iff, implies_true, true_and, true_iff]
      intro hid
      exact hmem (by simpa [hid] using hnew)
  | removeAddon pszAddon bRefresh =>
    simp only [extraOp, globalOp, Event.AddsSingleEntry]
    split_ifs <;> simp
  | removeClientAddon pszAddon steamID64 | clearClientAddons steamID64 =>
    simp only [extraOp, globalOp, Event.AddsSingleEntry]
    split_ifs <;> simp
  | _ => simp [extraOp, globalOp, Event.AddsSingleEntry]

/-- Along every run, both ConVars mirror their lists exactly when every addon
passed to `AddAddon` or the global `AddClientAddon` is a single entry. -/
theorem conVars_mirror_iff (m : MultiAddonManager) (hm : m.ConVarsMirror) (calls : List Call) :
    EveryStep (fun pre call => (run step m (pre ++ [call])).ConVarsMirror) calls ↔
      EveryStep (fun _ call => call.event.AddsSingleEntry) calls := by
  refine (everyStep_iff_of_agree fun pre call hpre => ?_).symm
  have hinv := run_induction step (fun _ m => m.ConVarsMirror) hpre hm
    fun pre call hsingle hm => (conVarsMirror_step_iff hm call).2 hsingle
  rw [run_concat]
  exact (conVarsMirror_step_iff hinv call).symm

theorem conVars_mirror_iff_fresh_server :
    let calls : List Call := [⟨{}, .addAddon (ascii "1111111111") false⟩,
      ⟨{}, .addClientAddon (ascii "2222222222") 0 false⟩]
    EveryStep (fun pre call => (run step {} (pre ++ [call])).ConVarsMirror) calls ↔
      EveryStep (fun _ call => call.event.AddsSingleEntry) calls :=
  conVars_mirror_iff {} ⟨rfl, rfl, fun _ => rfl, rfl⟩ _

/-- `AddAddon` with two identifiers stores one entry, and its text reads as two. -/
theorem two_ids_break_mirror :
    ¬ EveryStep (fun pre call => (run step {} (pre ++ [call])).ConVarsMirror)
      [⟨{}, .addAddon (ascii "1111111111,2222222222") false⟩] := by
  intro hrun
  have hmirror := hrun [] _ [] rfl
  exact absurd hmirror.extraAddons (by decide +kernel)

end MultiAddonManager
end MultiAddonRss
