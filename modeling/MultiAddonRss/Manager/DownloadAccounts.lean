import MultiAddonRss.Foundations.StepCounts
import MultiAddonRss.Manager.Frames

/-!
# The accounts of the download queue

Whatever starts downloads, `MountAddon`, `RefreshAddons` or `DownloadAddon` itself, adds
them at the end of the queue, and every completion that is accepted takes one off its
front. The important downloads come in waves: a wave starts when the list gets its first
entry, and the completion that empties the list reloads the map.
-/

namespace MultiAddonRss

open Foundations

namespace MultiAddonManager

variable (h : Host) (m : MultiAddonManager)

/-- What an operation that only starts downloads does to the download lists. -/
structure StartsDownloads (result : MultiAddonManager × List Output) : Prop where
  queue : result.1.downloadQueue = m.downloadQueue ++ startedDownloads result.2
  nodup : m.downloadQueue.Nodup → result.1.downloadQueue.Nodup
  important : m.importantDownloads <+: result.1.importantDownloads
  importantNodup : m.importantDownloads.Nodup → result.1.importantDownloads.Nodup
  started : ∀ id ∈ result.1.importantDownloads,
    id ∈ m.importantDownloads ∨ id ∈ startedDownloads result.2

@[simp] theorem startedDownloads_append (out out' : List Output) :
    startedDownloads (out ++ out') = startedDownloads out ++ startedDownloads out' :=
  List.filterMap_append

variable {h m}

theorem StartsDownloads.of_same {result : MultiAddonManager × List Output}
    (hqueue : result.1.downloadQueue = m.downloadQueue)
    (himportant : result.1.importantDownloads = m.importantDownloads)
    (hout : startedDownloads result.2 = []) : m.StartsDownloads result := by
  refine ⟨by rw [hqueue, hout, List.append_nil], fun hnodup => hqueue ▸ hnodup, ?_,
    fun hnodup => himportant ▸ hnodup, fun id hid => .inl (himportant ▸ hid)⟩
  rw [himportant]

theorem StartsDownloads.trans {result result' : MultiAddonManager × List Output}
    (hresult : m.StartsDownloads result) (hresult' : result.1.StartsDownloads result') :
    m.StartsDownloads (result'.1, result.2 ++ result'.2) := by
  refine ⟨?_, fun hnodup => hresult'.nodup (hresult.nodup hnodup),
    hresult.important.trans hresult'.important,
    fun hnodup => hresult'.importantNodup (hresult.importantNodup hnodup), fun id hid => ?_⟩
  · rw [hresult'.queue, hresult.queue, startedDownloads_append, List.append_assoc]
  · rw [startedDownloads_append, List.mem_append]
    rcases hresult'.started id hid with hmem | hmem
    · exact (hresult.started id hmem).imp_right .inl
    · exact .inr (.inr hmem)

variable (h m)

theorem startsDownloads_downloadAddon (pszAddon : CString) (bImportant bForce : Bool) :
    m.StartsDownloads (m.downloadAddon h pszAddon bImportant bForce).2 := by
  simp only [downloadAddon]
  split_ifs with hugc hzero hqueued hinstalled hstarted himportant
  · exact .of_same rfl rfl rfl
  · exact .of_same rfl rfl rfl
  · exact .of_same rfl rfl rfl
  · exact .of_same rfl rfl rfl
  · exact .of_same rfl rfl rfl
  all_goals
    have hqueue (hnodup : m.downloadQueue.Nodup) :
        (m.downloadQueue ++ [h.stringToUint64 pszAddon]).Nodup :=
      List.nodup_append.2 ⟨hnodup, by simp,
        by simpa using fun a ha => ne_of_mem_of_not_mem ha hqueued⟩
  · simp only [Bool.and_eq_true, decide_eq_true_eq] at himportant
    refine ⟨rfl, hqueue, List.prefix_append _ _, fun hnodup => ?_, fun id hid => ?_⟩
    · exact List.nodup_append.2 ⟨hnodup, by simp,
        by simpa using fun a ha => ne_of_mem_of_not_mem ha himportant.2⟩
    · exact List.mem_append.1 hid
  · exact ⟨rfl, hqueue, List.prefix_refl _, id, fun _ hid => .inl hid⟩

theorem startedDownloads_reloadMap : startedDownloads (m.reloadMap h) = [] := by
  unfold reloadMap
  split_ifs <;> rfl

theorem startsDownloads_mountAddon (pszAddon : CString) :
    m.StartsDownloads (m.mountAddon h pszAddon).2 := by
  obtain ⟨result, hdownload, hcall⟩ := m.mountAddon_cases h pszAddon
  have hresult : m.StartsDownloads result := by
    rcases hdownload with rfl | ⟨bImportant, bForce, rfl⟩
    · exact .of_same rfl rfl rfl
    · exact m.startsDownloads_downloadAddon h pszAddon bImportant bForce
  rcases hcall with ⟨-, hcall⟩ | ⟨-, hcall⟩
  · rw [hcall]
    exact ⟨hresult.queue, hresult.nodup, hresult.important, hresult.importantNodup,
      hresult.started⟩
  · rw [hcall]
    exact hresult

theorem startsDownloads_mountAll (addons : List CString) :
    m.StartsDownloads (mountAll h addons m).2 := by
  induction addons generalizing m with
  | nil => exact .of_same rfl rfl rfl
  | cons addon addons ih => exact (m.startsDownloads_mountAddon h addon).trans (ih _)

theorem startsDownloads_unmountAddon (pszAddon : CString) :
    m.StartsDownloads ((m.unmountAddon h pszAddon).2, []) := by
  unfold unmountAddon
  split_ifs
  · exact .of_same rfl rfl rfl
  · cases h.removeSearchPath m.searchPaths ⟨pszAddon, false⟩ with
    | none => exact .of_same rfl rfl rfl
    | some searchPaths => exact .of_same rfl rfl rfl

theorem startsDownloads_unmountAll (count : ℕ) :
    m.StartsDownloads (unmountAll h count m, []) := by
  induction count generalizing m with
  | zero => exact .of_same rfl rfl rfl
  | succ count ih => exact (m.startsDownloads_unmountAddon h _).trans (ih _)

theorem startsDownloads_refreshAddons (bReloadMap : Bool) :
    m.StartsDownloads (m.refreshAddons h bReloadMap) := by
  have hunmount := m.startsDownloads_unmountAll h m.mountedAddons.length
  simp only [refreshAddons]
  generalize unmountAll h m.mountedAddons.length m = unmounted at hunmount ⊢
  have hboth := hunmount.trans (unmounted.startsDownloads_mountAll h unmounted.extraAddons)
  split_ifs
  · exact .of_same rfl rfl rfl
  · have hreload (m : MultiAddonManager) : m.StartsDownloads (m, m.reloadMap h) :=
      .of_same rfl rfl (m.startedDownloads_reloadMap h)
    exact hboth.trans (hreload _)
  · exact hboth

variable {h m} in
theorem StartsDownloads.refreshAddons {m' : MultiAddonManager}
    (hqueue : m'.downloadQueue = m.downloadQueue)
    (himportant : m'.importantDownloads = m.importantDownloads) (bReloadMap : Bool) :
    m.StartsDownloads (m'.refreshAddons h bReloadMap) := by
  have hchange : m.StartsDownloads (m', []) := .of_same hqueue himportant rfl
  exact hchange.trans (m'.startsDownloads_refreshAddons h bReloadMap)

/-! ## All events -/

theorem startsDownloads_hookGameFrame (clients : List ServerSideClient) :
    m.StartsDownloads (hookGameFrame clients m) := by
  obtain ⟨c, t, hchange⟩ := m.recordsChange_hookGameFrame clients
  apply StartsDownloads.of_same
  · rw [hchange]
  · rw [hchange]
  · unfold startedDownloads
    rw [List.filterMap_eq_nil_iff]
    intro o ho
    obtain ⟨id, rfl⟩ := m.outputs_hookGameFrame clients o ho
    rfl

theorem startsDownloads_of_client {call : Call} {id : UInt64}
    (hclient : call.event.client = some id) : m.StartsDownloads (m.step call) := by
  obtain ⟨info, t, hchange⟩ := m.recordChange_step hclient
  have hout : startedDownloads (m.step call).2 = [] := by
    obtain ⟨host, event⟩ := call
    cases event with
    | replyConnection steamID64 =>
      simp only [step, hookReplyConnection]
      split <;> split_ifs <;> rfl
    | sendNetMessage steamID64 pData => rfl
    | clientConnect steamID64 | canHLTVClientConnect steamID64 | clientDisconnect steamID64
    | clientActive steamID64 => rfl
    | _ => simp [Event.client] at hclient
  exact .of_same (by rw [hchange]; rfl) (by rw [hchange]; rfl) hout

theorem startsDownloads_setClientList (steamID64 : UInt64) (addons : List CString) :
    m.StartsDownloads (m.setClientList steamID64 addons, []) := by
  unfold setClientList
  split_ifs <;> exact .of_same rfl rfl rfl

theorem startsDownloads_addClientAddon (pszAddon : CString) (steamID64 : UInt64)
    (bRefresh : Bool) : m.StartsDownloads (m.addClientAddon h pszAddon steamID64 bRefresh) := by
  have hlist := m.startsDownloads_setClientList steamID64 (m.clientList steamID64 ++ [pszAddon])
  simp only [addClientAddon]
  split_ifs
  · exact .of_same rfl rfl rfl
  · refine hlist.trans ?_
    rw [refreshClients_eq]
    apply StartsDownloads.of_same
    · dsimp only
      split_ifs <;> rfl
    · dsimp only
      split_ifs <;> rfl
    · simp [startedDownloads, refreshMessage, Function.comp_def]
  · exact hlist

theorem startsDownloads_step {call : Call} (hcall : ∀ id, call.event ≠ .onAddonDownloaded id) :
    m.StartsDownloads (m.step call) := by
  obtain ⟨h, event⟩ := call
  cases event with
  | replyConnection id | clientConnect id | canHLTVClientConnect id | clientDisconnect id
  | clientActive id | sendNetMessage id pData => exact m.startsDownloads_of_client rfl
  | gameFrame => exact m.startsDownloads_hookGameFrame h.clients
  | startupServer => apply StartsDownloads.refreshAddons <;> rfl
  | gameServerSteamAPIActivated =>
    simp only [step, hookGameServerSteamAPIActivated]
    split_ifs
    · exact .of_same rfl rfl rfl
    · exact m.startsDownloads_refreshAddons h true
  | setPendingHostStateRequest request => exact .of_same rfl rfl rfl
  | downloadAddon pszAddon bImportant bForce =>
    exact m.startsDownloads_downloadAddon h pszAddon bImportant bForce
  | onAddonDownloaded id => exact absurd rfl (hcall id)
  | mountAddon pszAddon => exact m.startsDownloads_mountAddon h pszAddon
  | unmountAddon pszAddon => exact m.startsDownloads_unmountAddon h pszAddon
  | addAddon pszAddon bRefresh =>
    simp only [step, addAddon]
    split_ifs
    · exact .of_same rfl rfl rfl
    · apply StartsDownloads.refreshAddons <;> rfl
    · exact .of_same rfl rfl rfl
  | removeAddon pszAddon bRefresh =>
    simp only [step, removeAddon]
    split_ifs
    · apply StartsDownloads.refreshAddons <;> rfl
    · exact .of_same rfl rfl rfl
    · exact .of_same rfl rfl rfl
  | clearAddons =>
    have hcleared : m.StartsDownloads ({ m with
        extraAddons := [], conVars := { m.conVars with mmExtraAddons := [] } }, []) :=
      .of_same rfl rfl rfl
    exact hcleared.trans (startsDownloads_unmountAll h _ _)
  | refreshAddons bReloadMap => exact m.startsDownloads_refreshAddons h bReloadMap
  | setExtraAddons newVal => apply StartsDownloads.refreshAddons <;> rfl
  | addClientAddon pszAddon id bRefresh =>
    exact m.startsDownloads_addClientAddon h pszAddon id bRefresh
  | removeClientAddon pszAddon id | clearClientAddons id =>
    exact m.startsDownloads_setClientList id _
  | setClientExtraAddons newVal | setConVars conVars => exact .of_same rfl rfl rfl
  | setClientRssAssetsEnabled o id bEnabled =>
    obtain ⟨_, _, _, _, hset, -⟩ := m.setterChange_setClientRssAssetsEnabled o id bEnabled
    exact .of_same (by rw [step, hset]) (by rw [step, hset]) rfl

/-! ## Completions -/

def accepts (m : MultiAddonManager) (call : Call) : Bool :=
  match call.event with
  | .onAddonDownloaded publishedFileId => publishedFileId ∈ m.downloadQueue
  | _ => false

/-- The call is a completion and reloads the map. -/
def reloads (m : MultiAddonManager) (call : Call) : Bool :=
  match call.event with
  | .onAddonDownloaded _ => !(m.step call).2.isEmpty
  | _ => false

/-- The call starts the first of a wave of important downloads. -/
def startsWave (m : MultiAddonManager) (call : Call) : Bool :=
  m.importantDownloads.isEmpty && !(m.step call).1.importantDownloads.isEmpty

/-- A wave of important downloads has started and is not over. -/
def waveOpen (m : MultiAddonManager) : ℕ := if m.importantDownloads.isEmpty then 0 else 1

variable {m} {call : Call}

theorem isEmpty_reloadMap (h : Host) (m : MultiAddonManager) :
    (m.reloadMap h).isEmpty = false := by
  unfold reloadMap
  split_ifs <;> rfl

theorem reloads_onAddonDownloaded (h : Host) (publishedFileId : UInt64) :
    m.reloads ⟨h, .onAddonDownloaded publishedFileId⟩ =
      (!m.importantDownloads.isEmpty &&
        (m.onAddonDownloaded h publishedFileId).1.importantDownloads.isEmpty) := by
  simp only [reloads, step, onAddonDownloaded]
  split_ifs with hqueued hlast
  · obtain ⟨hfound, hempty⟩ : publishedFileId ∈ m.importantDownloads ∧
        (m.importantDownloads.erase publishedFileId).length = 0 := by simpa using hlast
    have hne : m.importantDownloads.isEmpty = false := by
      simpa using List.ne_nil_of_mem hfound
    rw [isEmpty_reloadMap, hne, List.eq_nil_of_length_eq_zero hempty]
    rfl
  · by_cases hfound : publishedFileId ∈ m.importantDownloads
    · have hleft : m.importantDownloads.erase publishedFileId ≠ [] := by
        simpa [hfound, ← List.length_eq_zero_iff] using hlast
      simp [hleft]
    · rw [List.erase_of_not_mem hfound]
      cases m.importantDownloads <;> rfl
  · cases m.importantDownloads <;> rfl

theorem importantDownloads_onAddonDownloaded_sublist (h : Host) (publishedFileId : UInt64) :
    (m.onAddonDownloaded h publishedFileId).1.importantDownloads.Sublist m.importantDownloads := by
  by_cases hqueued : publishedFileId ∈ m.downloadQueue
  · rw [onAddonDownloaded_of_queued h hqueued]
    exact List.erase_sublist
  · rw [onAddonDownloaded_of_foreign h hqueued]

/-- The queue after a call: new downloads at its end, and one off its front if a
completion is accepted. -/
theorem downloadQueue_step :
    (m.step call).1.downloadQueue =
        (m.downloadQueue ++ startedDownloads (m.step call).2).drop (m.accepts call).toNat ∧
      (m.accepts call).toNat ≤ m.downloadQueue.length := by
  by_cases hcall : ∃ id, call.event = .onAddonDownloaded id
  · obtain ⟨h, event⟩ := call
    obtain ⟨id, rfl⟩ := hcall
    have hout : startedDownloads (m.onAddonDownloaded h id).2 = [] := by
      simp only [onAddonDownloaded]
      split_ifs
      · exact startedDownloads_reloadMap h _
      · rfl
      · rfl
    rw [step, hout, List.append_nil]
    by_cases hqueued : id ∈ m.downloadQueue
    · rw [onAddonDownloaded_of_queued h hqueued]
      have hpos : 0 < m.downloadQueue.length := List.length_pos_of_mem hqueued
      simp only [accepts, hqueued, decide_true, Bool.toNat_true, List.drop_one, true_and]
      exact hpos
    · rw [onAddonDownloaded_of_foreign h hqueued]
      simp [accepts, hqueued]
  · have hstep := m.startsDownloads_step (not_exists.1 hcall)
    have hno : m.accepts call = false := by
      obtain ⟨h, event⟩ := call
      cases event with
      | onAddonDownloaded id => exact absurd ⟨id, rfl⟩ hcall
      | _ => rfl
    rw [hno, hstep.queue]
    simp

theorem waveOpen_step : (m.reloads call).toNat + waveOpen (m.step call).1 =
    (m.startsWave call).toNat + m.waveOpen := by
  unfold waveOpen startsWave
  by_cases hcall : ∃ id, call.event = .onAddonDownloaded id
  · obtain ⟨h, event⟩ := call
    obtain ⟨id, rfl⟩ := hcall
    have hsublist := importantDownloads_onAddonDownloaded_sublist (m := m) h id
    rw [reloads_onAddonDownloaded, step]
    cases hbefore : m.importantDownloads with
    | nil =>
      rw [hbefore] at hsublist
      simp [List.sublist_nil.1 hsublist]
    | cons a rest => cases (m.onAddonDownloaded h id).1.importantDownloads <;> simp
  · have hstep := m.startsDownloads_step (not_exists.1 hcall)
    have hno : m.reloads call = false := by
      obtain ⟨h, event⟩ := call
      cases event with
      | onAddonDownloaded id => exact absurd ⟨id, rfl⟩ hcall
      | _ => rfl
    rw [hno]
    cases hbefore : m.importantDownloads with
    | nil => cases (m.step call).1.importantDownloads <;> simp
    | cons a rest =>
      have hafter : (m.step call).1.importantDownloads ≠ [] := by
        intro hnil
        have himportant := hstep.important
        rw [hnil, hbefore] at himportant
        simp at himportant
      simp [hafter]

theorem nodup_step (hqueue : m.downloadQueue.Nodup) (himportant : m.importantDownloads.Nodup) :
    (m.step call).1.downloadQueue.Nodup ∧ (m.step call).1.importantDownloads.Nodup := by
  by_cases hcall : ∃ id, call.event = .onAddonDownloaded id
  · obtain ⟨h, event⟩ := call
    obtain ⟨id, rfl⟩ := hcall
    refine ⟨?_, (importantDownloads_onAddonDownloaded_sublist h id).nodup himportant⟩
    rw [step]
    by_cases hqueued : id ∈ m.downloadQueue
    · rw [onAddonDownloaded_of_queued h hqueued]
      exact (List.tail_sublist _).nodup hqueue
    · rw [onAddonDownloaded_of_foreign h hqueued]
      exact hqueue
  · have hstep := m.startsDownloads_step (not_exists.1 hcall)
    exact ⟨hstep.nodup hqueue, hstep.importantNodup himportant⟩

/-! ## Whole runs -/

/-- In every run, the queue is what was queued and started, in order, without as many
downloads from its front as completions were accepted; no download is in it twice; and
each wave of important downloads reloads the map once, when it ends. -/
theorem download_accounts (m : MultiAddonManager) (hqueue : m.downloadQueue.Nodup)
    (himportant : m.importantDownloads.Nodup) (calls : List Call) :
    let started := startedDownloads (outputs step m calls).flatten
    let accepted := countSteps (fun pre call => accepts (run step m pre) call) calls
    (run step m calls).downloadQueue = (m.downloadQueue ++ started).drop accepted ∧
      accepted ≤ (m.downloadQueue ++ started).length ∧
      ((run step m calls).downloadQueue.Nodup ∧ (run step m calls).importantDownloads.Nodup) ∧
      countSteps (fun pre call => reloads (run step m pre) call) calls +
          (run step m calls).waveOpen =
        countSteps (fun pre call => startsWave (run step m pre) call) calls + m.waveOpen := by
  intro started accepted
  induction calls using List.reverseRecOn with
  | nil =>
    have hdrop : m.downloadQueue = (m.downloadQueue ++ []).drop 0 := by simp
    exact ⟨hdrop, Nat.zero_le _, ⟨hqueue, himportant⟩, rfl⟩
  | append_singleton calls call ih =>
    obtain ⟨hrun, hle, ⟨hqueue', himportant'⟩, hwaves⟩ := ih
    obtain ⟨hstep, haccepts⟩ := @downloadQueue_step (run step m calls) call
    have hwave := @waveOpen_step (run step m calls) call
    have hstarted : started = startedDownloads (outputs step m calls).flatten ++
        startedDownloads (step (run step m calls) call).2 := by
      simp [started, outputs_concat]
    have haccepted : accepted = countSteps (fun pre call => accepts (run step m pre) call) calls +
        (accepts (run step m calls) call).toNat := by
      simp only [accepted, countSteps_concat]
      cases accepts (run step m calls) call <;> rfl
    rw [run_concat, countSteps_concat, countSteps_concat]
    refine ⟨?_, ?_, nodup_step hqueue' himportant', ?_⟩
    · rw [hstep, hrun, hstarted, haccepted, ← List.drop_append_of_le_length hle, List.drop_drop,
        List.append_assoc]
    · rw [hrun, List.length_drop] at haccepts
      rw [haccepted, hstarted, ← List.append_assoc, List.length_append]
      omega
    · cases hreloads : reloads (run step m calls) call <;>
        cases hstarts : startsWave (run step m calls) call <;>
          simp only [hreloads, hstarts, Bool.toNat_true, Bool.toNat_false, if_true, if_false,
            Bool.false_eq_true] at hwave ⊢ <;> omega

theorem download_accounts_two_downloads :
    let m : MultiAddonManager := {}
    let h : Host := { stringToUint64 := fun s => if s = ascii "10" then 10 else 20 }
    let calls : List Call := [⟨h, .downloadAddon (ascii "10") true true⟩,
      ⟨h, .downloadAddon (ascii "20") true true⟩, ⟨h, .onAddonDownloaded 10⟩,
      ⟨h, .onAddonDownloaded 20⟩]
    countSteps (fun pre call => reloads (run step m pre) call) calls +
        (run step m calls).waveOpen =
      countSteps (fun pre call => startsWave (run step m pre) call) calls + m.waveOpen := by
  intro m h calls
  obtain ⟨-, -, -, hwaves⟩ := download_accounts m List.nodup_nil List.nodup_nil calls
  exact hwaves

end MultiAddonManager
end MultiAddonRss
