import MultiAddonRss.Manager.PreferenceRuns

/-!
# Restarts

A restart loads the main file again, with every file operation working. The
save puts no bound on the text that it writes, while the load refuses texts of
more than 1 MiB, so a restart gives the set back as long as its text is not
larger than that.
-/

namespace MultiAddonRss
namespace MultiAddonManager

open Foundations RssPrefs

variable {m : MultiAddonManager}

def restarted (m : MultiAddonManager) : Finset RssSteamId × Bool :=
  let m := m.loadRssAssetOptOutClients {}
  (m.rssAssetOptOutClients, m.rssAssetPreferencesWritable)

theorem restarted_eq_iff {content : CString} {ids : Finset RssSteamId}
    (hmain : m.files.main = some content) :
    m.restarted = (ids, true) ↔
      content.length ≤ maxPreferenceFileSize ∧ parseDocument content = some ids := by
  simp only [restarted, loadRssAssetOptOutClients, hmain, loadMainFile, transferred]
  by_cases hsize : content.length ≤ maxPreferenceFileSize
  · cases hparse : parseDocument content <;> simp [hsize, not_lt.2 hsize]
  · simp [hsize, not_le.1 hsize]

/-- Every call of the run is answered with success. -/
def AllSucceed (m : MultiAddonManager) (calls : List SetterCall) : Prop :=
  EveryStep (fun pre call => (setterStep (run setterStep m pre) call).2 = true) calls

def NothingChanged (m : MultiAddonManager) (calls : List SetterCall) : Prop :=
  EveryStep (fun pre call =>
    (run setterStep m pre).isClientRssAssetsEnabled call.steamID64 = call.bEnabled) calls

theorem setterStep_of_kept {call : SetterCall}
    (hkept : m.isClientRssAssetsEnabled call.steamID64 = call.bEnabled) :
    (m.setterStep call).1 = m := by
  by_cases hid : call.steamID64 = 0
  · simp [setterStep, setClientRssAssetsEnabled_of_refused (.inl hid)]
  cases hw : m.rssAssetPreferencesWritable with
  | false => simp [setterStep_of_closed hw]
  | true => simp [setterStep, setClientRssAssetsEnabled_of_kept hid hw hkept]

theorem run_of_nothingChanged {calls : List SetterCall} (h : m.NothingChanged calls) :
    run setterStep m calls = m := by
  apply run_induction setterStep (fun _ m' => m' = m) h rfl
  rintro pre call hkept hpre
  rw [setterStep_of_kept hkept, hpre]

theorem setterStep_of_met {call : SetterCall} (hmet : (m.setterStep call).2 = true) :
    m.isClientRssAssetsEnabled call.steamID64 = call.bEnabled ∨
      (m.setterStep call).1.files.main =
        some (buildRssAssetPreferencesJson (m.setterStep call).1.rssAssetOptOutClients) := by
  have hstore := m.store_setterStep call
  have hstep : (m.store.step preferenceCodec (m.saveResult call)).2 = true := by
    rw [← hstore, hmet]
  obtain ⟨-, ⟨hkept, -⟩ | ⟨ids, -, hsaved⟩⟩ := WriteThrough.step_of_met hstep
  · simp only [saveResult] at hkept
    split_ifs at hkept with hid h
    exact .inl h
  · rw [← hstore] at hsaved
    have hids : (m.setterStep call).1.rssAssetOptOutClients = ids :=
      congrArg WriteThrough.value hsaved
    rw [hids]
    exact .inr (congrArg WriteThrough.stored hsaved)

theorem run_of_allSucceed {calls : List SetterCall} (h : m.AllSucceed calls) :
    m.NothingChanged calls ∨ (run setterStep m calls).files.main =
      some (buildRssAssetPreferencesJson (run setterStep m calls).rssAssetOptOutClients) := by
  refine run_induction setterStep (fun pre m' => m.NothingChanged pre ∨
    m'.files.main = some (buildRssAssetPreferencesJson m'.rssAssetOptOutClients)) h
    (.inl everyStep_nil) ?_
  rintro pre call hmet hpre
  rcases setterStep_of_met hmet with hkept | hmain
  · rw [setterStep_of_kept hkept]
    exact hpre.imp_left fun h => everyStep_concat.2 ⟨h, hkept⟩
  · exact .inr hmain

theorem main_of_allSucceed {calls : List SetterCall}
    (hmain : m.files.main = some (buildRssAssetPreferencesJson m.rssAssetOptOutClients))
    (h : m.AllSucceed calls) :
    (run setterStep m calls).files.main =
      some (buildRssAssetPreferencesJson (run setterStep m calls).rssAssetOptOutClients) := by
  rcases run_of_allSucceed h with hsame | hwritten
  · rw [run_of_nothingChanged hsame, hmain]
  · exact hwritten

/-! ## Clients that opt out one after the other -/

def optOutCalls (clients : List UInt64) : List SetterCall :=
  clients.map fun steamID64 => { steamID64, bEnabled := false }

theorem setterStep_optOut {steamID64 : UInt64} (hid : steamID64 ≠ 0)
    (hw : m.rssAssetPreferencesWritable = true) :
    (m.setterStep { steamID64, bEnabled := false }).2 = true ∧
      (m.setterStep { steamID64, bEnabled := false }).1.store.writable = true ∧
      (m.setterStep { steamID64, bEnabled := false }).1.rssAssetOptOutClients =
        insert steamID64 m.rssAssetOptOutClients := by
  by_cases hkept : m.isClientRssAssetsEnabled steamID64 = false
  · have hmem : steamID64 ∈ m.rssAssetOptOutClients := by
      simpa [isClientRssAssetsEnabled, hid] using hkept
    simp [setterStep, setClientRssAssetsEnabled_of_kept hid hw hkept, store, hw, hmem]
  · simp [setterStep, setClientRssAssetsEnabled_of_saved hid hw hkept
      (SaveOutcome.succeeds_default _), store, hw, requestedOptOut]

theorem run_optOutCalls (hw : m.rssAssetPreferencesWritable = true) {clients : List UInt64}
    (h0 : 0 ∉ clients) :
    m.AllSucceed (optOutCalls clients) ∧
      (run setterStep m (optOutCalls clients)).rssAssetPreferencesWritable = true ∧
      (run setterStep m (optOutCalls clients)).rssAssetOptOutClients =
        m.rssAssetOptOutClients ∪ clients.toFinset := by
  induction clients using List.reverseRecOn with
  | nil => simp [optOutCalls, AllSucceed, hw]
  | append_singleton clients steamID64 ih =>
    have hid : steamID64 ≠ 0 := by
      rintro rfl
      simp at h0
    obtain ⟨hall, hwritable, hids⟩ := ih fun h => h0 (by simp [h])
    obtain ⟨hmet, hw', hids'⟩ := setterStep_optOut hid hwritable
    have hcalls : optOutCalls (clients ++ [steamID64]) =
        optOutCalls clients ++ [{ steamID64, bEnabled := false }] := by simp [optOutCalls]
    rw [hcalls, AllSucceed, everyStep_concat, run_concat]
    refine ⟨⟨hall, hmet⟩, hw', ?_⟩
    rw [hids', hids]
    ext id
    simp

theorem load_of_no_files :
    let m := ({} : MultiAddonManager).loadRssAssetOptOutClients {}
    m.rssAssetPreferencesWritable = true ∧ m.rssAssetOptOutClients = ∅ ∧
      m.files.main = some (buildRssAssetPreferencesJson ∅) := by
  unfold loadRssAssetOptOutClients
  rcases saveRssAssetOptOutClientsLocked_cases
      { ({} : MultiAddonManager) with
        rssAssetOptOutClients := ∅, rssAssetPreferencesWritable := false } {} ∅ with
    ⟨-, hsave⟩ | ⟨hfail, -⟩
  · simp [hsave]
  · exact absurd (SaveOutcome.succeeds_default _) hfail

/-! ## The size limit -/

/-- After a load that published and calls that all succeeded, a restart gives
the set back exactly when nothing was changed since the main file was read, or
the canonical text of the set fits the load. -/
theorem restarted_iff_text_fits (m : MultiAddonManager) (o : LoadOutcome)
    (calls : List SetterCall)
    (hload : (m.loadRssAssetOptOutClients o).rssAssetPreferencesWritable = true)
    (hcalls : (m.loadRssAssetOptOutClients o).AllSucceed calls) :
    let m' := run setterStep (m.loadRssAssetOptOutClients o) calls
    m'.restarted = (m'.rssAssetOptOutClients, true) ↔
      (buildRssAssetPreferencesJson m'.rssAssetOptOutClients).length ≤ maxPreferenceFileSize ∨
        (m.files.main ≠ none ∧ (m.loadRssAssetOptOutClients o).NothingChanged calls) := by
  intro m'
  have h0 : 0 ∉ m'.rssAssetOptOutClients := (m.agrees_run o calls).valid_value
  -- a main file written by the run holds the canonical text
  have hwritten : m'.files.main = some (buildRssAssetPreferencesJson m'.rssAssetOptOutClients) →
      (m'.restarted = (m'.rssAssetOptOutClients, true) ↔
        (buildRssAssetPreferencesJson m'.rssAssetOptOutClients).length ≤
          maxPreferenceFileSize) := by
    intro hmain
    rw [restarted_eq_iff hmain, and_iff_left (parseDocument_build h0)]
  have hloaded := loaded_load o m
  by_cases hsame : (m.loadRssAssetOptOutClients o).NothingChanged calls
  · have hrun : m' = m.loadRssAssetOptOutClients o := run_of_nothingChanged hsame
    rw [← hrun] at hload hloaded
    generalize hs : m'.store = s at hloaded
    cases hloaded with
    | failed =>
      have hclosed : m'.rssAssetPreferencesWritable = false := congrArg WriteThrough.writable hs
      simp [hclosed] at hload
    | @read content ids hmain hsize hparse =>
      have hids : m'.rssAssetOptOutClients = ids := congrArg WriteThrough.value hs
      have hfile : m'.files.main = some content := congrArg WriteThrough.stored hs
      rw [restarted_eq_iff hfile, hids]
      exact iff_of_true ⟨hsize, hparse⟩ (.inr ⟨by simp [hmain], hsame⟩)
    | @written ids hnone _ =>
      have hids : m'.rssAssetOptOutClients = ids := congrArg WriteThrough.value hs
      have hfile : m'.files.main = some (buildRssAssetPreferencesJson ids) :=
        congrArg WriteThrough.stored hs
      rw [← hids] at hfile
      rw [hwritten hfile]
      simp [hnone]
  · have hmain := (run_of_allSucceed hcalls).resolve_left hsame
    rw [hwritten hmain]
    simp [hsame]

theorem restarted_iff_text_fits_one_client :
    let m := ({} : MultiAddonManager).loadRssAssetOptOutClients {}
    let m' := run setterStep m (optOutCalls [76561197960265729])
    m'.restarted = (m'.rssAssetOptOutClients, true) ↔
      (buildRssAssetPreferencesJson m'.rssAssetOptOutClients).length ≤ maxPreferenceFileSize ∨
        (({} : MultiAddonManager).files.main ≠ none ∧
          m.NothingChanged (optOutCalls [76561197960265729])) :=
  restarted_iff_text_fits {} {} (optOutCalls [76561197960265729]) load_of_no_files.1
    (run_optOutCalls load_of_no_files.1 (by decide)).1

def manyClients : List UInt64 := (List.range 75000).map fun i => UInt64.ofNat (i + 1)

theorem zero_notMem_manyClients : 0 ∉ manyClients := by
  simp only [manyClients, List.mem_map, List.mem_range, not_exists, not_and]
  intro i hi h
  have hnat := congrArg UInt64.toNat h
  simp only [UInt64.toNat_ofNat', UInt64.toNat_zero] at hnat
  omega

theorem card_manyClients : manyClients.toFinset.card = 75000 := by
  rw [List.toFinset_card_of_nodup, manyClients, List.length_map, List.length_range]
  refine List.Nodup.map_on ?_ List.nodup_range
  intro i hi j hj h
  rw [List.mem_range] at hi hj
  have hnat := congrArg UInt64.toNat h
  simp only [UInt64.toNat_ofNat'] at hnat
  omega

/-- On a fresh server, any 75000 opted-out clients are more than a load reads. -/
theorem lost_of_many {clients : List UInt64} (h0 : 0 ∉ clients)
    (hcard : clients.toFinset.card = 75000) :
    let m := ({} : MultiAddonManager).loadRssAssetOptOutClients {}
    let m' := run setterStep m (optOutCalls clients)
    m.AllSucceed (optOutCalls clients) ∧ m'.restarted ≠ (m'.rssAssetOptOutClients, true) := by
  obtain ⟨hw, hempty, hfile⟩ := load_of_no_files
  generalize ({} : MultiAddonManager).loadRssAssetOptOutClients {} = m at hw hempty hfile
  obtain ⟨hall, -, hids⟩ := run_optOutCalls hw h0
  rw [← hempty] at hfile
  refine ⟨hall, fun hrestarted => ?_⟩
  have hmain := main_of_allSucceed hfile hall
  have hsize := ((restarted_eq_iff hmain).1 hrestarted).1
  have hlines := length_build_ge (run setterStep m (optOutCalls clients)).rssAssetOptOutClients
  rw [hids, hempty, Finset.empty_union] at hsize hlines
  rw [hcard] at hlines
  unfold maxPreferenceFileSize at hsize
  omega

/-- When the clients 1 to 75000 opt out on a fresh server, every call succeeds
and a restart loses all of them. -/
theorem restart_loses_many_clients :
    let m := ({} : MultiAddonManager).loadRssAssetOptOutClients {}
    let m' := run setterStep m (optOutCalls manyClients)
    m.AllSucceed (optOutCalls manyClients) ∧
      m'.restarted ≠ (m'.rssAssetOptOutClients, true) :=
  lost_of_many zero_notMem_manyClients card_manyClients

end MultiAddonManager
end MultiAddonRss
