import MultiAddonRss.Foundations.WriteThrough
import MultiAddonRss.Manager.Preferences

/-!
# Runs of the preference store

A run loads the preferences and then takes setter calls, with any failures of
the file system. The set in memory, the main file and the latch form a
write-through store whose codec is the canonical text and the strict parser.
-/

namespace MultiAddonRss

open Foundations RssPrefs

def preferenceCodec : Codec (Finset RssSteamId) CString (fun ids => 0 ∉ ids) where
  encode := buildRssAssetPreferencesJson
  decode := parseDocument
  decode_encode := parseDocument_build

theorem zero_notMem_collectLegacyLines {lines : List CString} {parsed ids : Finset RssSteamId}
    (h : collectLegacyLines lines parsed = some ids) (h0 : 0 ∉ parsed) : 0 ∉ ids := by
  induction lines generalizing parsed with
  | nil =>
    obtain rfl : parsed = ids := by simpa [collectLegacyLines] using h
    exact h0
  | cons line lines ih =>
    simp only [collectLegacyLines] at h
    split_ifs at h with hline hdigits
    cases hid : parseDecimalUll (stripLineEnd line) with
    | none => simp [hid] at h
    | some id =>
      simp only [hid] at h
      split_ifs at h with hmem
      have hne : id ≠ 0 := (parseDecimalUll_eq_some_iff.1 hid).2.2.2.2
      exact ih h (by simp [h0, hne.symm])

def SaveOutcome.Succeeds (o : SaveOutcome) (json : CString) : Prop :=
  o.openTemp = true ∧ transferred o.shortWrite json = json ∧ o.isOk = true ∧ o.renameFile = true

instance (o : SaveOutcome) (json : CString) : Decidable (o.Succeeds json) :=
  inferInstanceAs (Decidable (_ ∧ _))

theorem SaveOutcome.succeeds_default (json : CString) : SaveOutcome.Succeeds {} json :=
  ⟨rfl, rfl, rfl, rfl⟩

namespace MultiAddonManager

variable (m : MultiAddonManager)

def store : WriteThrough (Finset RssSteamId) CString :=
  ⟨m.rssAssetOptOutClients, m.files.main, m.rssAssetPreferencesWritable⟩

/-! ## Saving -/

theorem saveRssAssetOptOutClientsLocked_cases (o : SaveOutcome) (ids : Finset RssSteamId) :
    (o.Succeeds (buildRssAssetPreferencesJson ids) ∧
      m.saveRssAssetOptOutClientsLocked o ids = (true, { m with files :=
        { m.files with main := some (buildRssAssetPreferencesJson ids), temp := none } })) ∨
    (¬ o.Succeeds (buildRssAssetPreferencesJson ids) ∧
      ∃ temp, m.saveRssAssetOptOutClientsLocked o ids =
        (false, { m with files := { m.files with temp := temp } })) := by
  generalize hjson : buildRssAssetPreferencesJson ids = json
  have hlen : (transferred o.shortWrite json).length = json.length ↔
      transferred o.shortWrite json = json :=
    ⟨transferred_eq_of_length, fun h => by rw [h]⟩
  simp only [saveRssAssetOptOutClientsLocked, hjson, SaveOutcome.Succeeds]
  by_cases hopen : o.openTemp = true
  · by_cases hwrite : transferred o.shortWrite json = json
    · by_cases hok : o.isOk = true
      · by_cases hrename : o.renameFile = true
        · exact .inl (by simp [hopen, hwrite, hok, hrename])
        · refine .inr ⟨by simp [hrename], if o.removeFile then none else some json, ?_⟩
          cases hremove : o.removeFile <;> simp [hopen, hwrite, hok, hrename]
      · refine .inr ⟨by simp [hok], if o.removeFile then none else some json, ?_⟩
        cases hremove : o.removeFile <;> simp [hopen, hwrite, hok]
    · refine .inr ⟨by simp [hwrite],
        if o.removeFile then none else some (transferred o.shortWrite json), ?_⟩
      cases hremove : o.removeFile <;> simp [hopen, hwrite, hlen]
  · exact .inr ⟨by simp [hopen], m.files.temp, by simp [hopen]⟩

/-! ## Loading -/

/-- The store after a load: unpublished, read from the main file, or written to
a new main file. -/
inductive Loaded : WriteThrough (Finset RssSteamId) CString → Prop
  | failed : Loaded ⟨∅, m.files.main, false⟩
  | read {content : CString} {ids : Finset RssSteamId} : m.files.main = some content →
      content.length ≤ maxPreferenceFileSize → parseDocument content = some ids →
      Loaded ⟨ids, some content, true⟩
  | written {ids : Finset RssSteamId} : m.files.main = none → 0 ∉ ids →
      Loaded ⟨ids, some (buildRssAssetPreferencesJson ids), true⟩

variable {m} (o : LoadOutcome) {content : CString}

theorem loaded_failed (hempty : m.rssAssetOptOutClients = ∅)
    (hclosed : m.rssAssetPreferencesWritable = false) : m.Loaded m.store := by
  simpa only [store, hempty, hclosed] using Loaded.failed (m := m)

theorem loaded_loadMainFile (hmain : m.files.main = some content)
    (hempty : m.rssAssetOptOutClients = ∅) (hclosed : m.rssAssetPreferencesWritable = false) :
    m.Loaded (m.loadMainFile o content).store := by
  have hfailed := loaded_failed hempty hclosed
  simp only [loadMainFile]
  split_ifs with hopen hsize hread
  · exact hfailed
  · exact hfailed
  · exact hfailed
  · rw [transferred_eq_of_length (not_not.1 hread)]
    cases hparse : parseDocument content with
    | none => exact hfailed
    | some parsed =>
      simpa only [store, hmain] using Loaded.read hmain (not_lt.1 hsize) hparse

theorem loaded_loadLegacyFile (hmain : m.files.main = none)
    (hempty : m.rssAssetOptOutClients = ∅) (hclosed : m.rssAssetPreferencesWritable = false) :
    m.Loaded (m.loadLegacyFile o content).store := by
  have hfailed := loaded_failed hempty hclosed
  simp only [loadLegacyFile]
  split_ifs with hopen
  · exact hfailed
  · cases hparsed : collectLegacyOptOutIds
        (transferred o.shortReadLine (readLines (content.length + 1) content)) o.isOk with
    | none => exact hfailed
    | some parsed =>
      have h0 : 0 ∉ parsed := by
        unfold collectLegacyOptOutIds at hparsed
        split_ifs at hparsed
        exact zero_notMem_collectLegacyLines hparsed (by simp)
      rcases saveRssAssetOptOutClientsLocked_cases { m with rssAssetOptOutClients := parsed } o.save
        parsed with ⟨-, hsave⟩ | ⟨-, temp, hsave⟩
      · simp only [hsave, if_true, store]
        exact .written hmain h0
      · simp only [hsave, Bool.false_eq_true, if_false]
        simp only [store, hclosed]
        exact .failed

theorem loaded_load (m : MultiAddonManager) :
    m.Loaded (m.loadRssAssetOptOutClients o).store := by
  let cleared : MultiAddonManager :=
    { m with rssAssetOptOutClients := ∅, rssAssetPreferencesWritable := false }
  have hback : ∀ s, cleared.Loaded s → m.Loaded s := by
    rintro _ (_ | ⟨hmain, hsize, hparse⟩ | ⟨hmain, h0⟩)
    · exact .failed
    · exact .read hmain hsize hparse
    · exact .written hmain h0
  apply hback
  simp only [loadRssAssetOptOutClients]
  cases hmain : m.files.main with
  | some content => exact loaded_loadMainFile o hmain rfl rfl
  | none =>
    cases hlegacy : m.files.legacy with
    | some content => exact loaded_loadLegacyFile o hmain rfl rfl
    | none =>
      rcases cleared.saveRssAssetOptOutClientsLocked_cases o.save ∅ with
        ⟨-, hsave⟩ | ⟨-, temp, hsave⟩
      · unfold cleared at hsave
        simp only [hsave, if_true, store]
        exact .written hmain (by simp)
      · unfold cleared at hsave
        simp only [hsave, Bool.false_eq_true, if_false, store]
        exact .failed

/-- Whatever fails during a load, memory, disk and latch agree after it. -/
theorem Loaded.agrees {s : WriteThrough (Finset RssSteamId) CString} (h : m.Loaded s) :
    s.Agrees preferenceCodec := by
  cases h with
  | failed => exact ⟨by simp, by simp⟩
  | read _ _ hparse => exact ⟨zero_notMem_of_parseDocument hparse, fun _ => ⟨_, rfl, hparse⟩⟩
  | written _ h0 => exact ⟨h0, fun _ => ⟨_, rfl, preferenceCodec.decode_encode h0⟩⟩

theorem Loaded.main {s : WriteThrough (Finset RssSteamId) CString} (h : m.Loaded s)
    (hmain : m.files.main = some content) : s.stored = some content := by
  cases h with
  | failed => exact hmain
  | read hread _ _ => rw [← hread, hmain]
  | written hnone _ => simp [hnone] at hmain

/-! ## Setter calls -/

end MultiAddonManager

structure SetterCall where
  steamID64 : UInt64
  bEnabled : Bool
  outcome : SaveOutcome := {}

namespace MultiAddonManager

variable (m : MultiAddonManager)

def setterStep (call : SetterCall) : MultiAddonManager × Bool :=
  let (result, m) := m.setClientRssAssetsEnabled call.outcome call.steamID64 call.bEnabled
  (m, result)

def requestedOptOut (steamID64 : UInt64) (bEnabled : Bool) : Finset RssSteamId :=
  if bEnabled then m.rssAssetOptOutClients.erase steamID64
  else insert steamID64 m.rssAssetOptOutClients

variable {m} {o : SaveOutcome} {steamID64 : UInt64} {bEnabled : Bool}

theorem latch_eta {latch : Bool} (hw : m.rssAssetPreferencesWritable = latch) :
    { m with rssAssetPreferencesWritable := latch } = m := by
  subst hw
  rfl

theorem setClientRssAssetsEnabled_of_refused
    (h : steamID64 = 0 ∨ m.rssAssetPreferencesWritable = false) :
    m.setClientRssAssetsEnabled o steamID64 bEnabled = (false, m) := by
  rcases h with rfl | hw
  · simp [setClientRssAssetsEnabled]
  · by_cases hid : steamID64 = 0
    · simp [setClientRssAssetsEnabled, hid]
    · simpa [setClientRssAssetsEnabled, applyRssPreferenceChange, hid, hw] using latch_eta hw

theorem setClientRssAssetsEnabled_of_kept (hid : steamID64 ≠ 0)
    (hw : m.rssAssetPreferencesWritable = true)
    (hkept : m.isClientRssAssetsEnabled steamID64 = bEnabled) :
    m.setClientRssAssetsEnabled o steamID64 bEnabled = (true, m) := by
  have hwas : decide (steamID64 ∉ m.rssAssetOptOutClients) = bEnabled := by
    simpa [isClientRssAssetsEnabled, hid] using hkept
  simpa [setClientRssAssetsEnabled, applyRssPreferenceChange, hid, hw, hwas] using latch_eta hw

theorem setClientRssAssetsEnabled_of_saved (hid : steamID64 ≠ 0)
    (hw : m.rssAssetPreferencesWritable = true)
    (hkept : m.isClientRssAssetsEnabled steamID64 ≠ bEnabled)
    (hsave : o.Succeeds (buildRssAssetPreferencesJson (m.requestedOptOut steamID64 bEnabled))) :
    m.setClientRssAssetsEnabled o steamID64 bEnabled =
      (true, { (if bEnabled then m.clearRssAssets steamID64 else m) with
        rssAssetOptOutClients := m.requestedOptOut steamID64 bEnabled
        files := { m.files with
          main := some (buildRssAssetPreferencesJson (m.requestedOptOut steamID64 bEnabled))
          temp := none } }) := by
  have hwas : decide (steamID64 ∉ m.rssAssetOptOutClients) ≠ bEnabled := by
    simpa [isClientRssAssetsEnabled, hid] using hkept
  rcases m.saveRssAssetOptOutClientsLocked_cases o (m.requestedOptOut steamID64 bEnabled) with
    ⟨-, hsaved⟩ | ⟨hfail, -⟩
  · simp only [setClientRssAssetsEnabled, applyRssPreferenceChange, hid, if_false, hw, hwas,
      Bool.not_true, Bool.false_eq_true]
    rw [← requestedOptOut, hsaved]
    cases bEnabled <;> simp [clearRssAssets, setClient, hw]
  · exact absurd hsave hfail

theorem setClientRssAssetsEnabled_of_failed (hid : steamID64 ≠ 0)
    (hw : m.rssAssetPreferencesWritable = true)
    (hkept : m.isClientRssAssetsEnabled steamID64 ≠ bEnabled)
    (hsave : ¬ o.Succeeds (buildRssAssetPreferencesJson (m.requestedOptOut steamID64 bEnabled))) :
    ∃ temp, m.setClientRssAssetsEnabled o steamID64 bEnabled =
      (false, { m with rssAssetPreferencesWritable := false,
                       files := { m.files with temp := temp } }) := by
  have hwas : decide (steamID64 ∉ m.rssAssetOptOutClients) ≠ bEnabled := by
    simpa [isClientRssAssetsEnabled, hid] using hkept
  rcases m.saveRssAssetOptOutClientsLocked_cases o (m.requestedOptOut steamID64 bEnabled) with
    ⟨hsucc, -⟩ | ⟨-, temp, hfailed⟩
  · exact absurd hsucc hsave
  · refine ⟨temp, ?_⟩
    simp only [setClientRssAssetsEnabled, applyRssPreferenceChange, hid, if_false, hw, hwas,
      Bool.not_true, Bool.false_eq_true]
    rw [← requestedOptOut, hfailed]
    by_cases hmem : steamID64 ∈ m.rssAssetOptOutClients
    · obtain rfl : bEnabled = true := by simpa [hmem, eq_comm] using hwas
      simp [requestedOptOut, hmem]
    · obtain rfl : bEnabled = false := by simpa [hmem, eq_comm] using hwas
      simp [requestedOptOut, hmem]

theorem setClientRssAssetsEnabled_of_changed
    (hkept : m.isClientRssAssetsEnabled steamID64 ≠ bEnabled)
    (hresult : (m.setClientRssAssetsEnabled o steamID64 bEnabled).1 = true) :
    m.setClientRssAssetsEnabled o steamID64 bEnabled =
      (true, { (if bEnabled then m.clearRssAssets steamID64 else m) with
        rssAssetOptOutClients := m.requestedOptOut steamID64 bEnabled
        files := { m.files with
          main := some (buildRssAssetPreferencesJson (m.requestedOptOut steamID64 bEnabled))
          temp := none } }) := by
  by_cases hid : steamID64 = 0
  · simp [setClientRssAssetsEnabled_of_refused (.inl hid)] at hresult
  cases hw : m.rssAssetPreferencesWritable with
  | false => simp [setClientRssAssetsEnabled_of_refused (.inr hw)] at hresult
  | true =>
    by_cases hsave : o.Succeeds (buildRssAssetPreferencesJson
        (m.requestedOptOut steamID64 bEnabled))
    · exact setClientRssAssetsEnabled_of_saved hid hw hkept hsave
    · obtain ⟨temp, hfailed⟩ := setClientRssAssetsEnabled_of_failed hid hw hkept hsave
      simp [hfailed] at hresult

theorem setClientRssAssetsEnabled_cases (m : MultiAddonManager) (o : SaveOutcome)
    (steamID64 : UInt64) (bEnabled : Bool) :
    (∃ result, m.setClientRssAssetsEnabled o steamID64 bEnabled = (result, m)) ∨
    (m.isClientRssAssetsEnabled steamID64 ≠ bEnabled ∧
      m.setClientRssAssetsEnabled o steamID64 bEnabled =
        (true, { (if bEnabled then m.clearRssAssets steamID64 else m) with
          rssAssetOptOutClients := m.requestedOptOut steamID64 bEnabled
          files := { m.files with
            main := some (buildRssAssetPreferencesJson (m.requestedOptOut steamID64 bEnabled))
            temp := none } })) ∨
    ∃ temp, m.setClientRssAssetsEnabled o steamID64 bEnabled =
      (false, { m with rssAssetPreferencesWritable := false,
                       files := { m.files with temp := temp } }) := by
  by_cases hid : steamID64 = 0
  · exact .inl ⟨_, setClientRssAssetsEnabled_of_refused (.inl hid)⟩
  cases hw : m.rssAssetPreferencesWritable with
  | false => exact .inl ⟨_, setClientRssAssetsEnabled_of_refused (.inr hw)⟩
  | true =>
    by_cases hkept : m.isClientRssAssetsEnabled steamID64 = bEnabled
    · exact .inl ⟨_, setClientRssAssetsEnabled_of_kept hid hw hkept⟩
    by_cases hsave : o.Succeeds (buildRssAssetPreferencesJson
        (m.requestedOptOut steamID64 bEnabled))
    · exact .inr (.inl ⟨hkept, setClientRssAssetsEnabled_of_saved hid hw hkept hsave⟩)
    · exact .inr (.inr (setClientRssAssetsEnabled_of_failed hid hw hkept hsave))

variable (m)

def saveResult (call : SetterCall) : SaveResult (Finset RssSteamId) :=
  let optOut := m.requestedOptOut call.steamID64 call.bEnabled
  if call.steamID64 = 0 then .refused
  else if m.isClientRssAssetsEnabled call.steamID64 = call.bEnabled then .kept
  else if call.outcome.Succeeds (buildRssAssetPreferencesJson optOut) then .saved optOut
  else .failed

/-- The setter refines the write-through store. -/
theorem store_setterStep (call : SetterCall) :
    ((m.setterStep call).1.store, (m.setterStep call).2) =
      m.store.step preferenceCodec (m.saveResult call) := by
  obtain ⟨id, bEnabled, o⟩ := call
  by_cases hid : id = 0
  · simp only [setterStep, setClientRssAssetsEnabled_of_refused (.inl hid)]
    cases hw : m.rssAssetPreferencesWritable <;>
      simp [saveResult, hid, store, WriteThrough.step, hw]
  cases hw : m.rssAssetPreferencesWritable with
  | false =>
    simp only [setterStep, setClientRssAssetsEnabled_of_refused (.inr hw)]
    simp [store, WriteThrough.step, hw]
  | true =>
    by_cases hkept : m.isClientRssAssetsEnabled id = bEnabled
    · simp only [setterStep, setClientRssAssetsEnabled_of_kept hid hw hkept]
      simp [saveResult, hid, hkept, store, WriteThrough.step, hw]
    by_cases hsave : o.Succeeds (buildRssAssetPreferencesJson (m.requestedOptOut id bEnabled))
    · simp only [setterStep, setClientRssAssetsEnabled_of_saved hid hw hkept hsave]
      cases bEnabled <;> simp [saveResult, hid, hkept, hsave, store, WriteThrough.step, hw,
        clearRssAssets, setClient, preferenceCodec]
    · obtain ⟨temp, hfailed⟩ := setClientRssAssetsEnabled_of_failed hid hw hkept hsave
      simp only [setterStep, hfailed]
      simp [saveResult, hid, hkept, hsave, store, WriteThrough.step, hw]

theorem agrees_setterStep {m : MultiAddonManager} (h : m.store.Agrees preferenceCodec)
    (call : SetterCall) : (m.setterStep call).1.store.Agrees preferenceCodec := by
  rw [show (m.setterStep call).1.store = _ from congrArg Prod.fst (m.store_setterStep call)]
  refine h.step fun ids hids => ?_
  have h0 : 0 ∉ m.rssAssetOptOutClients := h.valid_value
  simp only [saveResult] at hids
  split_ifs at hids with hid
  obtain rfl : m.requestedOptOut call.steamID64 call.bEnabled = ids := by simpa using hids
  unfold requestedOptOut
  split_ifs
  · simp [h0]
  · simpa [h0] using Ne.symm hid

theorem agrees_run (o : LoadOutcome) (calls : List SetterCall) :
    (run setterStep (m.loadRssAssetOptOutClients o) calls).store.Agrees preferenceCodec := by
  refine run_invariant setterStep (fun _ m => m.store.Agrees preferenceCodec)
    (loaded_load o m).agrees ?_ calls
  exact fun _ call h => agrees_setterStep h call

theorem setterStep_of_closed {m : MultiAddonManager}
    (hw : m.rssAssetPreferencesWritable = false) (call : SetterCall) :
    m.setterStep call = (m, false) := by
  simp [setterStep, setClientRssAssetsEnabled_of_refused (.inr hw)]

theorem run_of_closed {m : MultiAddonManager} (hw : m.rssAssetPreferencesWritable = false)
    (calls : List SetterCall) : run setterStep m calls = m := by
  induction calls with
  | nil => rfl
  | cons call calls ih => rw [run_cons, setterStep_of_closed hw, ih]

/-- Along every run of a load and setter calls, an open latch means that the
main file parses to the set in memory, and a closed latch that neither changes
any more. A main file that could not be loaded is kept. -/
theorem preferences_agree (o : LoadOutcome) (calls : List SetterCall) :
    let m' := run setterStep (m.loadRssAssetOptOutClients o) calls
    (m'.rssAssetPreferencesWritable = true → ∃ content, m'.files.main = some content ∧
      ∀ out, parseRssAssetPreferences content out = (true, m'.rssAssetOptOutClients)) ∧
    (m'.rssAssetPreferencesWritable = false → ∀ later,
      (run setterStep m' later).files.main = m'.files.main ∧
        (run setterStep m' later).rssAssetOptOutClients = m'.rssAssetOptOutClients) ∧
    ((m.loadRssAssetOptOutClients o).rssAssetPreferencesWritable = false →
      ∀ content, m.files.main = some content → m'.files.main = some content) := by
  intro m'
  refine ⟨fun hw => ?_, fun hw later => ?_, fun hw content hmain => ?_⟩
  · obtain ⟨content, hmain, hparse⟩ := (m.agrees_run o calls).decodes hw
    have hset : parseDocument content = some m'.rssAssetOptOutClients := hparse
    exact ⟨content, hmain, fun out => by simp [parseRssAssetPreferences, hset]⟩
  · rw [run_of_closed hw]
    exact ⟨rfl, rfl⟩
  · rw [show m' = _ from run_of_closed hw calls]
    exact (loaded_load o m).main hmain

end MultiAddonManager
end MultiAddonRss
