import MultiAddonRss.Manager.CrashSafety

/-!
# Preferences across crashes

The process dies in the middle of a setter call and is started again, any number of
times. What the main file says about a client is the last call that was answered with
success or that died behind its rename.
-/

namespace MultiAddonRss

open Foundations RssPrefs

inductive LifeEvent
  | call (call : SetterCall)
  /-- The process dies in the call after `count` file operations and is started again. -/
  | crash (call : SetterCall) (count : ℕ) (reload : LoadOutcome)

namespace MultiAddonManager

def restartedWith (files : PreferenceFiles) (reload : LoadOutcome) : MultiAddonManager :=
  ({ files := files } : MultiAddonManager).loadRssAssetOptOutClients reload

def lifeStep (m : MultiAddonManager) : LifeEvent → MultiAddonManager × Option Bool
  | .call call => ((m.setterStep call).1, some (m.setterStep call).2)
  | .crash call count reload =>
    (restartedWith (m.files.exec ((m.setterOps call).take count)) reload, none)

/-- The event puts the preference of the client on disk: the call is answered with
success, or it dies behind the rename. -/
def Commits (m : MultiAddonManager) (steamID64 : UInt64) (bEnabled : Bool) : LifeEvent → Prop
  | .call call => m.Writes steamID64 bEnabled call
  | .crash call count _ => call.steamID64 = steamID64 ∧ call.bEnabled = bEnabled ∧
      .rename ∈ (m.setterOps call).take count

def storedPreference (m : MultiAddonManager) (steamID64 : UInt64) : Option Bool :=
  (m.files.main.bind parseDocument).map fun ids => decide (steamID64 ∉ ids)

/-- The main file is complete, and memory agrees with it. -/
structure Durable (m : MultiAddonManager) : Prop where
  agrees : m.store.Agrees preferenceCodec
  whole : ∃ content ids, m.files.main = some content ∧ parseDocument content = some ids

variable {m : MultiAddonManager} {steamID64 : UInt64}

theorem storedPreference_of_main {content : CString} {ids : Finset RssSteamId}
    (hmain : m.files.main = some content) (hparse : parseDocument content = some ids) :
    m.storedPreference steamID64 = some (decide (steamID64 ∉ ids)) := by
  simp [storedPreference, hmain, hparse]

theorem storedPreference_congr {m' : MultiAddonManager} (hmain : m'.files.main = m.files.main) :
    m'.storedPreference steamID64 = m.storedPreference steamID64 := by
  unfold storedPreference
  rw [hmain]

theorem Durable.storedPreference_eq (h : m.Durable)
    (hw : m.rssAssetPreferencesWritable = true) :
    m.storedPreference steamID64 = some (decide (steamID64 ∉ m.rssAssetOptOutClients)) := by
  obtain ⟨content, hmain, hparse⟩ := h.agrees.decodes hw
  exact storedPreference_of_main hmain hparse

theorem durable_load {files : PreferenceFiles} {content : CString} {ids : Finset RssSteamId}
    (o : LoadOutcome) (hmain : files.main = some content)
    (hparse : parseDocument content = some ids) (m : MultiAddonManager) (hm : m.files = files) :
    (m.loadRssAssetOptOutClients o).Durable ∧
      (m.loadRssAssetOptOutClients o).files.main = some content := by
  have hloaded := loaded_load o m
  have hkept : (m.loadRssAssetOptOutClients o).files.main = some content :=
    hloaded.main (by rw [hm, hmain])
  exact ⟨⟨hloaded.agrees, content, ids, hkept, hparse⟩, hkept⟩

/-- An interrupted call has replaced the main file by the requested set, or has left
it alone. -/
theorem main_exec_setterOps (m : MultiAddonManager) (call : SetterCall) (count : ℕ) :
    (.rename ∈ (m.setterOps call).take count ∧ call.steamID64 ≠ 0 ∧
      m.rssAssetPreferencesWritable = true ∧
      (m.files.exec ((m.setterOps call).take count)).main = some
        (buildRssAssetPreferencesJson (m.requestedOptOut call.steamID64 call.bEnabled))) ∨
    (.rename ∉ (m.setterOps call).take count ∧
      (m.files.exec ((m.setterOps call).take count)).main = m.files.main) := by
  rcases m.setterOps_cases call with ⟨hops, -⟩ | ⟨hid, hw, -, hops⟩
  · rw [hops]
    exact .inr ⟨by simp, by simp⟩
  · rw [hops]
    rcases m.files.main_exec_take_saveOps call.outcome
      (buildRssAssetPreferencesJson (m.requestedOptOut call.steamID64 call.bEnabled)) count with
      ⟨hrename, hmain⟩ | ⟨hrename, hmain⟩
    · exact .inl ⟨hrename, hid, hw, hmain⟩
    · exact .inr ⟨hrename, hmain⟩

theorem Durable.parseDocument_requested (h : m.Durable) {call : SetterCall}
    (hid : call.steamID64 ≠ 0) :
    parseDocument (buildRssAssetPreferencesJson
      (m.requestedOptOut call.steamID64 call.bEnabled)) =
        some (m.requestedOptOut call.steamID64 call.bEnabled) := by
  apply parseDocument_build
  have h0 : 0 ∉ m.rssAssetOptOutClients := h.agrees.valid_value
  unfold requestedOptOut
  split_ifs
  · simp [h0]
  · simpa [h0] using Ne.symm hid

theorem Durable.whole_exec (h : m.Durable) (call : SetterCall) (count : ℕ) :
    ∃ content ids, (m.files.exec ((m.setterOps call).take count)).main = some content ∧
      parseDocument content = some ids := by
  rcases m.main_exec_setterOps call count with ⟨-, hid, -, hmain⟩ | ⟨-, hmain⟩
  · exact ⟨_, _, hmain, h.parseDocument_requested hid⟩
  · rw [hmain]
    exact h.whole

theorem durable_setterStep (h : m.Durable) (call : SetterCall) :
    (m.setterStep call).1.Durable := by
  refine ⟨agrees_setterStep h.agrees call, ?_⟩
  have hwhole := h.whole_exec call (m.setterOps call).length
  rwa [List.take_length, ← files_setterStep] at hwhole

theorem durable_crash (h : m.Durable) (call : SetterCall) (count : ℕ) (reload : LoadOutcome) :
    let files := m.files.exec ((m.setterOps call).take count)
    (restartedWith files reload).Durable ∧
      (restartedWith files reload).files.main = files.main := by
  intro files
  obtain ⟨content, ids, hmain, hparse⟩ := h.whole_exec call count
  obtain ⟨hdurable, hkept⟩ := durable_load reload hmain hparse { files := files } rfl
  exact ⟨hdurable, hkept.trans hmain.symm⟩

theorem durable_lifeStep (h : m.Durable) (e : LifeEvent) : (m.lifeStep e).1.Durable := by
  cases e with
  | call call => exact durable_setterStep h call
  | crash call count reload => exact (durable_crash h call count reload).1

/-! ## The stored preference of a client -/

theorem storedPreference_of_requested (h : m.Durable) (call : SetterCall)
    (hid : call.steamID64 ≠ 0) (m' : MultiAddonManager) (steamID64 : UInt64)
    (hmain : m'.files.main = some (buildRssAssetPreferencesJson
      (m.requestedOptOut call.steamID64 call.bEnabled))) :
    m'.storedPreference steamID64 =
      if call.steamID64 = steamID64 then some call.bEnabled
      else some (decide (steamID64 ∉ m.rssAssetOptOutClients)) := by
  rw [storedPreference_of_main hmain (h.parseDocument_requested hid)]
  split_ifs with heq
  · rw [← heq, notMem_requestedOptOut]
  · simp only [mem_requestedOptOut_of_ne (Ne.symm heq)]

theorem storedPreference_call (h : m.Durable) (call : SetterCall) :
    (∀ bEnabled, m.Writes steamID64 bEnabled call →
        (m.setterStep call).1.storedPreference steamID64 = some bEnabled) ∧
      ((∀ bEnabled, ¬ m.Writes steamID64 bEnabled call) →
        (m.setterStep call).1.storedPreference steamID64 = m.storedPreference steamID64) := by
  obtain ⟨id, bEnabled, o⟩ := call
  rcases m.setClientRssAssetsEnabled_cases o id bEnabled with
    ⟨result, hset⟩ | ⟨hchange, hset⟩ | ⟨temp, hset⟩
  · have hstep : m.setterStep ⟨id, bEnabled, o⟩ = (m, result) := by simp [setterStep, hset]
    rw [hstep]
    refine ⟨?_, fun _ => rfl⟩
    -- a call that is met without a change finds its value in place
    intro b hwrites
    have heffect := isClientRssAssetsEnabled_of_writes hwrites
    obtain ⟨rfl, rfl, hresult⟩ := hwrites
    have hid : id ≠ 0 := by
      rintro rfl
      simp [setterStep, setClientRssAssetsEnabled_of_refused] at hresult
    have hw : m.rssAssetPreferencesWritable = true := by
      by_contra hclosed
      rw [setterStep_of_closed (Bool.eq_false_of_not_eq_true hclosed)] at hresult
      exact absurd hresult (by simp)
    rw [h.storedPreference_eq hw]
    rw [hstep] at heffect
    simpa [isClientRssAssetsEnabled, hid] using heffect
  · have hid : id ≠ 0 := by
      rintro rfl
      simp [setClientRssAssetsEnabled_of_refused] at hset
    have hw : m.rssAssetPreferencesWritable = true := by
      by_contra hclosed
      rw [setClientRssAssetsEnabled_of_refused
        (.inr (Bool.eq_false_of_not_eq_true hclosed))] at hset
      simp at hset
    have hstored := storedPreference_of_requested h ⟨id, bEnabled, o⟩ hid
      (m.setterStep ⟨id, bEnabled, o⟩).1 steamID64 (by simp [setterStep, hset])
    rw [hstored]
    constructor
    · rintro b ⟨rfl, rfl, -⟩
      rw [if_pos rfl]
    · intro hkeeps
      have hne : id ≠ steamID64 := fun heq => hkeeps bEnabled ⟨heq, rfl, by simp [setterStep, hset]⟩
      rw [if_neg hne, h.storedPreference_eq hw]
  · refine ⟨?_, fun _ => storedPreference_congr (by simp [setterStep, hset])⟩
    rintro b ⟨-, -, hresult⟩
    simp [setterStep, hset] at hresult

theorem storedPreference_crash (h : m.Durable) (call : SetterCall) (count : ℕ)
    (reload : LoadOutcome) :
    (∀ bEnabled, m.Commits steamID64 bEnabled (.crash call count reload) →
        (m.lifeStep (.crash call count reload)).1.storedPreference steamID64 = some bEnabled) ∧
      ((∀ bEnabled, ¬ m.Commits steamID64 bEnabled (.crash call count reload)) →
        (m.lifeStep (.crash call count reload)).1.storedPreference steamID64 =
          m.storedPreference steamID64) := by
  obtain ⟨-, hkept⟩ := durable_crash h call count reload
  rcases m.main_exec_setterOps call count with ⟨hrename, hid, hw, hmain⟩ | ⟨hrename, hmain⟩
  · have hstored := storedPreference_of_requested h call hid _ steamID64 (hkept.trans hmain)
    rw [lifeStep, hstored]
    constructor
    · rintro b ⟨hclient, rfl, -⟩
      rw [if_pos hclient]
    · intro hkeeps
      have hne : call.steamID64 ≠ steamID64 := fun heq =>
        hkeeps call.bEnabled ⟨heq, rfl, hrename⟩
      rw [if_neg hne, h.storedPreference_eq hw]
  · refine ⟨?_, fun _ => storedPreference_congr (hkept.trans hmain)⟩
    rintro b ⟨-, -, hreached⟩
    exact absurd hreached hrename

theorem storedPreference_lifeStep (h : m.Durable) (e : LifeEvent) :
    (∀ bEnabled, m.Commits steamID64 bEnabled e →
        (m.lifeStep e).1.storedPreference steamID64 = some bEnabled) ∧
      ((∀ bEnabled, ¬ m.Commits steamID64 bEnabled e) →
        (m.lifeStep e).1.storedPreference steamID64 = m.storedPreference steamID64) := by
  cases e with
  | call call => exact storedPreference_call h call
  | crash call count reload => exact storedPreference_crash h call count reload

theorem durable_run (h : m.Durable) (evs : List LifeEvent) : (run lifeStep m evs).Durable :=
  run_invariant lifeStep (fun _ m' => m'.Durable) h (fun _ e hpre => durable_lifeStep hpre e) evs

/-- The server starts, which leaves a main file that parses, and then takes setter calls
and crashes in the middle of such calls, with any failures of the file system. At every
moment the main file is complete, and its set is the one in memory if the latch is
open. The preference it holds of a client is that of the last call that was answered
with success or that died behind its rename, or else the first one. -/
theorem durable_writes (m : MultiAddonManager) (o : LoadOutcome) {content : CString}
    {ids : Finset RssSteamId}
    (hmain : (m.loadRssAssetOptOutClients o).files.main = some content)
    (hparse : parseDocument content = some ids) (steamID64 : UInt64) (evs : List LifeEvent) :
    let m₀ := m.loadRssAssetOptOutClients o
    let m' := run lifeStep m₀ evs
    (∃ content' ids', m'.files.main = some content' ∧ parseDocument content' = some ids' ∧
        (m'.rssAssetPreferencesWritable = true → m'.rssAssetOptOutClients = ids') ∧
        (content'.length ≤ maxPreferenceFileSize → m'.restarted = (ids', true))) ∧
      (∀ bEnabled, Since
          (fun pre e => (run lifeStep m₀ pre).Commits steamID64 bEnabled e)
          (fun pre e => ∀ b, ¬ (run lifeStep m₀ pre).Commits steamID64 b e) evs →
        m'.storedPreference steamID64 = some bEnabled) ∧
      (EveryStep (fun pre e => ∀ b, ¬ (run lifeStep m₀ pre).Commits steamID64 b e) evs →
        m'.storedPreference steamID64 = some (decide (steamID64 ∉ ids))) := by
  intro m₀ m'
  have hdurable : m₀.Durable := ⟨(loaded_load o m).agrees, content, ids, hmain, hparse⟩
  refine ⟨?_, ?_⟩
  · have hend : m'.Durable := durable_run hdurable evs
    obtain ⟨content', ids', hmain', hparse'⟩ := hend.whole
    refine ⟨content', ids', hmain', hparse', fun hw => ?_, fun hsize => ?_⟩
    · obtain ⟨text, hfile, hset⟩ := hend.agrees.decodes hw
      obtain rfl : content' = text := Option.some.inj (hmain'.symm.trans hfile)
      exact (Option.some.inj (hparse'.symm.trans hset)).symm
    · exact (restarted_eq_iff hmain').2 ⟨hsize, hparse'⟩
  · have hvalue (pre : List LifeEvent) : (run lifeStep m₀ pre).storedPreference steamID64 =
        some (((run lifeStep m₀ pre).storedPreference steamID64).getD true) := by
      obtain ⟨_, _, hmain', hparse'⟩ := (durable_run hdurable pre).whole
      rw [storedPreference_of_main hmain' hparse', Option.getD_some]
    obtain ⟨hlast, hnone⟩ := last_write lifeStep m₀
      (fun m' => (m'.storedPreference steamID64).getD true)
      (fun b pre e => (run lifeStep m₀ pre).Commits steamID64 b e)
      (fun pre e b hcommits => by
        rw [(storedPreference_lifeStep (durable_run hdurable pre) e).1 b hcommits,
          Option.getD_some])
      (fun pre e hkeeps => by
        rw [(storedPreference_lifeStep (durable_run hdurable pre) e).2 hkeeps]) evs
    refine ⟨fun b hsince => ?_, fun hkeeps => ?_⟩
    · rw [hvalue evs, hlast b hsince]
    · rw [hvalue evs, hnone hkeeps, storedPreference_of_main hmain hparse, Option.getD_some]

/-- The first start migrates the legacy list, and the server dies while client 7 opts
out. -/
theorem durable_writes_one_crash :
    let m : MultiAddonManager := { files := ⟨none, some (ascii "5\n"), none⟩ }
    ∃ content' ids', (run lifeStep (m.loadRssAssetOptOutClients {})
        [.crash { steamID64 := 7, bEnabled := false } 100 {}]).files.main = some content' ∧
      parseDocument content' = some ids' := by
  intro m
  have hmigrated : (m.loadRssAssetOptOutClients {}).files.main =
      some (buildRssAssetPreferencesJson {5}) := by decide +kernel
  have hparse : parseDocument (buildRssAssetPreferencesJson {5}) = some {5} :=
    parseDocument_build (by simp)
  obtain ⟨⟨content', ids', hmain, hparse', -⟩, -⟩ := durable_writes m {} hmigrated hparse 7
    [.crash { steamID64 := 7, bEnabled := false } 100 {}]
  exact ⟨content', ids', hmain, hparse'⟩

/-! ## The first start -/

/-- The files after a start that dies after some file operations of its load, or after
all of it. -/
def interruptedStart (files : PreferenceFiles) (start : LoadOutcome × Option ℕ) :
    PreferenceFiles :=
  let m : MultiAddonManager := { files := files }
  match start.2 with
  | some count => files.exec ((m.loadOps start.1).take count)
  | none => (m.loadRssAssetOptOutClients start.1).files

theorem interruptedStart_eq_exec (files : PreferenceFiles) (start : LoadOutcome × Option ℕ) :
    ∃ count, interruptedStart files start =
      files.exec ((({ files := files } : MultiAddonManager).loadOps start.1).take count) := by
  obtain ⟨o, count⟩ := start
  cases count with
  | some count => exact ⟨count, rfl⟩
  | none =>
    refine ⟨(({ files := files } : MultiAddonManager).loadOps o).length, ?_⟩
    rw [List.take_length]
    exact files_loadRssAssetOptOutClients _ o

def migrated (files : PreferenceFiles) : Finset RssSteamId × Bool :=
  match files.legacy with
  | none => (∅, true)
  | some content =>
    match collectLegacyLines (readLines (content.length + 1) content) ∅ with
    | none => (∅, false)
    | some parsed => (parsed, true)

theorem restarted_of_main_none (hmain : m.files.main = none) :
    m.restarted = migrated m.files := by
  have hsaves (m : MultiAddonManager) (ids : Finset RssSteamId) :=
    (saveRssAssetOptOutClientsLocked_cases m {} ids).resolve_right
      fun hfailed => hfailed.1 (SaveOutcome.succeeds_default _)
  simp only [restarted, loadRssAssetOptOutClients, hmain, migrated]
  cases hlegacy : m.files.legacy with
  | none => simp only [(hsaves _ _).2, if_true]
  | some content =>
    simp only [loadLegacyFile, transferred, collectLegacyOptOutIds, if_true, Bool.not_true,
      Bool.false_eq_true, if_false]
    cases collectLegacyLines (readLines (content.length + 1) content) ∅ with
    | none => rfl
    | some parsed => simp only [(hsaves _ _).2, if_true]

/-- The load reads the whole legacy list or notices that it does not. -/
def ReadsLegacy (o : LoadOutcome) : Prop :=
  o.shortReadLine = none ∨ o.isOk = false

theorem loadOps_of_main_none {o : LoadOutcome} (hmain : m.files.main = none)
    (hread : ReadsLegacy o) :
    m.loadOps o = [] ∨ (migrated m.files).2 = true ∧ 0 ∉ (migrated m.files).1 ∧
      m.loadOps o = saveOps o.save (buildRssAssetPreferencesJson (migrated m.files).1) := by
  simp only [loadOps, hmain, migrated]
  cases hlegacy : m.files.legacy with
  | none => exact .inr ⟨rfl, by simp, rfl⟩
  | some content =>
    cases hok : o.isOk with
    | false =>
      left
      simp [collectLegacyOptOutIds]
    | true =>
      have hlines : o.shortReadLine = none := hread.resolve_right (by simp [hok])
      simp only [hlines, transferred, collectLegacyOptOutIds, if_true]
      cases hparsed : collectLegacyLines (readLines (content.length + 1) content) ∅ with
      | none =>
        left
        split_ifs <;> rfl
      | some parsed =>
        have h0 : 0 ∉ parsed := zero_notMem_collectLegacyLines hparsed (by simp)
        cases o.openLegacy with
        | false => exact .inl rfl
        | true => exact .inr ⟨rfl, h0, rfl⟩

/-- The files of a server whose first starts were interrupted. -/
structure FirstStarted (files files' : PreferenceFiles) : Prop where
  legacy : files'.legacy = files.legacy
  main : files'.main = none ∨ (migrated files).2 = true ∧ 0 ∉ (migrated files).1 ∧
    files'.main = some (buildRssAssetPreferencesJson (migrated files).1)

theorem firstStarted_interruptedStart {files files' : PreferenceFiles}
    (h : FirstStarted files files') {start : LoadOutcome × Option ℕ}
    (hread : ReadsLegacy start.1) :
    FirstStarted files (interruptedStart files' start) := by
  obtain ⟨count, hexec⟩ := interruptedStart_eq_exec files' start
  rw [hexec]
  refine ⟨h.legacy, ?_⟩
  have hmigrated : migrated files' = migrated files := by
    unfold migrated
    rw [h.legacy]
  rcases h.main with hnone | ⟨hpublished, h0, hwritten⟩
  · rcases loadOps_of_main_none (m := ({ files := files' } : MultiAddonManager)) hnone hread with
      hops | ⟨hpublished, h0, hops⟩
    · rw [hops, List.take_nil]
      exact .inl hnone
    · rw [hops]
      rw [hmigrated] at hpublished h0 ⊢
      rcases files'.main_exec_take_saveOps start.1.save
        (buildRssAssetPreferencesJson (migrated files).1) count with ⟨-, hmain⟩ | ⟨-, hmain⟩
      · exact .inr ⟨hpublished, h0, hmain⟩
      · exact .inl (hmain.trans hnone)
  · right
    simpa [loadOps, hwritten] using ⟨hpublished, h0⟩

/-- A server without a main file dies in its first starts, each after any number of
file operations or behind its load, and with any failures of the save. The next start
publishes what the first one would have published undisturbed, as long as its text fits
the load. -/
theorem first_start_recovers (files : PreferenceFiles) (hmain : files.main = none)
    (starts : List (LoadOutcome × Option ℕ))
    (hread : ∀ start ∈ starts, ReadsLegacy start.1)
    (hsize : (buildRssAssetPreferencesJson (migrated files).1).length ≤ maxPreferenceFileSize) :
    ({ files := starts.foldl interruptedStart files } : MultiAddonManager).restarted =
      ({ files := files } : MultiAddonManager).restarted := by
  have hstarted : FirstStarted files (starts.foldl interruptedStart files) := by
    refine List.foldlRecOn starts interruptedStart ⟨rfl, .inl hmain⟩ ?_
    exact fun files' h start hstart => firstStarted_interruptedStart h (hread start hstart)
  rw [restarted_of_main_none (m := ({ files := files } : MultiAddonManager)) hmain]
  obtain ⟨hlegacy, hnone | ⟨hpublished, h0, hwritten⟩⟩ := hstarted
  · rw [restarted_of_main_none hnone]
    simp only [migrated, hlegacy]
  · rw [← Prod.mk.eta (p := migrated files), hpublished]
    exact (restarted_eq_iff hwritten).2 ⟨hsize, parseDocument_build h0⟩

/-- The first start dies while it writes the temporary file, the second one behind its
load, which could not rename that file. -/
theorem first_start_recovers_two_crashes :
    let files : PreferenceFiles := ⟨none, some (ascii "5\n"), none⟩
    let starts : List (LoadOutcome × Option ℕ) :=
      [({}, some 3), ({ save := { renameFile := false } }, none)]
    ({ files := starts.foldl interruptedStart files } : MultiAddonManager).restarted =
      ({ files := files } : MultiAddonManager).restarted :=
  first_start_recovers ⟨none, some (ascii "5\n"), none⟩ rfl
    [({}, some 3), ({ save := { renameFile := false } }, none)] (by simp [ReadsLegacy])
    (by decide +kernel)

end MultiAddonManager
end MultiAddonRss
