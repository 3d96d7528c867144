import MultiAddonRss.Foundations.ReplaceFile
import MultiAddonRss.Manager.LastWrite
import MultiAddonRss.Manager.Restart

/-!
# Crashes of the server

The process can die between any two operations on the preference files. The save
replaces the main file through the temporary one, so the next load finds either the
set before the interrupted call or the set after it.
-/

namespace MultiAddonRss

open Foundations RssPrefs

def PreferenceFiles.exec (files : PreferenceFiles) (ops : List (ReplaceOp UInt8)) :
    PreferenceFiles :=
  let replaced := (⟨files.main, files.temp⟩ : ReplacedFile UInt8).exec ops
  { files with main := replaced.main, temp := replaced.temp }

/-- The operations of a save that have an effect on the files. A write stores one byte
after the other. -/
def saveOps (o : SaveOutcome) (json : CString) : List (ReplaceOp UInt8) :=
  let removeTemp : List (ReplaceOp UInt8) := if o.removeFile then [.removeTemp] else []
  if !o.openTemp then []
  else
    let stored := transferred o.shortWrite json
    let bSuccess := stored.length = json.length && o.isOk
    if !bSuccess then ReplacedFile.writeTemp stored ++ removeTemp
    else if !o.renameFile then ReplacedFile.writeTemp stored ++ removeTemp
    else ReplacedFile.writeTemp stored ++ [.rename]

namespace MultiAddonManager

/-- The operations of a setter call, which reach the files through the persistence
callback. -/
def setterOps (m : MultiAddonManager) (call : SetterCall) : List (ReplaceOp UInt8) :=
  if call.steamID64 = 0 then []
  else
    (applyRssPreferenceChange m.rssAssetPreferencesWritable m.rssAssetOptOutClients []
      call.steamID64 call.bEnabled
      (fun members ops => ((m.saveRssAssetOptOutClientsLocked call.outcome members).1,
        ops ++ saveOps call.outcome (buildRssAssetPreferencesJson members))) id).world

/-- The operations of a load, which only saves where there is no main file. -/
def loadOps (m : MultiAddonManager) (o : LoadOutcome) : List (ReplaceOp UInt8) :=
  match m.files.main with
  | some _ => []
  | none =>
    match m.files.legacy with
    | some content =>
      if !o.openLegacy then []
      else
        let lines := transferred o.shortReadLine (readLines (content.length + 1) content)
        match collectLegacyOptOutIds lines o.isOk with
        | none => []
        | some parsed => saveOps o.save (buildRssAssetPreferencesJson parsed)
    | none => saveOps o.save (buildRssAssetPreferencesJson ∅)

end MultiAddonManager

/-! ## Operations and results -/

section SaveOps

variable (o : SaveOutcome) (json : CString)

theorem saveOps_cases :
    (o.Succeeds json ∧ saveOps o json = ReplacedFile.writeTemp json ++ [.rename]) ∨
      (¬ o.Succeeds json ∧ .rename ∉ saveOps o json) := by
  have hlength : (transferred o.shortWrite json).length = json.length ↔
      transferred o.shortWrite json = json :=
    ⟨transferred_eq_of_length, fun h => by rw [h]⟩
  simp only [saveOps, SaveOutcome.Succeeds]
  by_cases hopen : o.openTemp = true
  · by_cases hwrite : transferred o.shortWrite json = json
    · cases hok : o.isOk <;> cases hrename : o.renameFile <;> cases hremove : o.removeFile <;>
        simp [hopen, hwrite, ReplacedFile.writeTemp]
    · cases hremove : o.removeFile <;>
        simp [hopen, hwrite, hlength, ReplacedFile.writeTemp]
  · simp [hopen]

end SaveOps

namespace PreferenceFiles

variable (files : PreferenceFiles)

@[simp] theorem exec_nil : files.exec [] = files := rfl

theorem main_exec_of_notMem {ops : List (ReplaceOp UInt8)} (hops : .rename ∉ ops) :
    (files.exec ops).main = files.main := by
  unfold exec
  exact ReplacedFile.main_exec_of_notMem hops

/-- Where a save is interrupted, the main file holds the new text if the rename was
reached, and its old text otherwise. -/
theorem main_exec_take_saveOps (o : SaveOutcome) (json : CString) (count : ℕ) :
    (.rename ∈ (saveOps o json).take count ∧
      (files.exec ((saveOps o json).take count)).main = some json) ∨
    (.rename ∉ (saveOps o json).take count ∧
      (files.exec ((saveOps o json).take count)).main = files.main) := by
  rcases saveOps_cases o json with ⟨-, hops⟩ | ⟨-, hops⟩
  · rw [hops]
    rcases ReplacedFile.main_exec_take_replace (s := ⟨files.main, files.temp⟩) json count with
      ⟨hrename, hexec⟩ | ⟨hrename, hmain⟩
    · refine .inl ⟨hrename, ?_⟩
      simp only [exec, hexec]
    · exact .inr ⟨hrename, hmain⟩
  · have hrename : .rename ∉ (saveOps o json).take count := fun hmem =>
      hops (List.mem_of_mem_take hmem)
    exact .inr ⟨hrename, files.main_exec_of_notMem hrename⟩

end PreferenceFiles

namespace MultiAddonManager

variable (m : MultiAddonManager)

theorem saveRssAssetOptOutClientsLocked_eq_exec (o : SaveOutcome) (ids : Finset RssSteamId) :
    (m.saveRssAssetOptOutClientsLocked o ids).2 =
      { m with files := m.files.exec (saveOps o (buildRssAssetPreferencesJson ids)) } := by
  generalize hjson : buildRssAssetPreferencesJson ids = json
  have hwritten (ops : List (ReplaceOp UInt8)) :
      m.files.exec (ReplacedFile.writeTemp (transferred o.shortWrite json) ++ ops) =
        { m.files with temp := some (transferred o.shortWrite json) }.exec ops := by
    simp only [PreferenceFiles.exec, ReplacedFile.exec_append, ReplacedFile.exec_writeTemp]
  simp only [saveRssAssetOptOutClientsLocked, hjson, saveOps]
  split_ifs with hopen hwrite hremove hrename
  · rfl
  · rw [hwritten]
    rfl
  · rw [hwritten]
    rfl
  · rw [hwritten]
    rfl
  · rw [hwritten]
    rfl
  · rw [hwritten]
    rfl

theorem world_applyRssPreferenceChange {σ : Type} {members : Finset RssSteamId}
    {steamId : RssSteamId} {bEnabled : Bool} (hid : steamId ≠ 0)
    (hwas : decide (steamId ∉ members) ≠ bEnabled) (world : σ)
    (persist : Finset RssSteamId → σ → Bool × σ) (onPersisted : σ → σ) :
    (applyRssPreferenceChange true members world steamId bEnabled persist onPersisted).world =
      let saved :=
        persist (if bEnabled then members.erase steamId else insert steamId members) world
      if saved.1 then onPersisted saved.2 else saved.2 := by
  simp only [applyRssPreferenceChange, if_neg hid, hwas, Bool.not_true, Bool.false_eq_true,
    if_false]
  generalize persist (if bEnabled then members.erase steamId else insert steamId members) world =
    saved
  obtain ⟨bPersisted, world⟩ := saved
  cases bPersisted <;> rfl

theorem setterOps_cases (call : SetterCall) :
    (m.setterOps call = [] ∧ (m.setterStep call).1 = m) ∨
      (call.steamID64 ≠ 0 ∧ m.rssAssetPreferencesWritable = true ∧
        m.isClientRssAssetsEnabled call.steamID64 ≠ call.bEnabled ∧
        m.setterOps call = saveOps call.outcome
          (buildRssAssetPreferencesJson (m.requestedOptOut call.steamID64 call.bEnabled))) := by
  by_cases hid : call.steamID64 = 0
  · refine .inl ⟨by simp [setterOps, hid], ?_⟩
    simp [setterStep, setClientRssAssetsEnabled_of_refused (.inl hid)]
  cases hw : m.rssAssetPreferencesWritable with
  | false =>
    refine .inl ⟨by simp [setterOps, applyRssPreferenceChange, hw], ?_⟩
    rw [setterStep_of_closed hw]
  | true =>
    by_cases hkept : m.isClientRssAssetsEnabled call.steamID64 = call.bEnabled
    · have hwas : decide (call.steamID64 ∉ m.rssAssetOptOutClients) = call.bEnabled := by
        simpa [isClientRssAssetsEnabled, hid] using hkept
      refine .inl ⟨by simp [setterOps, applyRssPreferenceChange, hid, hw, hwas], ?_⟩
      exact setterStep_of_kept hkept
    · have hwas : decide (call.steamID64 ∉ m.rssAssetOptOutClients) ≠ call.bEnabled := by
        simpa [isClientRssAssetsEnabled, hid] using hkept
      refine .inr ⟨hid, rfl, hkept, ?_⟩
      unfold setterOps
      rw [if_neg hid, hw, world_applyRssPreferenceChange hid hwas, ← requestedOptOut]
      dsimp only
      split_ifs <;> simp

theorem files_setterStep (call : SetterCall) :
    (m.setterStep call).1.files = m.files.exec (m.setterOps call) := by
  rcases m.setterOps_cases call with ⟨hops, hstep⟩ | ⟨hid, hw, hkept, hops⟩
  · rw [hops, hstep, PreferenceFiles.exec_nil]
  · have hsave := m.saveRssAssetOptOutClientsLocked_eq_exec call.outcome
      (m.requestedOptOut call.steamID64 call.bEnabled)
    have hwas : decide (call.steamID64 ∉ m.rssAssetOptOutClients) ≠ call.bEnabled := by
      simpa [isClientRssAssetsEnabled, hid] using hkept
    have hworld := world_applyRssPreferenceChange hid hwas m
      (fun members m => m.saveRssAssetOptOutClientsLocked call.outcome members)
      (fun m => if call.bEnabled then m.clearRssAssets call.steamID64 else m)
    simp only [setterStep, setClientRssAssetsEnabled, if_neg hid, hw, hworld]
    rw [hops, ← requestedOptOut, hsave]
    split_ifs <;> rfl

theorem files_loadRssAssetOptOutClients (o : LoadOutcome) :
    (m.loadRssAssetOptOutClients o).files = m.files.exec (m.loadOps o) := by
  simp only [loadRssAssetOptOutClients, loadOps]
  cases hmain : m.files.main with
  | some content =>
    simp only [loadMainFile]
    split_ifs
    · rfl
    · rfl
    · rfl
    · split <;> rfl
  | none =>
    cases hlegacy : m.files.legacy with
    | some content =>
      simp only [loadLegacyFile]
      split_ifs with hopen
      · rfl
      · cases collectLegacyOptOutIds
          (transferred o.shortReadLine (readLines (content.length + 1) content)) o.isOk with
        | none => rfl
        | some parsed =>
          simp only [saveRssAssetOptOutClientsLocked_eq_exec]
          split_ifs <;> rfl
    | none =>
      simp only [saveRssAssetOptOutClientsLocked_eq_exec]
      split_ifs <;> rfl

end MultiAddonManager

end MultiAddonRss
