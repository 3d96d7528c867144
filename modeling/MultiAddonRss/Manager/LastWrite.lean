import MultiAddonRss.Foundations.PastTime
import MultiAddonRss.Manager.PreferenceRuns

/-!
# The preference in effect

The preference of a client is a register. The setter calls that return true
write it; all other calls keep it. The first failure closes it for good.
-/

namespace MultiAddonRss

open Foundations RssPrefs

namespace MultiAddonManager

def Writes (m : MultiAddonManager) (steamID64 : UInt64) (bEnabled : Bool) (call : SetterCall) :
    Prop :=
  call.steamID64 = steamID64 ∧ call.bEnabled = bEnabled ∧ (m.setterStep call).2 = true

/-- The call gets to the persistence callback, and that fails. -/
def PersistenceFails (m : MultiAddonManager) (call : SetterCall) : Prop :=
  call.steamID64 ≠ 0 ∧ m.rssAssetPreferencesWritable = true ∧
    m.isClientRssAssetsEnabled call.steamID64 ≠ call.bEnabled ∧
    ¬ call.outcome.Succeeds
      (buildRssAssetPreferencesJson (m.requestedOptOut call.steamID64 call.bEnabled))

def Refuses (m : MultiAddonManager) : Prop :=
  (∀ call, m.setterStep call = (m, false)) ∧
    ∀ (σ : Type) (world : σ) (steamID64 : UInt64) (bEnabled : Bool)
      (persist : Finset RssSteamId → σ → Bool × σ) (onPersisted : σ → σ),
      applyRssPreferenceChange m.rssAssetPreferencesWritable m.rssAssetOptOutClients world
        steamID64 bEnabled persist onPersisted =
          ⟨m.rssAssetPreferencesWritable, m.rssAssetOptOutClients, world, false⟩

variable {m : MultiAddonManager} {steamID64 : UInt64}

theorem notMem_requestedOptOut (bEnabled : Bool) :
    decide (steamID64 ∉ m.requestedOptOut steamID64 bEnabled) = bEnabled := by
  cases bEnabled <;> simp [requestedOptOut]

theorem mem_requestedOptOut_of_ne {id : UInt64} (hne : id ≠ steamID64) (bEnabled : Bool) :
    id ∈ m.requestedOptOut steamID64 bEnabled ↔ id ∈ m.rssAssetOptOutClients := by
  cases bEnabled <;> simp [requestedOptOut, hne]

theorem isClientRssAssetsEnabled_of_writes {bEnabled : Bool} {call : SetterCall}
    (hwrites : m.Writes steamID64 bEnabled call) :
    (m.setterStep call).1.isClientRssAssetsEnabled steamID64 = bEnabled := by
  obtain ⟨id, bEnabled, o⟩ := call
  obtain ⟨rfl, rfl, hresult⟩ := hwrites
  by_cases hkept : m.isClientRssAssetsEnabled id = bEnabled
  · rcases m.setClientRssAssetsEnabled_cases o id bEnabled with
      ⟨result, hset⟩ | ⟨hchange, -⟩ | ⟨temp, hset⟩
    · simpa [setterStep, hset] using hkept
    · exact absurd hkept hchange
    · simp [setterStep, hset] at hresult
  · have hid : id ≠ 0 := by
      rintro rfl
      simp [setterStep, setClientRssAssetsEnabled_of_refused] at hresult
    have hset := setClientRssAssetsEnabled_of_changed hkept hresult
    simpa [setterStep, hset, isClientRssAssetsEnabled, hid] using notMem_requestedOptOut bEnabled

theorem isClientRssAssetsEnabled_of_not_writes {call : SetterCall}
    (hwrites : ∀ bEnabled, ¬ m.Writes steamID64 bEnabled call) :
    (m.setterStep call).1.isClientRssAssetsEnabled steamID64 =
      m.isClientRssAssetsEnabled steamID64 := by
  obtain ⟨id, bEnabled, o⟩ := call
  rcases m.setClientRssAssetsEnabled_cases o id bEnabled with
    ⟨result, hset⟩ | ⟨hchange, hset⟩ | ⟨temp, hset⟩
  · simp [setterStep, hset]
  · have hne : steamID64 ≠ id := by
      rintro rfl
      exact hwrites bEnabled ⟨rfl, rfl, by simp [setterStep, hset]⟩
    simp [setterStep, hset, isClientRssAssetsEnabled, mem_requestedOptOut_of_ne hne]
  · simp [setterStep, hset, isClientRssAssetsEnabled]

/-! ## Failures -/

theorem refuses_of_closed (hw : m.rssAssetPreferencesWritable = false) : m.Refuses := by
  refine ⟨setterStep_of_closed hw, fun σ world id bEnabled persist onPersisted => ?_⟩
  simp [applyRssPreferenceChange, hw]

theorem writable_of_persistenceFails {call : SetterCall} (hfails : m.PersistenceFails call) :
    (m.setterStep call).1.rssAssetPreferencesWritable = false := by
  obtain ⟨hid, hw, hkept, hsave⟩ := hfails
  obtain ⟨temp, hfailed⟩ := setClientRssAssetsEnabled_of_failed hid hw hkept hsave
  simp [setterStep, hfailed]

theorem writable_of_once (calls : List SetterCall)
    (hfailed : Once (fun pre call => (run setterStep m pre).PersistenceFails call) calls) :
    (run setterStep m calls).rssAssetPreferencesWritable = false := by
  refine run_invariant setterStep (fun pre m' =>
    Once (fun pre call => (run setterStep m pre).PersistenceFails call) pre →
      m'.rssAssetPreferencesWritable = false) (by simp) ?_ calls hfailed
  intro pre call hpre hfailed
  rcases once_concat.1 hfailed with hbefore | hnow
  · rw [setterStep_of_closed (hpre hbefore)]
    exact hpre hbefore
  · exact writable_of_persistenceFails hnow

/-- After a load and any setter calls, the preference of a client is the value of
the last call for it that returned true, or else the loaded one. From the first
failure on, every call is refused. -/
theorem last_write_effective (m : MultiAddonManager) (o : LoadOutcome) (steamID64 : UInt64)
    (calls : List SetterCall) :
    let m₀ := m.loadRssAssetOptOutClients o
    let m' := run setterStep m₀ calls
    (∀ bEnabled, Since
        (fun pre call => (run setterStep m₀ pre).Writes steamID64 bEnabled call)
        (fun pre call => ∀ b, ¬ (run setterStep m₀ pre).Writes steamID64 b call) calls →
      m'.isClientRssAssetsEnabled steamID64 = bEnabled) ∧
    (EveryStep (fun pre call => ∀ b, ¬ (run setterStep m₀ pre).Writes steamID64 b call) calls →
      m'.isClientRssAssetsEnabled steamID64 = m₀.isClientRssAssetsEnabled steamID64) ∧
    (m₀.rssAssetPreferencesWritable = false ∨
        Once (fun pre call => (run setterStep m₀ pre).PersistenceFails call) calls →
      ∀ later, (run setterStep m' later).Refuses) := by
  intro m₀ m'
  obtain ⟨hlast, hnone⟩ := last_write setterStep m₀
    (fun m' => m'.isClientRssAssetsEnabled steamID64)
    (fun b pre call => (run setterStep m₀ pre).Writes steamID64 b call)
    (fun _ _ _ hwrites => isClientRssAssetsEnabled_of_writes hwrites)
    (fun _ _ hkeeps => isClientRssAssetsEnabled_of_not_writes hkeeps) calls
  refine ⟨hlast, hnone, fun hfailed later => ?_⟩
  have hclosed : m'.rssAssetPreferencesWritable = false := by
    rcases hfailed with hload | hsave
    · rwa [show m' = m₀ from run_of_closed hload calls]
    · exact writable_of_once calls hsave
  rw [run_of_closed hclosed]
  exact refuses_of_closed hclosed

end MultiAddonManager
end MultiAddonRss
