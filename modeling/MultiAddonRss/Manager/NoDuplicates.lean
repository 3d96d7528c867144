import MultiAddonRss.Manager.Progress
import MultiAddonRss.Manager.Reconnect

/-!
# Duplicates among the downloaded addons

Only the step before the timeout test looks whether the pending addon is there
already. The other places add it again, for example when the server changes to
an addon that the client has.
-/

namespace MultiAddonRss

open Foundations

namespace MultiAddonManager

def CreditsPending (m : MultiAddonManager) (steamID64 : UInt64) (call : Call) : Prop :=
  m.ChecksPending steamID64 call ∧ (m.progress steamID64).2 ≠ [] ∧
    call.host.now - (m.clientAddons steamID64).lastActiveTime ≤ m.conVars.mmExtraAddonsTimeout ∧
    (m.isClientRssAssetsEnabled steamID64 = true ∨
      isRssAssetAddon (m.progress steamID64).2 = false)

/-- The addon that a call credits is new, and a reconnect does not credit it
before and after the timeout test. -/
structure CreditsNew (m : MultiAddonManager) (steamID64 : UInt64) (call : Call) : Prop where
  fresh : m.CreditsPending steamID64 call ∨ m.CompletesList steamID64 call →
    (m.progress steamID64).2 ∉ (m.progress steamID64).1
  once : m.CreditsPending steamID64 call →
    m.isClientRssAssetsEnabled steamID64 = true ∨ m.remainingAddons steamID64 ≠ []

variable {m : MultiAddonManager} {steamID64 : UInt64} {call : Call}

theorem not_completesList_of_checksPending (hcheck : m.ChecksPending steamID64 call) :
    ¬ m.CompletesList steamID64 call := by
  rintro ⟨-, -, -, -, pMsg, hevent, -⟩
  rcases hcheck.2.1 with hevent' | hevent' <;> simp [hevent] at hevent'

theorem creditsNew_of_checksPending (hcheck : m.ChecksPending steamID64 call) :
    m.CreditsNew steamID64 call ↔ (m.CreditsPending steamID64 call →
      (m.progress steamID64).2 ∉ (m.progress steamID64).1 ∧
        (m.isClientRssAssetsEnabled steamID64 = true ∨ m.remainingAddons steamID64 ≠ [])) := by
  have hcomplete := not_completesList_of_checksPending hcheck
  constructor
  · intro hnew hcredits
    exact ⟨hnew.fresh (.inl hcredits), hnew.once hcredits⟩
  · intro h
    exact ⟨fun hcase => (h (hcase.resolve_right hcomplete)).1, fun hcredits => (h hcredits).2⟩

theorem nodup_of_preCredits (hcheck : m.ChecksPending steamID64 call)
    (hpending : (m.progress steamID64).2 ≠ []) (hpre : m.PreCredits steamID64)
    (hnodup : (m.progress steamID64).1.Nodup) :
    ((m.progress steamID64).1 ++ m.credited call.host.now steamID64).Nodup ↔
      m.CreditsNew steamID64 call := by
  rw [credited_of_preCredits _ hpending hpre, creditsNew_of_checksPending hcheck]
  obtain ⟨henabled, hneed, hrss, hfresh⟩ := hpre
  split_ifs with hlate
  · apply iff_of_true
    · rw [← List.concat_eq_append]
      exact hnodup.concat hfresh
    · rintro ⟨-, -, htimely, -⟩
      exact absurd hlate (not_lt.2 htimely)
  · apply iff_of_false
    · intro htwice
      simpa using (List.nodup_append.1 htwice).2.1
    · intro hnew
      have honce := (hnew ⟨hcheck, hpending, not_lt.1 hlate, .inr hrss⟩).2
      simp [henabled, hneed] at honce

theorem nodup_of_not_preCredits (hcheck : m.ChecksPending steamID64 call)
    (hpending : (m.progress steamID64).2 ≠ []) (hpre : ¬ m.PreCredits steamID64)
    (hnodup : (m.progress steamID64).1.Nodup) :
    ((m.progress steamID64).1 ++ m.credited call.host.now steamID64).Nodup ↔
      m.CreditsNew steamID64 call := by
  rw [credited_of_not_preCredits _ hpending hpre, creditsNew_of_checksPending hcheck]
  split_ifs with hlate hcredit
  · apply iff_of_true
    · rwa [List.append_nil]
    · rintro ⟨-, -, htimely, -⟩
      exact absurd hlate (not_lt.2 htimely)
  · have hcase : m.isClientRssAssetsEnabled steamID64 = true ∨
        isRssAssetAddon (m.progress steamID64).2 = false := by
      simpa [progress] using hcredit
    have hcredits : m.CreditsPending steamID64 call :=
      ⟨hcheck, hpending, not_lt.1 hlate, hcase⟩
    have honce : (m.progress steamID64).2 ∉ (m.progress steamID64).1 →
        m.isClientRssAssetsEnabled steamID64 = true ∨ m.remainingAddons steamID64 ≠ [] := by
      intro hfresh
      by_contra hboth
      simp only [not_or, Bool.not_eq_true, not_not] at hboth
      exact hpre ⟨hboth.1, hboth.2, hcase.resolve_left (by simp [hboth.1]), hfresh⟩
    rw [← List.concat_eq_append, List.nodup_concat]
    exact ⟨fun h _ => ⟨h.1, honce h.1⟩, fun h => ⟨(h hcredits).1, hnodup⟩⟩
  · apply iff_of_true
    · rwa [List.append_nil]
    · rintro ⟨-, -, -, hcase⟩
      exact absurd (by simpa [progress] using hcase) hcredit

theorem nodup_reconnect_iff (hcheck : m.ChecksPending steamID64 call)
    (hnodup : (m.progress steamID64).1.Nodup) :
    ((m.progress steamID64).1 ++ m.credited call.host.now steamID64).Nodup ↔
      m.CreditsNew steamID64 call := by
  by_cases hpending : (m.progress steamID64).2 = []
  · have hcredited : m.credited call.host.now steamID64 = [] := by
      simp only [progress] at hpending
      simp [credited, hpending]
    rw [hcredited, List.append_nil, creditsNew_of_checksPending hcheck]
    exact iff_of_true hnodup fun hcredits => absurd hpending hcredits.2.1
  · by_cases hpre : m.PreCredits steamID64
    · exact nodup_of_preCredits hcheck hpending hpre hnodup
    · exact nodup_of_not_preCredits hcheck hpending hpre hnodup

theorem nodup_step_iff (hnodup : (m.progress steamID64).1.Nodup) :
    ((m.step call).1.progress steamID64).1.Nodup ↔ m.CreditsNew steamID64 call := by
  by_cases hcheck : m.ChecksPending steamID64 call
  · rw [m.downloaded_of_checksPending hcheck]
    exact nodup_reconnect_iff hcheck hnodup
  have hcredits : ¬ m.CreditsPending steamID64 call := fun h => hcheck h.1
  by_cases hcomplete : m.CompletesList steamID64 call
  · rw [m.downloaded_of_completesList hcomplete, ← List.concat_eq_append, List.nodup_concat]
    exact ⟨fun h => ⟨fun _ => h.1, fun h' => absurd h' hcredits⟩,
      fun h => ⟨h.fresh (.inr hcomplete), hnodup⟩⟩
  · exact iff_of_true ((m.downloaded_of_not hcheck hcomplete).nodup hnodup)
      ⟨by tauto, fun h => absurd h hcredits⟩

/-- Along every run, the downloaded addons of all clients stay free of duplicates
exactly when every step credits a new addon at most once. -/
theorem nodup_downloaded_iff (m : MultiAddonManager)
    (hnodup : ∀ steamID64, (m.clientAddons steamID64).downloadedAddons.Nodup)
    (calls : List Call) :
    EveryStep (fun pre call => ∀ steamID64,
        ((run step m (pre ++ [call])).clientAddons steamID64).downloadedAddons.Nodup) calls ↔
      EveryStep (fun pre call => ∀ steamID64,
        (run step m pre).CreditsNew steamID64 call) calls := by
  refine (everyStep_iff_of_agree fun pre call hpre => ?_).symm
  have hinv : ∀ steamID64, ((run step m pre).progress steamID64).1.Nodup := by
    refine run_induction step (fun _ m => ∀ steamID64, (m.progress steamID64).1.Nodup) hpre
      hnodup ?_
    intro pre call hcredits hnodup steamID64
    exact (nodup_step_iff (hnodup steamID64)).2 (hcredits steamID64)
  rw [run_concat]
  exact forall_congr' fun steamID64 => (nodup_step_iff (hinv steamID64)).symm

theorem nodup_downloaded_iff_one_reconnect :
    let calls : List Call := [⟨{}, .addClientAddon (ascii "1111111111") 0 false⟩,
      ⟨{}, .replyConnection 76561198000000001⟩, ⟨{}, .clientConnect 76561198000000001⟩]
    EveryStep (fun pre call => ∀ steamID64,
        ((run step {} (pre ++ [call])).clientAddons steamID64).downloadedAddons.Nodup) calls ↔
      EveryStep (fun pre call => ∀ steamID64,
        (run step {} pre).CreditsNew steamID64 call) calls :=
  nodup_downloaded_iff {} (by simp) _

/-- The client downloads 1111111111. The server changes level to the same addon,
the client connects in time, and the addon is listed twice. -/
theorem changelevel_credits_addon_twice :
    let calls : List Call := [⟨{}, .addClientAddon (ascii "1111111111") 0 false⟩,
      ⟨{}, .replyConnection 76561198000000001⟩, ⟨{}, .clientConnect 76561198000000001⟩,
      ⟨{}, .sendNetMessage 76561198000000001
        (.signonState ⟨.changelevel, ascii "1111111111"⟩)⟩]
    ¬ EveryStep (fun pre call => ∀ steamID64,
        ((run step {} (pre ++ [call])).clientAddons steamID64).downloadedAddons.Nodup)
      (calls ++ [⟨{}, .clientConnect 76561198000000001⟩]) := by
  intro calls hrun
  have hnodup := hrun calls ⟨{}, .clientConnect 76561198000000001⟩ [] rfl 76561198000000001
  exact absurd hnodup (by decide +kernel)

end MultiAddonManager
end MultiAddonRss
