import MultiAddonRss.Manager.Rounds

/-!
# Runs of rounds

As long as every missing addon is credited on the reconnect, the offers of a run
are the addons missing after the first round, in order. This is so for enabled
clients. For opted-out clients it fails exactly when the workshop map itself is
an asset that the client does not have yet: it is offered but never credited.
-/

namespace MultiAddonRss
namespace MultiAddonManager

open Foundations

variable {m : MultiAddonManager} {steamID64 : UInt64}

theorem offeredAddon_eq_some {msg : NetMessage} {addon : CString} :
    offeredAddon msg = some addon ↔ msg = .signonState ⟨.changelevel, addon⟩ := by
  constructor
  · intro h
    match msg with
    | .signonState ⟨.changelevel, _⟩ => simpa [offeredAddon] using h
  · rintro rfl
    rfl

def RoundsOk (m : MultiAddonManager) (steamID64 : UInt64) (rounds : List Round) : Prop :=
  EveryStep (fun pre r => RoundOk steamID64 (run (roundStep steamID64) m pre) r) rounds

def offers (m : MultiAddonManager) (steamID64 : UInt64) (rounds : List Round) : List CString :=
  (outputs (roundStep steamID64) m rounds).filterMap offeredAddon

def Forwards (m : MultiAddonManager) (steamID64 : UInt64) (pre : List Round) (r : Round) : Prop :=
  (roundStep steamID64 (run (roundStep steamID64) m pre) r).2 = .signonState r.pMsg

/-- The round offers the first addon of the list that is missing when its message
is sent. -/
def OffersFirstMissing (m : MultiAddonManager) (steamID64 : UInt64) (pre : List Round)
    (r : Round) : Prop :=
  ∃ addon, (roundStep steamID64 (run (roundStep steamID64) m pre) r).2 =
      .signonState ⟨.changelevel, addon⟩ ∧
    (m.getClientAddons steamID64 false).find? (fun a => a ∉ ((run (roundStep steamID64) m
      (pre ++ [r])).clientAddons steamID64).downloadedAddons) = some addon

/-- After the rounds, the client has its whole list and nothing is pending. -/
def Complete (m : MultiAddonManager) (steamID64 : UInt64) (rounds : List Round) : Prop :=
  (∀ a ∈ m.getClientAddons steamID64 false,
    a ∈ ((run (roundStep steamID64) m rounds).clientAddons steamID64).downloadedAddons) ∧
  ((run (roundStep steamID64) m rounds).clientAddons steamID64).currentPendingAddon = []

section Simulation

variable (hdedicated : m.dedicatedServer = true)
  (hids : ∀ a ∈ m.getClientAddons steamID64 false, a ≠ [])
include hdedicated hids

theorem run_rounds {rounds : List Round} (hrounds : m.RoundsOk steamID64 rounds) :
    ∃ info : ClientAddonInfo, run (roundStep steamID64) m rounds = m.setClient steamID64 info ∧
      info.addonsToLoad = (m.clientAddons steamID64).addonsToLoad ∧
      (run (roundStep steamID64) m rounds).delivery steamID64 =
        run (Delivery.step (m.getClientAddons steamID64 false) (m.credits steamID64))
          (m.delivery steamID64) rounds := by
  refine run_induction (roundStep steamID64) (fun pre m' => ∃ info : ClientAddonInfo,
    m' = m.setClient steamID64 info ∧
      info.addonsToLoad = (m.clientAddons steamID64).addonsToLoad ∧
      m'.delivery steamID64 = run (Delivery.step (m.getClientAddons steamID64 false)
        (m.credits steamID64)) (m.delivery steamID64) pre) hrounds ?_ ?_
  · exact ⟨m.clientAddons steamID64, by simp, rfl, rfl⟩
  · rintro pre r hok ⟨info, hrun, hload, hdelivery⟩
    have hlist := getClientAddons_setClient (m := m) steamID64 false hload
    rw [hrun] at hok hdelivery ⊢
    obtain ⟨info', hstep, hload', hround, -⟩ := delivery_roundStep (m := m.setClient steamID64 info)
      hdedicated hok (by rwa [hlist])
    refine ⟨info', by rw [hstep, setClient_setClient], ?_, ?_⟩
    · rw [hload', clientAddons_setClient_self, hload]
    · rw [run_concat, ← hdelivery, Delivery.step, ← hlist]
      exact congrArg Prod.fst hround

theorem roundStep_run {pre : List Round} {r : Round} (hpre : m.RoundsOk steamID64 pre)
    (hok : RoundOk steamID64 (run (roundStep steamID64) m pre) r) :
    offeredAddon (roundStep steamID64 (run (roundStep steamID64) m pre) r).2 =
        (Delivery.step (m.getClientAddons steamID64 false) (m.credits steamID64)
          (run (Delivery.step (m.getClientAddons steamID64 false) (m.credits steamID64))
            (m.delivery steamID64) pre) r).2 ∧
      (offeredAddon (roundStep steamID64 (run (roundStep steamID64) m pre) r).2 = none →
        (roundStep steamID64 (run (roundStep steamID64) m pre) r).2 = .signonState r.pMsg ∧
        ((roundStep steamID64 (run (roundStep steamID64) m pre) r).1.clientAddons
          steamID64).currentPendingAddon = []) := by
  obtain ⟨info, hrun, hload, hdelivery⟩ := run_rounds hdedicated hids hpre
  have hlist := getClientAddons_setClient (m := m) steamID64 false hload
  rw [← hdelivery]
  rw [hrun] at hok ⊢
  obtain ⟨info', hstep, -, hround, hforward⟩ := delivery_roundStep (m := m.setClient steamID64 info)
    hdedicated hok (by rwa [hlist])
  refine ⟨?_, fun hnone => ⟨(hforward hnone).1, ?_⟩⟩
  · rw [Delivery.step, ← hlist]
    exact congrArg Prod.snd hround
  · rw [hstep, clientAddons_setClient_self, (hforward hnone).2]

theorem outputs_rounds {rounds : List Round} (hrounds : m.RoundsOk steamID64 rounds) :
    (outputs (roundStep steamID64) m rounds).map offeredAddon =
      outputs (Delivery.step (m.getClientAddons steamID64 false) (m.credits steamID64))
        (m.delivery steamID64) rounds := by
  induction rounds using List.reverseRecOn with
  | nil => rfl
  | append_singleton rounds r ih =>
    obtain ⟨hpre, hok⟩ := everyStep_concat.1 hrounds
    rw [outputs_concat, outputs_concat, List.map_append, ih hpre, List.map_singleton,
      (roundStep_run hdedicated hids hpre hok).1]

theorem offers_eq {rounds : List Round} (hrounds : m.RoundsOk steamID64 rounds) :
    m.offers steamID64 rounds =
      (outputs (Delivery.step (m.getClientAddons steamID64 false) (m.credits steamID64))
        (m.delivery steamID64) rounds).reduceOption := by
  rw [← outputs_rounds hdedicated hids hrounds]
  simp [offers, List.reduceOption, List.filterMap_map]

theorem names_first_missing {pre : List Round} {r : Round} (hpre : m.RoundsOk steamID64 pre)
    (hok : RoundOk steamID64 (run (roundStep steamID64) m pre) r) :
    m.Forwards steamID64 pre r ∨ m.OffersFirstMissing steamID64 pre r := by
  obtain ⟨hoffer, hforward⟩ := roundStep_run hdedicated hids hpre hok
  cases hout : offeredAddon (roundStep steamID64 (run (roundStep steamID64) m pre) r).2 with
  | none => exact .inl (hforward hout).1
  | some addon =>
    obtain ⟨-, -, -, hdelivery⟩ := run_rounds hdedicated hids (everyStep_concat.2 ⟨hpre, hok⟩)
    refine .inr ⟨addon, offeredAddon_eq_some.1 hout, ?_⟩
    rw [hout, Delivery.step, Delivery.offer_round] at hoffer
    rw [hoffer, ← Delivery.step, ← run_concat, ← hdelivery, ← List.head?_filter]
    simp [Delivery.missing, delivery]

variable {rounds : List Round} (hrounds : m.RoundsOk steamID64 rounds)
  (hcredits : ∀ a ∈ ((m.delivery steamID64).round (m.getClientAddons steamID64 false)
    (m.credits steamID64)).1.missing (m.getClientAddons steamID64 false),
      m.credits steamID64 a = true)
include hrounds hcredits

theorem nodup_offers : (m.offers steamID64 rounds).Nodup := by
  have hneeded : (m.getClientAddons steamID64 false).Nodup := nodup_getClientAddons false
  rw [offers_eq hdedicated hids hrounds, Delivery.offers_run hneeded hcredits]
  exact (hneeded.filter _).take

theorem forwarded_within
    (hlen : (m.getClientAddons steamID64 false).length < rounds.length) :
    ∃ pre r post, rounds = pre ++ r :: post ∧
      pre.length ≤ (m.getClientAddons steamID64 false).length ∧
      m.Forwards steamID64 pre r ∧ m.Complete steamID64 (pre ++ [r]) := by
  have hneeded : (m.getClientAddons steamID64 false).Nodup := nodup_getClientAddons false
  set missing := ((m.delivery steamID64).round (m.getClientAddons steamID64 false)
    (m.credits steamID64)).1.missing (m.getClientAddons steamID64 false) with hmissing
  have hcount : missing.length ≤ (m.getClientAddons steamID64 false).length :=
    List.length_filter_le _ _
  obtain ⟨r, post, hdrop⟩ := List.exists_cons_of_ne_nil
    (List.ne_nil_of_length_pos (l := rounds.drop missing.length) (by simp; omega))
  have hsplit : rounds = rounds.take missing.length ++ r :: post := by
    rw [← hdrop, List.take_append_drop]
  have hlength : (rounds.take missing.length).length = missing.length := by simp; omega
  generalize rounds.take missing.length = pre at hsplit hlength
  subst hsplit
  have hprefix : m.RoundsOk steamID64 (pre ++ [r]) :=
    EveryStep.of_append post (by simpa [RoundsOk] using hrounds)
  obtain ⟨hpre, hok⟩ := everyStep_concat.1 hprefix
  obtain ⟨hoffer, hforward⟩ := roundStep_run hdedicated hids hpre hok
  have hnone : offeredAddon (roundStep steamID64 (run (roundStep steamID64) m pre) r).2 = none := by
    rw [hoffer, Delivery.offer_run hneeded hcredits, hlength]
    simp [← hmissing]
  refine ⟨pre, r, post, rfl, hlength ▸ hcount, (hforward hnone).1, fun a ha => ?_, ?_⟩
  · obtain ⟨-, -, -, hdelivery⟩ := run_rounds hdedicated hids hprefix
    rw [hoffer, Delivery.step, Delivery.offer_round, ← Delivery.step, ← run_concat, ← hdelivery,
      List.head?_eq_none_iff] at hnone
    have hfilter := List.filter_eq_nil_iff.1 hnone a ha
    simpa [delivery] using hfilter
  · rw [run_concat]
    exact (hforward hnone).2

end Simulation

/-- The staged download of an enabled client: every round forwards the message
or offers the first missing addon, nothing is offered twice, and after at most
one round more than there are addons a message is forwarded to a client that has
them all. -/
theorem staged_download_enabled (m : MultiAddonManager) (steamID64 : UInt64)
    (hdedicated : m.dedicatedServer = true)
    (henabled : m.isClientRssAssetsEnabled steamID64 = true)
    (hids : ∀ a ∈ m.getClientAddons steamID64 false, a ≠ [])
    (rounds : List Round) (hrounds : m.RoundsOk steamID64 rounds) :
    EveryStep (fun pre r => m.Forwards steamID64 pre r ∨ m.OffersFirstMissing steamID64 pre r)
        rounds ∧
      (m.offers steamID64 rounds).Nodup ∧
      ((m.getClientAddons steamID64 false).length < rounds.length →
        ∃ pre r post, rounds = pre ++ r :: post ∧
          pre.length ≤ (m.getClientAddons steamID64 false).length ∧
          m.Forwards steamID64 pre r ∧ m.Complete steamID64 (pre ++ [r])) := by
  have hcredits : ∀ a, m.credits steamID64 a = true := fun a => by simp [credits, henabled]
  refine ⟨fun pre r post hsplit => ?_, ?_, fun hlen => ?_⟩
  · have hpre : m.RoundsOk steamID64 pre := EveryStep.of_append (r :: post) (hsplit ▸ hrounds)
    exact names_first_missing hdedicated hids hpre (hrounds pre r post hsplit)
  · exact nodup_offers hdedicated hids hrounds fun a _ => hcredits a
  · exact forwarded_within hdedicated hids hrounds (fun a _ => hcredits a) hlen

theorem staged_download_enabled_one_addon :
    let m : MultiAddonManager := { mountedAddons := [ascii "1111111111"] }
    let r : Round := ⟨0, 5, 6, ⟨.full, []⟩⟩
    (m.offers 76561198000000001 [r, r]).Nodup ∧
      ∃ pre r' post, [r, r] = pre ++ r' :: post ∧ pre.length ≤ 1 ∧
        m.Forwards 76561198000000001 pre r' := by
  intro m r
  obtain ⟨-, hnodup, hforward⟩ := staged_download_enabled m 76561198000000001 rfl
    (by decide +kernel) (by decide +kernel) [r, r]
    (everyStep_cons.2 ⟨by decide +kernel, everyStep_cons.2 ⟨by decide +kernel, everyStep_nil⟩⟩)
  obtain ⟨pre, r', post, hsplit, hlen, hforwarded, -⟩ := hforward (by decide +kernel)
  exact ⟨hnodup, pre, r', post, hsplit, hlen, hforwarded⟩

/-! ## Opted-out clients -/

/-- The workshop map is an asset that the client does not have. -/
def mapWithheld (m : MultiAddonManager) (steamID64 : UInt64) : Prop :=
  isRssAssetAddon m.currentWorkshopMap = true ∧
    m.currentWorkshopMap ∉ (m.clientAddons steamID64).downloadedAddons

theorem getClientAddons_of_map (hmap : m.currentWorkshopMap ≠ []) :
    ∃ rest, m.getClientAddons steamID64 false = m.currentWorkshopMap :: rest := by
  have hstaged : m.isStaged steamID64 m.currentWorkshopMap = true := by simp [isStaged, hmap]
  have hsources : ∃ rest, m.addonSources steamID64 = m.currentWorkshopMap :: rest := by
    simp [addonSources, hmap]
  obtain ⟨rest, hsources⟩ := hsources
  rw [getClientAddons_eq_filter, hsources, List.eraseDups_cons,
    List.filter_cons_of_pos (by simp [hstaged])]
  exact ⟨_, rfl⟩

theorem credits_of_not_withheld (hmap : ¬ m.mapWithheld steamID64) {addon : CString}
    (hmem : addon ∈ m.getClientAddons steamID64 false)
    (hmissing : addon ∉ (m.clientAddons steamID64).downloadedAddons) :
    m.credits steamID64 addon = true := by
  have hstaged := isStaged_of_mem_getClientAddons hmem
  simp only [isStaged, Bool.or_eq_true, Bool.and_eq_true, decide_eq_true_eq] at hstaged
  obtain (henabled | hasset) | ⟨-, hworkshop⟩ := hstaged
  · simp [credits, henabled]
  · simp [credits, hasset]
  · subst hworkshop
    have hasset : isRssAssetAddon m.currentWorkshopMap = false := by
      simpa [mapWithheld, hmissing] using hmap
    simp [credits, hasset]

theorem credits_of_missing_round (hmap : ¬ m.mapWithheld steamID64) :
    ∀ a ∈ ((m.delivery steamID64).round (m.getClientAddons steamID64 false)
      (m.credits steamID64)).1.missing (m.getClientAddons steamID64 false),
        m.credits steamID64 a = true := by
  intro a ha
  obtain ⟨hmem, hround⟩ := List.mem_filter.1 ha
  refine credits_of_not_withheld hmap hmem fun hdownloaded => ?_
  have hbefore : a ∈ (m.delivery steamID64).delivered := List.mem_toFinset.2 hdownloaded
  simp [Delivery.delivered_subset_round hbefore] at hround

/-- A workshop map that is withheld is offered again and again. -/
theorem not_nodup_offers (hdedicated : m.dedicatedServer = true)
    (hids : ∀ a ∈ m.getClientAddons steamID64 false, a ≠ []) {rounds : List Round}
    (hrounds : m.RoundsOk steamID64 rounds)
    (hoptedOut : m.isClientRssAssetsEnabled steamID64 = false)
    (hwithheld : m.mapWithheld steamID64) (hlen : 1 < rounds.length) :
    ¬ (m.offers steamID64 rounds).Nodup := by
  obtain ⟨hasset, hmissing⟩ := hwithheld
  have hmap : m.currentWorkshopMap ≠ [] := by
    intro h
    rw [h, isRssAssetAddon_nil] at hasset
    cases hasset
  obtain ⟨rest, hlist⟩ : ∃ rest, m.getClientAddons steamID64 false =
      m.currentWorkshopMap :: rest := getClientAddons_of_map hmap
  have hfirst : m.currentWorkshopMap ∉ (m.delivery steamID64).delivered := by
    simpa [delivery] using hmissing
  have hcredits : m.credits steamID64 m.currentWorkshopMap = false := by
    simp [credits, hoptedOut, hasset]
  obtain ⟨r₁, r₂, rounds, rfl⟩ : ∃ r₁ r₂ rounds', rounds = r₁ :: r₂ :: rounds' := by
    rcases rounds with _ | ⟨r₁, _ | ⟨r₂, rounds⟩⟩
    · simp at hlen
    · simp at hlen
    · exact ⟨r₁, r₂, rounds, rfl⟩
  have hoffer₁ := Delivery.offer_of_stuck hlist hfirst hcredits [] r₁
  have hoffer₂ := Delivery.offer_of_stuck hlist hfirst hcredits [r₁] r₂
  rw [run_nil] at hoffer₁
  rw [run_cons, run_nil] at hoffer₂
  rw [offers_eq hdedicated hids hrounds, outputs, outputs, hoffer₁, hoffer₂]
  simp

/-- The staged flow of an opted-out client offers no addon twice and comes to an
end exactly when the workshop map is no asset that the client does not have. In
a single round nothing can go wrong yet. -/
theorem staged_download_opted_out_iff (m : MultiAddonManager) (steamID64 : UInt64)
    (hdedicated : m.dedicatedServer = true)
    (hoptedOut : m.isClientRssAssetsEnabled steamID64 = false)
    (hids : ∀ a ∈ m.getClientAddons steamID64 false, a ≠ [])
    (rounds : List Round) (hrounds : m.RoundsOk steamID64 rounds) :
    ((m.offers steamID64 rounds).Nodup ∧
      ((m.getClientAddons steamID64 false).length < rounds.length →
        ∃ pre r post, rounds = pre ++ r :: post ∧
          pre.length ≤ (m.getClientAddons steamID64 false).length ∧
          m.Forwards steamID64 pre r)) ↔
      ¬ m.mapWithheld steamID64 ∨ rounds.length ≤ 1 := by
  constructor
  · rintro ⟨hnodup, -⟩
    by_contra! hcon
    obtain ⟨hwithheld, hlen⟩ := hcon
    exact not_nodup_offers hdedicated hids hrounds hoptedOut hwithheld hlen hnodup
  · rintro (hmap | hlen)
    · have hcredits := credits_of_missing_round hmap
      refine ⟨nodup_offers hdedicated hids hrounds hcredits, fun hlen => ?_⟩
      obtain ⟨pre, r, post, hsplit, hpre, hforward, -⟩ :=
        forwarded_within hdedicated hids hrounds hcredits hlen
      exact ⟨pre, r, post, hsplit, hpre, hforward⟩
    · refine ⟨?_, fun hempty => ?_⟩
      · match rounds, hlen with
        | [], _ => exact List.nodup_nil
        | [r], _ => cases hoffer : offeredAddon (roundStep steamID64 m r).2 <;>
            simp [offers, outputs, hoffer]
      · have hnil : m.getClientAddons steamID64 false = [] :=
          List.eq_nil_of_length_eq_zero (by omega)
        obtain ⟨pre, r, post, hsplit, hpre, hforward, -⟩ :=
          forwarded_within hdedicated hids hrounds (by simp [hnil, Delivery.missing]) hempty
        exact ⟨pre, r, post, hsplit, hpre, hforward⟩

theorem staged_download_opted_out_iff_two_rounds :
    let m : MultiAddonManager :=
      { currentWorkshopMap := ascii "1111111111", mountedAddons := [ascii "3782730321"],
        rssAssetOptOutClients := {76561198000000001} }
    let r : Round := ⟨0, 5, 6, ⟨.full, []⟩⟩
    (m.offers 76561198000000001 [r, r]).Nodup ∧
      ∃ pre r' post, [r, r] = pre ++ r' :: post ∧ pre.length ≤ 1 ∧
        m.Forwards 76561198000000001 pre r' := by
  intro m r
  have hmap : ¬ m.mapWithheld 76561198000000001 := by
    intro hwithheld
    exact absurd hwithheld.1 (by decide +kernel)
  obtain ⟨hnodup, hforward⟩ := (staged_download_opted_out_iff m 76561198000000001 rfl
    (by decide +kernel) (by decide +kernel) [r, r] (everyStep_cons.2
      ⟨by decide +kernel, everyStep_cons.2 ⟨by decide +kernel, everyStep_nil⟩⟩)).2 (.inl hmap)
  have hlist : (m.getClientAddons 76561198000000001 false).length = 1 := by decide +kernel
  rw [hlist] at hforward
  exact ⟨hnodup, hforward (by decide)⟩

/-- The workshop map is an asset. The client comes back with it in time, and the
next round offers it again. -/
theorem asset_map_offered_twice :
    let m : MultiAddonManager :=
      { currentWorkshopMap := ascii "3782730321", rssAssetOptOutClients := {76561198000000001} }
    let r : Round := ⟨0, 5, 6, ⟨.full, []⟩⟩
    m.dedicatedServer = true ∧ m.isClientRssAssetsEnabled 76561198000000001 = false ∧
      m.RoundsOk 76561198000000001 [r, r] ∧
      m.getClientAddons 76561198000000001 false = [ascii "3782730321"] ∧
      m.offers 76561198000000001 [r, r] = [ascii "3782730321", ascii "3782730321"] ∧
      ¬ (m.offers 76561198000000001 [r, r]).Nodup := by
  intro m r
  refine ⟨rfl, by decide +kernel, ?_, by decide +kernel, by decide +kernel, by decide +kernel⟩
  exact everyStep_cons.2 ⟨by decide +kernel, everyStep_cons.2 ⟨by decide +kernel, everyStep_nil⟩⟩

end MultiAddonManager
end MultiAddonRss
