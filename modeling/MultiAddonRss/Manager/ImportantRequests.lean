import MultiAddonRss.Foundations.PastTime
import MultiAddonRss.Manager.ReloadCycle

/-!
# Requests for important downloads

A caller that asks for an important download expects a map reload when the last
such download completes. The plugin remembers the importance only of the request
that starts the download; a request for a download that is already queued is lost.
-/

namespace MultiAddonRss

open Foundations

def DownloadEvent.AsksImportant (id : UInt64) : DownloadEvent → Prop
  | .downloadAddon h pszAddon bImportant _ => bImportant = true ∧ h.stringToUint64 pszAddon = id
  | .onAddonDownloaded _ _ => False

def DownloadEvent.Completes (id : UInt64) : DownloadEvent → Prop
  | .downloadAddon .. => False
  | .onAddonDownloaded _ publishedFileId => publishedFileId = id

namespace MultiAddonManager

theorem mem_importantDownloads_downloadAddon (h : Host) (m : MultiAddonManager)
    (pszAddon : CString) (bImportant bForce : Bool) (id : UInt64) :
    let m' := (m.downloadAddon h pszAddon bImportant bForce).2.1
    id ∈ m'.importantDownloads ↔ id ∈ m.importantDownloads ∨
      (bImportant = true ∧ h.stringToUint64 pszAddon = id) ∧
        id ∉ m.downloadQueue ∧ id ∈ m'.downloadQueue := by
  simp only [downloadAddon]
  split_ifs with hugc hzero hqueued hinstalled hstarted himportant
  · tauto
  · tauto
  · tauto
  · tauto
  · tauto
  · simp only [Bool.and_eq_true, decide_eq_true_eq] at himportant
    simp only [List.mem_append, List.mem_singleton, himportant.1, true_and]
    constructor
    · rintro (hold | rfl)
      · exact .inl hold
      · exact .inr ⟨rfl, hqueued, .inr rfl⟩
    · rintro (hold | ⟨rfl, -⟩)
      · exact .inl hold
      · exact .inr rfl
  · simp only [Bool.and_eq_true, decide_eq_true_eq, not_and, not_not] at himportant
    constructor
    · exact .inl
    · rintro (hold | ⟨⟨hflag, rfl⟩, -⟩)
      · exact hold
      · exact himportant hflag

end MultiAddonManager

namespace TrackedDownloads

variable (m : MultiAddonManager)

def after (pre : List DownloadEvent) : TrackedDownloads := run step ⟨m, []⟩ pre

/-- While the download was outstanding, an important download of `id` has been
asked for, be it by the call that started the download or by a later one. -/
def Requested (id : UInt64) : List DownloadEvent → Prop :=
  Since (fun pre e => e.AsksImportant id ∧ id ∈ (after m (pre ++ [e])).outstanding)
    fun _ e => ¬ e.Completes id

def StartedImportant (id : UInt64) : List DownloadEvent → Prop :=
  Since (fun pre e => e.AsksImportant id ∧ id ∉ (after m pre).outstanding ∧
      id ∈ (after m (pre ++ [e])).outstanding)
    fun _ e => ¬ e.Completes id

/-- An important download of `id` was asked for only after it had been started as
an unimportant one. -/
def RequestedLate (id : UInt64) (pre : List DownloadEvent) : Prop :=
  Requested m id pre ∧ ¬ StartedImportant m id pre

/-- A completion of the last outstanding download with an important request
reloads the map once, and nothing else does. -/
def HonoursRequests (pre : List DownloadEvent) (e : DownloadEvent) : Prop :=
  let out := ((after m pre).step e).2
  match e with
  | .downloadAddon .. => reloadsMap out = false
  | .onAddonDownloaded h id =>
    let last := Requested m id pre ∧ ∀ other ∈ (after m pre).outstanding,
      Requested m other pre → other = id
    (last → out = (after m pre).manager.reloadMap h) ∧ (¬ last → out = [])

/-- A completion at which no late request matters: the last of the downloads that
were started as important ones does not complete while another download has been
asked for late, and a download that was asked for late is not the last one with
a request. -/
def NoLateRequestMatters (pre : List DownloadEvent) : DownloadEvent → Prop
  | .downloadAddon .. => True
  | .onAddonDownloaded _ id =>
    (StartedImportant m id pre → (∀ other, StartedImportant m other pre → other = id) →
      ∀ other, ¬ RequestedLate m other pre) ∧
    (RequestedLate m id pre → ∃ other, other ≠ id ∧ Requested m other pre)

variable {m} {pre : List DownloadEvent}

/-! ## What the run remembers -/

@[simp] theorem after_nil : after m [] = ⟨m, []⟩ := rfl

@[simp] theorem after_concat (e : DownloadEvent) :
    after m (pre ++ [e]) = ((after m pre).step e).1 := run_concat _ _ _ _

theorem StartedImportant.requested {id : UInt64} (h : StartedImportant m id pre) :
    Requested m id pre :=
  h.mono fun _ _ hstart => ⟨hstart.1, hstart.2.2⟩

theorem mem_outstanding_step {s : TrackedDownloads} {e : DownloadEvent} {id : UInt64}
    (hid : id ∈ s.outstanding) (he : ¬ e.Completes id) : id ∈ (s.step e).1.outstanding := by
  cases e with
  | downloadAddon h pszAddon bImportant bForce => exact List.mem_append_left _ hid
  | onAddonDownloaded h publishedFileId => exact (List.mem_erase_of_ne (Ne.symm he)).2 hid

theorem Requested.mem_outstanding {id : UInt64} (h : Requested m id pre) :
    id ∈ (after m pre).outstanding := by
  induction pre using List.reverseRecOn with
  | nil => simp [Requested] at h
  | append_singleton pre e ih =>
    rcases since_concat.1 h with ⟨-, hnow⟩ | ⟨hbefore, he⟩
    · exact hnow
    · rw [after_concat]
      exact mem_outstanding_step (ih hbefore) he

/-- In order, the important downloads are those that were started as such. -/
theorem mem_importantDownloads_step {s : TrackedDownloads} (hsync : s.Synchronised)
    {e : DownloadEvent} (horder : s.InOrder e) (id : UInt64) :
    id ∈ (s.step e).1.manager.importantDownloads ↔
      (e.AsksImportant id ∧ id ∉ s.outstanding ∧ id ∈ (s.step e).1.outstanding) ∨
        id ∈ s.manager.importantDownloads ∧ ¬ e.Completes id := by
  have hsync' := hsync.step horder
  cases e with
  | downloadAddon h pszAddon bImportant bForce =>
    have hcall := s.manager.mem_importantDownloads_downloadAddon h pszAddon bImportant bForce id
    have hqueue := hsync'.queue
    simp only [step, MultiAddonManager.downloadStep] at hqueue ⊢
    refine hcall.trans ?_
    rw [hsync.queue, hqueue]
    simp only [DownloadEvent.AsksImportant, DownloadEvent.Completes, not_false_eq_true, and_true]
    exact or_comm
  | onAddonDownloaded h publishedFileId =>
    simp only [DownloadEvent.AsksImportant, DownloadEvent.Completes, false_and, false_or]
    by_cases hmem : publishedFileId ∈ s.manager.downloadQueue
    · simp only [step, MultiAddonManager.downloadStep,
        MultiAddonManager.onAddonDownloaded_of_queued h hmem, hsync.important_nodup.mem_erase_iff]
      rw [and_comm, ne_comm]
    · simp only [step, MultiAddonManager.downloadStep,
        MultiAddonManager.onAddonDownloaded_of_foreign h hmem]
      refine (and_iff_left_of_imp ?_).symm
      rintro himportant rfl
      exact hmem (hsync.queue ▸ hsync.important _ himportant)

theorem synchronised_after (hqueue : m.downloadQueue = []) (himportant : m.importantDownloads = [])
    (horder : EveryStep (fun pre e => (after m pre).InOrder e) pre) :
    (after m pre).Synchronised ∧
      ∀ id, id ∈ (after m pre).manager.importantDownloads ↔ StartedImportant m id pre := by
  apply run_induction step (fun pre s => s.Synchronised ∧
    ∀ id, id ∈ s.manager.importantDownloads ↔ StartedImportant m id pre) horder
  · refine ⟨⟨hqueue, by simp, by simp [himportant], by simp [himportant]⟩, fun id => ?_⟩
    simp [himportant, StartedImportant]
  · rintro pre e horder ⟨hsync, himportant⟩
    refine ⟨hsync.step horder, fun id => ?_⟩
    rw [mem_importantDownloads_step hsync horder, StartedImportant, since_concat, himportant,
      after_concat]
    rfl

/-! ## Completions -/

/-- The last important start and the last request agree where no late request
matters. -/
theorem last_started_iff_last_requested {id : UInt64} :
    ((StartedImportant m id pre ∧ ∀ other, StartedImportant m other pre → other = id) ↔
        Requested m id pre ∧ ∀ other, Requested m other pre → other = id) ↔
      (StartedImportant m id pre → (∀ other, StartedImportant m other pre → other = id) →
          ∀ other, ¬ RequestedLate m other pre) ∧
        (RequestedLate m id pre → ∃ other, other ≠ id ∧ Requested m other pre) := by
  constructor
  · intro hagree
    refine ⟨fun hid honly other ⟨hother, hlate⟩ => ?_, fun ⟨hid, hlate⟩ => ?_⟩
    · have heq := (hagree.1 ⟨hid, honly⟩).2 other hother
      exact hlate (heq ▸ hid)
    · by_contra! hnone
      refine hlate (hagree.2 ⟨hid, fun other hother => ?_⟩).1
      by_contra hne
      exact hnone other hne hother
  · rintro ⟨hstarted, hlate⟩
    constructor
    · rintro ⟨hid, honly⟩
      refine ⟨hid.requested, fun other hother => honly other ?_⟩
      by_contra hnot
      exact hstarted hid honly other ⟨hother, hnot⟩
    · rintro ⟨hid, honly⟩
      refine ⟨?_, fun other hother => honly other hother.requested⟩
      by_contra hnot
      obtain ⟨other, hne, hother⟩ := hlate ⟨hid, hnot⟩
      exact hne (honly other hother)

theorem onAddonDownloaded_outputs (h : Host) (m : MultiAddonManager) (id : UInt64) :
    (m.onAddonDownloaded h id).2 =
      if id ∈ m.downloadQueue ∧ m.importantDownloads = [id] then m.reloadMap h else [] := by
  have hreload := m.reloadsMap_onAddonDownloaded h id
  rcases houtput : (m.onAddonDownloaded h id).2 with _ | ⟨o, out⟩
  · rw [houtput] at hreload
    rw [if_neg (hreload.not.1 (by simp [reloadsMap]))]
  · have hcall : (m.onAddonDownloaded h id).2 = m.reloadMap h := by
      simp only [MultiAddonManager.onAddonDownloaded] at houtput ⊢
      split_ifs at houtput ⊢
      rfl
    rw [if_pos (hreload.1 (hcall ▸ MultiAddonManager.reloadsMap_reloadMap h)), ← hcall, houtput]

theorem honoursRequests_iff (hsync : (after m pre).Synchronised)
    (himportant : ∀ id, id ∈ (after m pre).manager.importantDownloads ↔
      StartedImportant m id pre) (e : DownloadEvent) :
    HonoursRequests m pre e ↔ NoLateRequestMatters m pre e := by
  cases e with
  | downloadAddon h pszAddon bImportant bForce =>
    have hcall := (after m pre).manager.reloadsMap_downloadAddon h pszAddon bImportant bForce
    exact iff_of_true hcall trivial
  | onAddonDownloaded h id =>
    have hlast : (∀ other ∈ (after m pre).outstanding, Requested m other pre → other = id) ↔
        ∀ other, Requested m other pre → other = id :=
      ⟨fun h other hother => h other hother.mem_outstanding hother, fun h other _ => h other⟩
    have hsingle : (id ∈ (after m pre).manager.downloadQueue ∧
        (after m pre).manager.importantDownloads = [id]) ↔
          StartedImportant m id pre ∧ ∀ other, StartedImportant m other pre → other = id := by
      simp only [← himportant, hsync.queue]
      constructor
      · rintro ⟨-, heq⟩
        simp [heq]
      · rintro ⟨hid, honly⟩
        refine ⟨hsync.important id hid, List.perm_singleton.1 ?_⟩
        rw [List.perm_ext_iff_of_nodup hsync.important_nodup (List.nodup_singleton id)]
        intro other
        rw [List.mem_singleton]
        exact ⟨honly other, fun heq => heq ▸ hid⟩
    have hne : (after m pre).manager.reloadMap h ≠ [] := by
      intro hnil
      have hreload := (after m pre).manager.reloadsMap_reloadMap h
      simp [hnil, reloadsMap] at hreload
    simp only [NoLateRequestMatters, ← last_started_iff_last_requested, ← hsingle,
      HonoursRequests, hlast, step, MultiAddonManager.downloadStep, onAddonDownloaded_outputs]
    split_ifs with hreload
    · simp [hreload, hne]
    · simp [hreload, hne.symm]

/-- With completions in the order of the starts, every important request is
honoured exactly if no completion comes at which a late request matters. -/
theorem important_requests_honoured_iff (m : MultiAddonManager) (hqueue : m.downloadQueue = [])
    (himportant : m.importantDownloads = []) (evs : List DownloadEvent)
    (horder : EveryStep (fun pre e => (after m pre).InOrder e) evs) :
    EveryStep (HonoursRequests m) evs ↔ EveryStep (NoLateRequestMatters m) evs := by
  refine everyStep_iff_of_assumed horder fun pre e hpre _ => ?_
  obtain ⟨hsync, hstarted⟩ := synchronised_after hqueue himportant hpre
  exact honoursRequests_iff hsync hstarted e

theorem important_requests_honoured_two_downloads :
    let h : Host := { stringToUint64 := fun s => if s = ascii "10" then 10 else 20 }
    let evs : List DownloadEvent := [.downloadAddon h (ascii "10") false true,
      .downloadAddon h (ascii "20") true true, .onAddonDownloaded h 10, .onAddonDownloaded h 20]
    EveryStep (HonoursRequests {}) evs ↔ EveryStep (NoLateRequestMatters {}) evs := by
  intro h evs
  apply important_requests_honoured_iff {} rfl rfl
  simp only [evs, everyStep_cons, everyStep_nil, and_true]
  exact ⟨trivial, trivial, fun _ => by decide +kernel, fun _ => by decide +kernel⟩

/-- The addon 10 is being downloaded as an unimportant one when an important
download of it is asked for. Its completion does not reload the map. -/
theorem late_request_never_reloads :
    let h : Host := { stringToUint64 := fun _ => 10 }
    ¬ EveryStep (HonoursRequests {}) [.downloadAddon h (ascii "10") false true,
      .downloadAddon h (ascii "10") true true, .onAddonDownloaded h 10] := by
  intro h hhonours
  have hlast := (hhonours [_, _] (.onAddonDownloaded h 10) [] rfl).1
  have houtstanding : (after {} [.downloadAddon h (ascii "10") false true,
      .downloadAddon h (ascii "10") true true]).outstanding = [10] := by decide +kernel
  have hrequested : Requested {} 10 [.downloadAddon h (ascii "10") false true,
      .downloadAddon h (ascii "10") true true] :=
    ⟨[_], _, [], rfl, ⟨⟨rfl, rfl⟩, by simpa using houtstanding ▸ List.mem_singleton_self 10⟩,
      everyStep_nil⟩
  have hreload := hlast ⟨hrequested, fun other hother _ => by simpa [houtstanding] using hother⟩
  exact absurd hreload (by decide +kernel)

end TrackedDownloads
end MultiAddonRss
