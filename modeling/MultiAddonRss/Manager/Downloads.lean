import MultiAddonRss.Foundations.Runs
import MultiAddonRss.Manager.Mounting

/-!
# The download queue

A completion takes the head off the queue, whichever download it reports. The
queue is therefore compared with the downloads that are really outstanding,
which are read off the requests to Steam and the completions.
-/

namespace MultiAddonRss

open Foundations

inductive DownloadEvent
  | downloadAddon (h : Host) (pszAddon : CString) (bImportant bForce : Bool)
  | onAddonDownloaded (h : Host) (publishedFileId : UInt64)

def startedDownloads (out : List Output) : List UInt64 :=
  out.filterMap fun
    | .downloadItem addon => some addon
    | _ => none

namespace MultiAddonManager

variable {m : MultiAddonManager}

theorem downloadAddon_cases (h : Host) (m : MultiAddonManager) (pszAddon : CString)
    (bImportant bForce : Bool) :
    (∃ result, m.downloadAddon h pszAddon bImportant bForce = (result, m, [])) ∨
    ∃ addon importantDownloads, addon ∉ m.downloadQueue ∧
      (∀ id ∈ importantDownloads, id ∈ m.importantDownloads ∨ id = addon) ∧
      (m.importantDownloads.Nodup → importantDownloads.Nodup) ∧
      m.downloadAddon h pszAddon bImportant bForce =
        (true, { m with importantDownloads := importantDownloads,
                        downloadQueue := m.downloadQueue ++ [addon] }, [.downloadItem addon]) := by
  simp only [downloadAddon]
  split_ifs with hugc hzero hqueued hinstalled hstarted himportant
  · exact .inl ⟨_, rfl⟩
  · exact .inl ⟨_, rfl⟩
  · exact .inl ⟨_, rfl⟩
  · exact .inl ⟨_, rfl⟩
  · exact .inl ⟨_, rfl⟩
  · simp only [Bool.and_eq_true, decide_eq_true_eq] at himportant
    refine .inr ⟨_, _, hqueued, by simp, fun hnodup => ?_, rfl⟩
    exact List.nodup_append.2 ⟨hnodup, by simp,
      by simpa using fun a ha => ne_of_mem_of_not_mem ha himportant.2⟩
  · exact .inr ⟨_, _, hqueued, fun id hid => .inl hid, id, rfl⟩

theorem onAddonDownloaded_of_foreign (h : Host) {publishedFileId : UInt64}
    (hid : publishedFileId ∉ m.downloadQueue) :
    m.onAddonDownloaded h publishedFileId = (m, []) := by
  simp [onAddonDownloaded, hid]

theorem onAddonDownloaded_of_queued (h : Host) {publishedFileId : UInt64}
    (hid : publishedFileId ∈ m.downloadQueue) :
    (m.onAddonDownloaded h publishedFileId).1 =
      { m with downloadQueue := m.downloadQueue.tail,
               importantDownloads := m.importantDownloads.erase publishedFileId } := by
  simp only [onAddonDownloaded, hid, not_true_eq_false, if_false]
  split_ifs <;> rfl

def downloadStep (m : MultiAddonManager) : DownloadEvent → MultiAddonManager × List Output
  | .downloadAddon h pszAddon bImportant bForce =>
    (m.downloadAddon h pszAddon bImportant bForce).2
  | .onAddonDownloaded h publishedFileId => m.onAddonDownloaded h publishedFileId

end MultiAddonManager

/-- The plugin together with the downloads it started that have not completed,
oldest first. -/
structure TrackedDownloads where
  manager : MultiAddonManager
  outstanding : List UInt64

namespace TrackedDownloads

variable {s : TrackedDownloads}

def step (s : TrackedDownloads) (e : DownloadEvent) : TrackedDownloads × List Output :=
  let (manager, out) := s.manager.downloadStep e
  let outstanding :=
    match e with
    | .downloadAddon .. => s.outstanding ++ startedDownloads out
    | .onAddonDownloaded _ publishedFileId => s.outstanding.erase publishedFileId
  (⟨manager, outstanding⟩, out)

/-- The queue holds the outstanding downloads, the important ones among them. -/
def Accurate (s : TrackedDownloads) : Prop :=
  (∀ id, id ∈ s.manager.downloadQueue ↔ id ∈ s.outstanding) ∧
    (∀ id ∈ s.manager.importantDownloads, id ∈ s.manager.downloadQueue) ∧
    (s.outstanding = [] → s.manager.downloadQueue = [] ∧ s.manager.importantDownloads = [])

/-- A completion reports the oldest outstanding download or a foreign one. -/
def InOrder (s : TrackedDownloads) : DownloadEvent → Prop
  | .downloadAddon .. => True
  | .onAddonDownloaded _ publishedFileId =>
    publishedFileId ∈ s.outstanding → s.outstanding.head? = some publishedFileId

/-- What holds as long as the completions arrive in order. -/
structure Synchronised (s : TrackedDownloads) : Prop where
  queue : s.manager.downloadQueue = s.outstanding
  nodup : s.outstanding.Nodup
  important : ∀ id ∈ s.manager.importantDownloads, id ∈ s.outstanding
  important_nodup : s.manager.importantDownloads.Nodup

theorem Synchronised.accurate (h : s.Synchronised) : s.Accurate := by
  refine ⟨by simp [h.queue], by simpa [h.queue] using h.important, fun hnil => ?_⟩
  refine ⟨by rw [h.queue, hnil], List.eq_nil_iff_forall_not_mem.2 fun id hid => ?_⟩
  simpa [hnil] using h.important id hid

theorem Synchronised.downloadAddon (h : s.Synchronised) (host : Host) (pszAddon : CString)
    (bImportant bForce : Bool) :
    (s.step (.downloadAddon host pszAddon bImportant bForce)).1.Synchronised := by
  rcases s.manager.downloadAddon_cases host pszAddon bImportant bForce with
    ⟨result, hcall⟩ | ⟨addon, importantDownloads, hnew, himportant, hnodup, hcall⟩
  · simpa [step, MultiAddonManager.downloadStep, hcall, startedDownloads] using h
  · rw [h.queue] at hnew
    refine ⟨?_, ?_, ?_, ?_⟩
    · simp [step, MultiAddonManager.downloadStep, hcall, startedDownloads, h.queue]
    · simpa [step, MultiAddonManager.downloadStep, hcall, startedDownloads] using
        List.nodup_append.2 ⟨h.nodup, by simp,
          by simpa using fun a ha => ne_of_mem_of_not_mem ha hnew⟩
    · simp only [step, MultiAddonManager.downloadStep, hcall, startedDownloads]
      intro id hid
      rcases himportant id hid with hold | rfl
      · simp [h.important id hold]
      · simp
    · simpa [step, MultiAddonManager.downloadStep, hcall] using hnodup h.important_nodup

theorem Synchronised.onAddonDownloaded (h : s.Synchronised) {host : Host}
    {publishedFileId : UInt64} (horder : s.InOrder (.onAddonDownloaded host publishedFileId)) :
    (s.step (.onAddonDownloaded host publishedFileId)).1.Synchronised := by
  obtain ⟨m, outstanding⟩ := s
  obtain ⟨hqueue, hnodup, himportant, himportantNodup⟩ := h
  simp only at hqueue hnodup himportant himportantNodup
  by_cases hmem : publishedFileId ∈ outstanding
  · have hhead : outstanding.head? = some publishedFileId := horder hmem
    obtain ⟨rest, rfl⟩ := List.head?_eq_some_iff.1 hhead
    have hstep : (TrackedDownloads.step ⟨m, publishedFileId :: rest⟩
        (.onAddonDownloaded host publishedFileId)).1 =
          ⟨{ m with downloadQueue := rest,
                    importantDownloads := m.importantDownloads.erase publishedFileId }, rest⟩ := by
      simp [TrackedDownloads.step, MultiAddonManager.downloadStep,
        MultiAddonManager.onAddonDownloaded_of_queued host (hqueue ▸ hmem), hqueue]
    rw [hstep]
    refine ⟨rfl, hnodup.of_cons, fun id hid => ?_, himportantNodup.erase _⟩
    obtain ⟨hne, hold⟩ := (himportantNodup.mem_erase_iff).1 hid
    exact (List.mem_cons.1 (himportant id hold)).resolve_left hne
  · have hforeign := MultiAddonManager.onAddonDownloaded_of_foreign host
      (show publishedFileId ∉ m.downloadQueue by rwa [hqueue])
    simp only [TrackedDownloads.step, MultiAddonManager.downloadStep, hforeign,
      List.erase_of_not_mem hmem]
    exact ⟨hqueue, hnodup, himportant, himportantNodup⟩

/-- A completion out of order takes another download off the queue. -/
theorem Synchronised.not_accurate (h : s.Synchronised) {host : Host} {publishedFileId : UInt64}
    (horder : ¬ s.InOrder (.onAddonDownloaded host publishedFileId)) :
    ¬ (s.step (.onAddonDownloaded host publishedFileId)).1.Accurate := by
  obtain ⟨m, outstanding⟩ := s
  obtain ⟨hqueue, hnodup, -, -⟩ := h
  simp only [InOrder, Classical.not_imp] at horder
  obtain ⟨hmem, hhead⟩ := horder
  simp only at hqueue hnodup hmem hhead
  rcases outstanding with _ | ⟨oldest, rest⟩
  · simp at hmem
  · have hne : oldest ≠ publishedFileId := by simpa using hhead
    rintro ⟨hiff, -, -⟩
    have hlost := (hiff oldest).2 <| by
      simp [step, MultiAddonManager.downloadStep, hne]
    have hgone : oldest ∉ rest := (List.nodup_cons.1 hnodup).1
    apply hgone
    simpa [step, MultiAddonManager.downloadStep,
      MultiAddonManager.onAddonDownloaded_of_queued host (hqueue ▸ hmem), hqueue] using hlost

theorem Synchronised.step (h : s.Synchronised) {e : DownloadEvent} (horder : s.InOrder e) :
    (s.step e).1.Synchronised := by
  cases e with
  | downloadAddon host pszAddon bImportant bForce =>
    exact h.downloadAddon host pszAddon bImportant bForce
  | onAddonDownloaded host publishedFileId => exact h.onAddonDownloaded horder

theorem Synchronised.accurate_step_iff (h : s.Synchronised) (e : DownloadEvent) :
    (s.step e).1.Accurate ↔ s.InOrder e := by
  refine ⟨fun haccurate => ?_, fun horder => (h.step horder).accurate⟩
  cases e with
  | downloadAddon host pszAddon bImportant bForce => trivial
  | onAddonDownloaded host publishedFileId =>
    by_contra horder
    exact h.not_accurate horder haccurate

/-- Starting with nothing to download, the queue holds the outstanding downloads
after every step exactly when every completion of a download of the plugin
reports the oldest one. -/
theorem accurate_iff_in_order (m : MultiAddonManager) (hqueue : m.downloadQueue = [])
    (himportant : m.importantDownloads = []) (evs : List DownloadEvent) :
    EveryStep (fun pre e => (run TrackedDownloads.step ⟨m, []⟩ (pre ++ [e])).Accurate) evs ↔
      EveryStep (fun pre e => (run TrackedDownloads.step ⟨m, []⟩ pre).InOrder e) evs := by
  have hinit : Synchronised ⟨m, []⟩ := ⟨hqueue, by simp, by simp [himportant], by simp [himportant]⟩
  refine (everyStep_iff_of_agree fun pre e hpre => ?_).symm
  have hsync := run_induction TrackedDownloads.step (fun _ s => s.Synchronised) hpre hinit
    fun _ _ horder h => h.step horder
  rw [run_concat]
  exact (hsync.accurate_step_iff e).symm

theorem accurate_iff_in_order_two_downloads :
    let h : Host := { stringToUint64 := fun s => if s = ascii "10" then 10 else 20 }
    EveryStep (fun pre e => (run TrackedDownloads.step ⟨{}, []⟩ (pre ++ [e])).Accurate)
      [.downloadAddon h (ascii "10") true true, .downloadAddon h (ascii "20") true true,
        .onAddonDownloaded h 10, .onAddonDownloaded h 20] := by
  intro h
  rw [accurate_iff_in_order {} rfl rfl]
  simp only [everyStep_cons, everyStep_nil, and_true]
  exact ⟨trivial, trivial, fun _ => by decide +kernel, fun _ => by decide +kernel⟩

/-- Two important downloads that complete in the other order: nothing is
outstanding any more, but the queue and the important list are not empty. -/
theorem out_of_order_completion_leaves_queue :
    let h : Host := { stringToUint64 := fun s => if s = ascii "10" then 10 else 20 }
    let s := run TrackedDownloads.step ⟨{}, []⟩
      [.downloadAddon h (ascii "10") true true, .downloadAddon h (ascii "20") true true,
        .onAddonDownloaded h 20, .onAddonDownloaded h 10]
    s.outstanding = [] ∧ s.manager.downloadQueue = [20] ∧ s.manager.importantDownloads = [10] ∧
      ¬ s.Accurate := by
  intro h s
  have hs : s.outstanding = [] ∧ s.manager.downloadQueue = [20] ∧
      s.manager.importantDownloads = [10] := by decide +kernel
  refine ⟨hs.1, hs.2.1, hs.2.2, fun haccurate => ?_⟩
  have hempty := (haccurate.2.2 hs.1).1
  simp [hs.2.1] at hempty

end TrackedDownloads
end MultiAddonRss
