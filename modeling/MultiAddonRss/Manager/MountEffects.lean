import MultiAddonRss.Manager.Downloads

/-!
# What mounting and downloading change

The operations on the server's own addons write the mounted addons, the search
paths and the two download lists. They mount only installed addons that are asked
for, and what they make visible are requests to Steam and server commands.
-/

namespace MultiAddonRss

def Output.isServerSide : Output → Bool
  | .downloadItem _ | .serverCommand _ => true
  | _ => false

def Host.canMount (h : Host) (pszAddon : CString) : Bool :=
  let iAddonState := h.itemState (h.stringToUint64 pszAddon)
  iAddonState &&& itemStateLegacyItem = 0 && iAddonState &&& itemStateInstalled ≠ 0 &&
    (h.packageExists ⟨pszAddon, false⟩ || h.packageExists ⟨pszAddon, true⟩)

namespace MultiAddonManager

variable (h : Host) (m : MultiAddonManager)

/-- The states differ at most in what mounting and downloading write. -/
def MountChange (m' : MultiAddonManager) : Prop :=
  ∃ mountedAddons searchPaths importantDownloads downloadQueue,
    m' = { m with mountedAddons := mountedAddons, searchPaths := searchPaths,
                  importantDownloads := importantDownloads, downloadQueue := downloadQueue }

/-- A result of an operation that may mount the addons `added`. -/
structure MountEffect (added : List CString) (result : MultiAddonManager × List Output) :
    Prop where
  change : m.MountChange result.1
  mounted : ∀ addon ∈ result.1.mountedAddons,
    addon ∈ m.mountedAddons ∨ addon ∈ added ∧ h.canMount addon = true
  outputs : ∀ o ∈ result.2, o.isServerSide = true

variable {h m}

theorem MountChange.refl (m : MultiAddonManager) : m.MountChange m :=
  ⟨m.mountedAddons, m.searchPaths, m.importantDownloads, m.downloadQueue, rfl⟩

theorem MountChange.trans {m' m'' : MultiAddonManager} (hchange : m.MountChange m')
    (hchange' : m'.MountChange m'') : m.MountChange m'' := by
  obtain ⟨_, _, _, _, rfl⟩ := hchange
  obtain ⟨mountedAddons, searchPaths, importantDownloads, downloadQueue, rfl⟩ := hchange'
  exact ⟨mountedAddons, searchPaths, importantDownloads, downloadQueue, rfl⟩

theorem MountEffect.refl (h : Host) (m : MultiAddonManager) (added : List CString) :
    m.MountEffect h added (m, []) :=
  ⟨.refl m, fun _ haddon => .inl haddon, by simp⟩

theorem MountEffect.mono {added added' : List CString}
    {result : MultiAddonManager × List Output} (hresult : m.MountEffect h added result)
    (hadded : added ⊆ added') : m.MountEffect h added' result :=
  ⟨hresult.change, fun addon haddon =>
    (hresult.mounted addon haddon).imp_right (And.imp_left (@hadded addon)), hresult.outputs⟩

theorem MountEffect.append {added : List CString} {result : MultiAddonManager × List Output}
    {out : List Output} (hresult : m.MountEffect h added result)
    (hout : ∀ o ∈ out, o.isServerSide = true) :
    m.MountEffect h added (result.1, result.2 ++ out) :=
  ⟨hresult.change, hresult.mounted, fun o ho =>
    (List.mem_append.1 ho).elim (hresult.outputs o) (hout o)⟩

theorem MountEffect.trans {added : List CString}
    {result result' : MultiAddonManager × List Output} (hresult : m.MountEffect h added result)
    (hresult' : result.1.MountEffect h added result') :
    m.MountEffect h added (result'.1, result.2 ++ result'.2) := by
  refine ⟨hresult.change.trans hresult'.change, fun addon haddon => ?_, fun o ho => ?_⟩
  · rcases hresult'.mounted addon haddon with hmounted | hadded
    · exact hresult.mounted addon hmounted
    · exact .inr hadded
  · exact (List.mem_append.1 ho).elim (hresult.outputs o) (hresult'.outputs o)

variable (h)

theorem isServerSide_reloadMap : ∀ o ∈ m.reloadMap h, o.isServerSide = true := by
  unfold reloadMap
  split_ifs <;> simp [Output.isServerSide]

variable (m)

theorem mountEffect_downloadAddon (pszAddon : CString) (bImportant bForce : Bool) :
    m.MountEffect h [] (m.downloadAddon h pszAddon bImportant bForce).2 := by
  rcases downloadAddon_cases h m pszAddon bImportant bForce with
    ⟨result, hcall⟩ | ⟨addon, importantDownloads, -, -, -, hcall⟩
  · rw [hcall]
    exact .refl h m []
  · rw [hcall]
    exact ⟨⟨_, _, _, _, rfl⟩, fun _ haddon => .inl haddon, by simp [Output.isServerSide]⟩

theorem mountEffect_onAddonDownloaded (publishedFileId : UInt64) :
    m.MountEffect h [] (m.onAddonDownloaded h publishedFileId) := by
  have hchange (out : List Output) (hout : ∀ o ∈ out, o.isServerSide = true) :
      m.MountEffect h [] ({ m with
        downloadQueue := m.downloadQueue.tail,
        importantDownloads := m.importantDownloads.erase publishedFileId }, out) :=
    ⟨⟨_, _, _, _, rfl⟩, fun _ haddon => .inl haddon, hout⟩
  simp only [onAddonDownloaded]
  split_ifs with hqueued hlast
  · exact hchange _ (isServerSide_reloadMap h)
  · exact hchange [] (by simp)
  · exact .refl h m []

theorem mounts_downloadAddon (pszAddon : CString) (bImportant bForce : Bool) :
    (m.downloadAddon h pszAddon bImportant bForce).2.1.mountedAddons = m.mountedAddons ∧
      (m.downloadAddon h pszAddon bImportant bForce).2.1.searchPaths = m.searchPaths := by
  rcases downloadAddon_cases h m pszAddon bImportant bForce with
    ⟨result, hcall⟩ | ⟨addon, importantDownloads, -, -, -, hcall⟩
  · simp [hcall]
  · simp [hcall]

/-! ## Mounting -/

/-- No test of `MountAddon` refuses the addon but the last one, for mounted addons. -/
def mountable (pszAddon : CString) : Bool :=
  !pszAddon.isEmpty && pszAddon ∉ stringToVector m.currentWorkshopMap && h.canMount pszAddon

/-- What `MountAddon` has done before its last tests: nothing, or one call of
`DownloadAddon`. -/
def MayDownload (pszAddon : CString) (result : MultiAddonManager × List Output) : Prop :=
  result = (m, []) ∨ ∃ bImportant bForce,
    result = (m.downloadAddon h pszAddon bImportant bForce).2

variable {h m} in
theorem MayDownload.mountEffect {pszAddon : CString} {result : MultiAddonManager × List Output}
    (hresult : m.MayDownload h pszAddon result) : m.MountEffect h [] result := by
  rcases hresult with rfl | ⟨bImportant, bForce, rfl⟩
  · exact .refl h m []
  · exact m.mountEffect_downloadAddon h pszAddon bImportant bForce

variable {h m} in
theorem MayDownload.mounts {pszAddon : CString} {result : MultiAddonManager × List Output}
    (hresult : m.MayDownload h pszAddon result) :
    result.1.mountedAddons = m.mountedAddons ∧ result.1.searchPaths = m.searchPaths := by
  rcases hresult with rfl | ⟨bImportant, bForce, rfl⟩
  · exact ⟨rfl, rfl⟩
  · exact m.mounts_downloadAddon h pszAddon bImportant bForce

/-- A call of `MountAddon` mounts a mountable addon that is not mounted, and no
other one. -/
theorem mountAddon_cases (pszAddon : CString) :
    ∃ result, m.MayDownload h pszAddon result ∧
      ((m.mountable h pszAddon = true ∧ pszAddon ∉ m.mountedAddons) ∧
          m.mountAddon h pszAddon = (true, { result.1 with
            searchPaths := h.addSearchPath m.searchPaths ⟨pszAddon, true⟩,
            mountedAddons := m.mountedAddons ++ [pszAddon] }, result.2) ∨
        ¬ (m.mountable h pszAddon = true ∧ pszAddon ∉ m.mountedAddons) ∧
          m.mountAddon h pszAddon = (false, result)) := by
  have hmid : m.MayDownload h pszAddon (if m.conVars.mmAddonMountDownload then
      m.downloadAddon h pszAddon false true else (true, m, [])).2 := by
    split_ifs
    · exact .inr ⟨false, true, rfl⟩
    · exact .inl rfl
  simp only [mountAddon]
  generalize (if m.conVars.mmAddonMountDownload = true then
    m.downloadAddon h pszAddon false true else (true, m, [])) = mid at hmid ⊢
  obtain ⟨hmounted, hpaths⟩ := hmid.mounts
  split_ifs with hempty hmap hlegacy hinstalled hpackage hold
  · exact ⟨_, .inl rfl, .inr ⟨by simp [mountable, hempty], rfl⟩⟩
  · exact ⟨_, .inl rfl, .inr ⟨by simp [mountable, hmap], rfl⟩⟩
  · exact ⟨_, .inl rfl, .inr ⟨by simp [mountable, Host.canMount, hlegacy], rfl⟩⟩
  · exact ⟨_, .inr ⟨true, true, rfl⟩, .inr ⟨by simp [mountable, Host.canMount, hinstalled], rfl⟩⟩
  · have hnone : (h.packageExists ⟨pszAddon, false⟩ ||
        h.packageExists ⟨pszAddon, true⟩) = false := by
      simpa using hpackage
    exact ⟨_, hmid, .inr ⟨by simp [mountable, Host.canMount, hnone], rfl⟩⟩
  · exact ⟨_, hmid, .inr ⟨by simp [← hmounted, hold], rfl⟩⟩
  · have hsome : (h.packageExists ⟨pszAddon, false⟩ ||
        h.packageExists ⟨pszAddon, true⟩) = true := by
      by_contra hnone
      simp_all
    have hnew : m.mountable h pszAddon = true := by
      simp [mountable, Host.canMount, hempty, hmap, not_not.1 hlegacy, hinstalled, hsome]
    rw [hmounted] at hold
    exact ⟨_, hmid, .inl ⟨⟨hnew, hold⟩, by rw [hmounted, hpaths]⟩⟩

theorem mountEffect_mountAddon (pszAddon : CString) :
    m.MountEffect h [pszAddon] (m.mountAddon h pszAddon).2 := by
  obtain ⟨result, hdownload, ⟨⟨hnew, -⟩, hcall⟩ | ⟨-, hcall⟩⟩ := m.mountAddon_cases h pszAddon
  · have heffect := hdownload.mountEffect
    rw [hcall]
    refine ⟨heffect.change.trans ⟨_, _, _, _, rfl⟩, fun addon haddon => ?_, heffect.outputs⟩
    rcases List.mem_append.1 haddon with hold | hadded
    · exact .inl hold
    · obtain rfl := List.mem_singleton.1 hadded
      simp only [mountable, Bool.and_eq_true] at hnew
      exact .inr ⟨hadded, hnew.2⟩
  · rw [hcall]
    exact hdownload.mountEffect.mono (by simp)

theorem findAndFastRemove_subset (vector : List CString) (src : CString) :
    findAndFastRemove vector src ⊆ vector := by
  unfold findAndFastRemove
  split_ifs with hsrc
  · intro addon haddon
    rcases List.mem_or_eq_of_mem_set (List.mem_of_mem_dropLast haddon) with hmem | rfl
    · exact hmem
    · rw [List.getLastD_eq_getLast?, List.getLast?_eq_some_getLast (List.ne_nil_of_mem hsrc)]
      exact List.getLast_mem _
  · exact List.Subset.refl _

theorem mountEffect_unmountAddon (pszAddon : CString) :
    m.MountEffect h [] ((m.unmountAddon h pszAddon).2, []) := by
  unfold unmountAddon
  split_ifs
  · exact .refl h m []
  · cases h.removeSearchPath m.searchPaths ⟨pszAddon, false⟩ with
    | none => exact .refl h m []
    | some searchPaths =>
      refine ⟨⟨_, _, _, _, rfl⟩, fun addon haddon => .inl ?_, by simp⟩
      exact findAndFastRemove_subset m.mountedAddons pszAddon haddon

theorem mountEffect_unmountAll (count : ℕ) : m.MountEffect h [] (unmountAll h count m, []) := by
  induction count generalizing m with
  | zero => exact .refl h m []
  | succ count ih => exact (m.mountEffect_unmountAddon h _).trans (ih _)

theorem mountEffect_mountAll (addons : List CString) :
    m.MountEffect h addons (mountAll h addons m).2 := by
  induction addons generalizing m with
  | nil => exact .refl h m []
  | cons addon addons ih =>
    exact ((m.mountEffect_mountAddon h addon).mono (by simp)).trans ((ih _).mono (by simp))

theorem MountChange.extraAddons {m m' : MultiAddonManager} (hchange : m.MountChange m') :
    m'.extraAddons = m.extraAddons := by
  obtain ⟨_, _, _, _, rfl⟩ := hchange
  rfl

theorem mountEffect_refreshAddons (bReloadMap : Bool) :
    m.MountEffect h m.extraAddons (m.refreshAddons h bReloadMap) := by
  have hunmount := m.mountEffect_unmountAll h m.mountedAddons.length
  simp only [refreshAddons]
  generalize unmountAll h m.mountedAddons.length m = unmounted at hunmount ⊢
  have hmount := mountEffect_mountAll h unmounted unmounted.extraAddons
  rw [hunmount.change.extraAddons] at hmount ⊢
  have hboth := (hunmount.mono (List.nil_subset _)).trans hmount
  split_ifs
  · exact .refl h m _
  · exact hboth.append (isServerSide_reloadMap h)
  · exact hboth

end MultiAddonManager
end MultiAddonRss
