import MultiAddonRss.Foundations.FirstOccurrences
import MultiAddonRss.Manager.ConVarMirror

/-!
# The addon list of a host state request

The hook puts the workshop map in front of the server's list, once. Whether the
other addons occur once depends on the list: `AddAddon` keeps it free of repetitions,
and an assigned ConVar value is taken as it is.
-/

namespace MultiAddonRss

open Foundations

def Event.AddsOneAddon : Event → Prop
  | .addAddon pszAddon _ => IsSingleEntry pszAddon
  | _ => True

def Event.AssignsDistinct : Event → Prop
  | .setExtraAddons newVal => (stringToVector newVal).Nodup
  | _ => True

namespace MultiAddonManager

variable {m : MultiAddonManager} {h : Host} {request : HostStateRequest}

/-- The rewritten request names the workshop map, if there is one, and then the
other addons of the server's list, all of them once. -/
def ListsEachAddonOnce (h : Host) (m : MultiAddonManager) (request : HostStateRequest) : Prop :=
  let workshopMap := (m.hookSetPendingHostStateRequest h request).1.currentWorkshopMap
  let addons := stringToVector (m.hookSetPendingHostStateRequest h request).2.addons
  m.extraAddons ≠ [] → (workshopMap = [] ∨ IsSingleEntry workshopMap) →
    addons = (if workshopMap = [] then [] else [workshopMap]) ++
        (m.extraAddons.filter (· ≠ workshopMap)).eraseDups ∧
      addons.Nodup

theorem stringToVector_requestAddons (hsingle : ∀ addon ∈ m.extraAddons, IsSingleEntry addon)
    (hextra : m.extraAddons ≠ []) {workshopMap : CString}
    (hmap : (m.hookSetPendingHostStateRequest h request).1.currentWorkshopMap = workshopMap)
    (hentry : workshopMap = [] ∨ IsSingleEntry workshopMap) :
    stringToVector (m.hookSetPendingHostStateRequest h request).2.addons =
      if workshopMap = [] then m.extraAddons
      else workshopMap :: m.extraAddons.erase workshopMap := by
  have hlength : m.extraAddons.length ≠ 0 := by simpa using hextra
  simp only [hookSetPendingHostStateRequest] at hmap
  simp only [hookSetPendingHostStateRequest, rebuiltAddons, hmap, hlength, if_false,
    List.isEmpty_iff]
  split_ifs with hnil
  · exact stringToVector_vectorToString hsingle
  · apply stringToVector_vectorToString
    rw [List.forall_mem_cons]
    exact ⟨hentry.resolve_left hnil, fun addon ha => hsingle addon (List.mem_of_mem_erase ha)⟩

theorem listsEachAddonOnce_iff (hsingle : ∀ addon ∈ m.extraAddons, IsSingleEntry addon) :
    let workshopMap := (m.hookSetPendingHostStateRequest h request).1.currentWorkshopMap
    m.ListsEachAddonOnce h request ↔
      (m.extraAddons ≠ [] → (workshopMap = [] ∨ IsSingleEntry workshopMap) →
        m.extraAddons.Nodup) := by
  refine forall₂_congr fun hextra hentry => ?_
  rw [stringToVector_requestAddons hsingle hextra rfl hentry]
  generalize (m.hookSetPendingHostStateRequest h request).1.currentWorkshopMap = workshopMap
  have hfilter (hnodup : m.extraAddons.Nodup) :
      (m.extraAddons.filter (· ≠ workshopMap)).eraseDups = m.extraAddons.erase workshopMap := by
    rw [eraseDups_of_nodup (hnodup.filter _), hnodup.erase_eq_filter]
    exact List.filter_congr fun addon _ => by by_cases heq : addon = workshopMap <;> simp [heq]
  split_ifs with hnil
  · have hnone : workshopMap ∉ m.extraAddons := fun hmem => (hsingle _ hmem).1 hnil
    refine ⟨And.right, fun hnodup => ⟨?_, hnodup⟩⟩
    rw [hfilter hnodup, List.erase_of_not_mem hnone, List.nil_append]
  · rw [nodup_cons_erase_iff]
    refine ⟨And.right, fun hnodup => ⟨?_, hnodup⟩⟩
    rw [hfilter hnodup, List.singleton_append]

/-- Some request clears the workshop map, so all of them together depend on the
server's list alone. -/
theorem forall_listsEachAddonOnce_iff (hsingle : ∀ addon ∈ m.extraAddons, IsSingleEntry addon) :
    (∀ h request, m.ListsEachAddonOnce h request) ↔ m.extraAddons.Nodup := by
  constructor
  · intro hall
    by_cases hextra : m.extraAddons = []
    · simp [hextra]
    · exact (listsEachAddonOnce_iff hsingle).1 (hall {} { keyValues := some ⟨[], none⟩ }) hextra
        (.inl rfl)
  · exact fun hnodup h request => (listsEachAddonOnce_iff hsingle).2 fun _ _ => hnodup

/-! ## Reachable lists -/

theorem extraAddons_step (m : MultiAddonManager) (call : Call) :
    (m.step call).1.extraAddons = (m.extraMirror.step addonCodec (m.extraOp call.event)).list :=
  congrArg (fun mirrors => mirrors.1.list) (m.mirrors_step call)

theorem singleEntries_step (hsingle : ∀ addon ∈ m.extraAddons, IsSingleEntry addon) {call : Call}
    (hcall : call.event.AddsOneAddon) :
    ∀ addon ∈ (m.step call).1.extraAddons, IsSingleEntry addon := by
  rw [extraAddons_step]
  cases hevent : call.event with
  | addAddon pszAddon bRefresh =>
    have haddon : IsSingleEntry pszAddon := by
      rw [hevent] at hcall
      exact hcall
    simp only [extraOp]
    split_ifs
    · exact hsingle
    · exact List.forall_mem_append.2 ⟨hsingle, by simpa using haddon⟩
  | removeAddon pszAddon bRefresh =>
    simp only [extraOp]
    split_ifs
    · exact fun addon haddon => hsingle addon (List.mem_of_mem_erase haddon)
    · exact hsingle
  | setExtraAddons newVal => exact fun _ haddon => isSingleEntry_of_mem_stringToVector haddon
  | clearAddons => exact fun _ haddon => absurd haddon List.not_mem_nil
  | _ => exact hsingle

theorem nodup_extraAddons_step_iff (hnodup : m.extraAddons.Nodup) (call : Call) :
    (m.step call).1.extraAddons.Nodup ↔ call.event.AssignsDistinct := by
  rw [extraAddons_step]
  cases call.event with
  | addAddon pszAddon bRefresh =>
    refine iff_of_true ?_ trivial
    simp only [extraOp]
    split_ifs with hmem
    · exact hnodup
    · change (m.extraAddons ++ [pszAddon]).Nodup
      rw [← List.concat_eq_append]
      exact hnodup.concat hmem
  | removeAddon pszAddon bRefresh =>
    refine iff_of_true ?_ trivial
    simp only [extraOp]
    split_ifs
    · exact hnodup.erase _
    · exact hnodup
  | setExtraAddons newVal => exact Iff.rfl
  | clearAddons => exact iff_of_true List.nodup_nil trivial
  | _ => exact iff_of_true hnodup trivial

/-- In every state of a run, all requests list each addon once exactly if no
assigned value names an addon twice. -/
theorem requests_list_each_addon_once_iff (m : MultiAddonManager)
    (hsingle : ∀ addon ∈ m.extraAddons, IsSingleEntry addon) (hnodup : m.extraAddons.Nodup)
    (calls : List Call) (hcalls : EveryStep (fun _ call => call.event.AddsOneAddon) calls) :
    EveryStep (fun pre call => ∀ h request,
        (run step m (pre ++ [call])).ListsEachAddonOnce h request) calls ↔
      EveryStep (fun _ call => call.event.AssignsDistinct) calls := by
  have hentries (pre : List Call) (hpre : EveryStep (fun _ call => call.event.AddsOneAddon) pre) :
      ∀ addon ∈ (run step m pre).extraAddons, IsSingleEntry addon :=
    run_induction step (fun _ m => ∀ addon ∈ m.extraAddons, IsSingleEntry addon) hpre hsingle
      fun _ _ hcall hsingle => singleEntries_step hsingle hcall
  have hnodupIff : EveryStep (fun _ call => call.event.AssignsDistinct) calls ↔
      EveryStep (fun pre call => (run step m (pre ++ [call])).extraAddons.Nodup) calls := by
    refine everyStep_iff_of_agree fun pre call hpre => ?_
    have hreached := run_induction step (fun _ m => m.extraAddons.Nodup) hpre hnodup
      fun _ call hcall hnodup => (nodup_extraAddons_step_iff hnodup call).2 hcall
    rw [run_concat]
    exact (nodup_extraAddons_step_iff hreached call).symm
  rw [hnodupIff]
  refine everyStep_iff_of_assumed hcalls fun pre call hpre hcall => ?_
  exact forall_listsEachAddonOnce_iff (hentries _ (everyStep_concat.2 ⟨hpre, hcall⟩))

theorem requests_list_each_addon_once_fresh_server :
    let calls : List Call := [⟨{}, .setExtraAddons (ascii "1111111111,2222222222")⟩,
      ⟨{}, .addAddon (ascii "3333333333") false⟩]
    EveryStep (fun pre call => ∀ h request,
        (run step {} (pre ++ [call])).ListsEachAddonOnce h request) calls ↔
      EveryStep (fun _ call => call.event.AssignsDistinct) calls :=
  requests_list_each_addon_once_iff {} (by simp) List.nodup_nil _ <| everyStep_cons.2
    ⟨trivial, everyStep_cons.2 ⟨(by decide : IsSingleEntry (ascii "3333333333")), everyStep_nil⟩⟩

/-- The ConVar names 1111111111 twice, and so does the next request. -/
theorem repeated_value_repeats_addon :
    ¬ EveryStep (fun pre call => ∀ h request,
        (run step {} (pre ++ [call])).ListsEachAddonOnce h request)
      [⟨{}, .setExtraAddons (ascii "1111111111,1111111111")⟩] := by
  intro hrun
  have hlists := hrun [] _ [] rfl {} {} (by decide +kernel) (.inl (by decide +kernel))
  exact absurd hlists.2 (by decide +kernel)

end MultiAddonManager
end MultiAddonRss
