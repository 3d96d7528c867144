import MultiAddonRss.Manager.HookSpecs

/-!
# The list in the reply

The original `ReplyConnection` reads the list from the addon string of the
server, which the hook overwrites for the call and restores afterwards.
-/

namespace MultiAddonRss
namespace MultiAddonManager

/-- The call of the original function with another addon string. Whatever it
does to the string is undone. -/
def callOriginal (m : MultiAddonManager) (original : MultiAddonManager → MultiAddonManager)
    (addons : CString) : MultiAddonManager :=
  let originalAddons := m.serverAddons
  let m := original { m with serverAddons := addons }
  { m with serverAddons := originalAddons }

/-- `Hook_ReplyConnection` with the original function as an argument. On the plain
zero-list path the engine calls it after the hook. -/
def hookReplyConnectionCalling (m : MultiAddonManager)
    (original : MultiAddonManager → MultiAddonManager) (now : ℚ) (steamID64 : UInt64) :
    MultiAddonManager :=
  let (m, out) := m.hookReplyConnection now steamID64
  out.foldl (fun m o =>
    match o with
    | .replyConnection _ addons => m.callOriginal original addons
    | _ => m) m

variable {m : MultiAddonManager} {now : ℚ} {steamID64 : UInt64}

theorem serverAddons_hookReplyConnection :
    (m.hookReplyConnection now steamID64).1.serverAddons = m.serverAddons := by
  simp only [hookReplyConnection]
  split <;> split_ifs <;> rfl

theorem serverAddons_hookReplyConnectionCalling
    (original : MultiAddonManager → MultiAddonManager) :
    (m.hookReplyConnectionCalling original now steamID64).serverAddons = m.serverAddons := by
  rw [← @serverAddons_hookReplyConnection m now steamID64]
  unfold hookReplyConnectionCalling
  dsimp only
  generalize (m.hookReplyConnection now steamID64).2 = out
  generalize (m.hookReplyConnection now steamID64).1 = m
  induction out generalizing m with
  | nil => rfl
  | cons o out ih =>
    rw [List.foldl_cons, ih]
    cases o <;> rfl

/-- The addons that the reply may name: the downloaded ones and the pending one,
as they are when the original function is called. -/
def mayBeNamed (m : MultiAddonManager) (now : ℚ) (steamID64 : UInt64) (addon : CString) : Bool :=
  let clientInfo := (m.hookReplyConnection now steamID64).1.clientAddons steamID64
  addon ∈ clientInfo.downloadedAddons || addon = clientInfo.currentPendingAddon

/-- The addon is named although it is not downloaded yet. -/
def isOffered (m : MultiAddonManager) (now : ℚ) (steamID64 : UInt64) (addon : CString) : Bool :=
  addon ∉ ((m.hookReplyConnection now steamID64).1.clientAddons steamID64).downloadedAddons

/-- What is sent to an enabled client. -/
structure EnabledReply (m : MultiAddonManager) (now : ℚ) (steamID64 : UInt64)
    (sent : List CString) : Prop where
  content : sent = (m.getClientAddons steamID64 false).filter (m.mayBeNamed now steamID64)
  head : ∃ firstAddon ∈ sent, (m.getClientAddons steamID64 false).head? = some firstAddon
  offers : (sent.filter (m.isOffered now steamID64)).length ≤ 1

/-- What is sent to an opted-out client. -/
structure OptedOutReply (m : MultiAddonManager) (now : ℚ) (steamID64 : UInt64)
    (sent : List CString) : Prop where
  content : sent = (m.getClientAddons steamID64 true).filter fun addon =>
    isRssAssetAddon addon || m.mayBeNamed now steamID64 addon
  unstaged : m.getClientAddons steamID64 false = [] → sent = m.getClientAddons steamID64 true
  offers : (sent.filter fun addon =>
    !isRssAssetAddon addon && m.isOffered now steamID64 addon).length ≤ 1

theorem length_le_one_of_nodup {α : Type*} {l : List α} (a : α) (hnodup : l.Nodup)
    (hl : ∀ b ∈ l, b = a) : l.length ≤ 1 := by
  rw [List.eq_replicate_of_mem hl] at hnodup
  exact List.nodup_replicate.1 hnodup

theorem isRssAssetAddon_of_unstaged (hneed : m.getClientAddons steamID64 false = [])
    {addon : CString} (haddon : addon ∈ m.getClientAddons steamID64 true) :
    isRssAssetAddon addon = true := by
  by_contra hrss
  have hstaged : addon ∈ m.getClientAddons steamID64 false :=
    mem_getClientAddons.2 ⟨(mem_getClientAddons.1 haddon).1, .inr (by simp [isStaged, hrss])⟩
  simp [hneed] at hstaged

theorem optedOutReply_of_nil (hneed : m.getClientAddons steamID64 false = []) :
    m.OptedOutReply now steamID64 (m.getClientAddons steamID64 true) := by
  have hrss := @isRssAssetAddon_of_unstaged m steamID64 hneed
  constructor
  · symm
    rw [List.filter_eq_self]
    intro addon haddon
    simp [hrss haddon]
  · exact fun _ => rfl
  · have hnone : ((m.getClientAddons steamID64 true).filter fun addon =>
        !isRssAssetAddon addon && m.isOffered now steamID64 addon) = [] := by
      rw [List.filter_eq_nil_iff]
      intro addon haddon
      simp [hrss haddon]
    simp [hnone]

section Staged

variable {firstAddon : CString} {rest : List CString}
  (hlist : m.getClientAddons steamID64 false = firstAddon :: rest)
  (htimeout : m.connectionTimedOut now (m.replyInfo now steamID64) = false)

include hlist htimeout

theorem clientAddons_of_replied :
    (m.hookReplyConnection now steamID64).1.clientAddons steamID64 =
      m.repliedInfo now steamID64 firstAddon := by
  rw [hookReplyConnection_of_cons hlist htimeout, clientAddons_setClient_self]

theorem eq_pending_of_isOffered {addon : CString} (hnamed : m.mayBeNamed now steamID64 addon = true)
    (hoffered : m.isOffered now steamID64 addon = true) :
    addon = (m.repliedInfo now steamID64 firstAddon).currentPendingAddon := by
  simp only [mayBeNamed, isOffered, clientAddons_of_replied hlist htimeout, Bool.or_eq_true,
    decide_eq_true_eq] at hnamed hoffered
  exact hnamed.resolve_left hoffered

theorem enabledReply_of_cons :
    m.EnabledReply now steamID64
      ((m.getClientAddons steamID64 false).filter (m.mayBeNamed now steamID64)) := by
  refine ⟨rfl, ⟨firstAddon, List.mem_filter.2 ⟨by simp [hlist], ?_⟩, by simp [hlist]⟩, ?_⟩
  · simp only [mayBeNamed, clientAddons_of_replied hlist htimeout, repliedInfo]
    split_ifs with hfirst
    · simp [hfirst]
    · simp
  · apply length_le_one_of_nodup (m.repliedInfo now steamID64 firstAddon).currentPendingAddon
    · exact ((nodup_getClientAddons false).filter _).filter _
    · intro addon haddon
      obtain ⟨hsent, hoffered⟩ := List.mem_filter.1 haddon
      exact eq_pending_of_isOffered hlist htimeout (List.mem_filter.1 hsent).2 hoffered

theorem optedOutReply_of_cons :
    m.OptedOutReply now steamID64 ((m.getClientAddons steamID64 true).filter fun addon =>
      isRssAssetAddon addon || m.mayBeNamed now steamID64 addon) := by
  refine ⟨rfl, fun hnil => absurd (hlist.symm.trans hnil) (by simp), ?_⟩
  apply length_le_one_of_nodup (m.repliedInfo now steamID64 firstAddon).currentPendingAddon
  · exact ((nodup_getClientAddons true).filter _).filter _
  · intro addon haddon
    obtain ⟨hsent, htest⟩ := List.mem_filter.1 haddon
    simp only [Bool.and_eq_true, Bool.not_eq_true'] at htest
    have hnamed := (List.mem_filter.1 hsent).2
    simp only [htest.1, Bool.false_or] at hnamed
    exact eq_pending_of_isOffered hlist htimeout hnamed htest.2

/-- The recombination by membership in the staged list tests the addon itself. -/
theorem repliedAddons_eq :
    m.repliedAddons steamID64 (m.repliedInfo now steamID64 firstAddon) =
      if m.isClientRssAssetsEnabled steamID64 then
        (m.getClientAddons steamID64 false).filter (m.mayBeNamed now steamID64)
      else (m.getClientAddons steamID64 true).filter fun addon =>
        isRssAssetAddon addon || m.mayBeNamed now steamID64 addon := by
  have hnamed : (fun addon : CString =>
      (addon ∈ (m.repliedInfo now steamID64 firstAddon).downloadedAddons ||
        addon = (m.repliedInfo now steamID64 firstAddon).currentPendingAddon : Bool)) =
          m.mayBeNamed now steamID64 := by
    funext addon
    rw [mayBeNamed, clientAddons_of_replied hlist htimeout]
  simp only [repliedAddons, hnamed]
  split_ifs with henabled
  · rfl
  · apply List.filter_congr
    intro addon haddon
    cases hrss : isRssAssetAddon addon with
    | true => simp
    | false =>
      have hstaged : addon ∈ m.getClientAddons steamID64 false :=
        mem_getClientAddons.2 ⟨(mem_getClientAddons.1 haddon).1, .inr (by simp [isStaged, hrss])⟩
      simp [List.mem_filter, hstaged]

end Staged

/-- The original function is called with the list of the reply in the addon string
of the server, and in every case the string is the old one when the hook returns. -/
theorem reply_list_content (m : MultiAddonManager) (now : ℚ) (steamID64 : UInt64) :
    (∀ original, (m.hookReplyConnectionCalling original now steamID64).serverAddons =
      m.serverAddons) ∧
    ∀ addons, .replyConnection steamID64 addons ∈ (m.hookReplyConnection now steamID64).2 →
      ∃ sent,
        (∀ original, m.hookReplyConnectionCalling original now steamID64 =
          (m.hookReplyConnection now steamID64).1.callOriginal original (vectorToString sent)) ∧
        addons = vectorToString sent ∧
        (m.isClientRssAssetsEnabled steamID64 = true → m.EnabledReply now steamID64 sent) ∧
        (m.isClientRssAssetsEnabled steamID64 = false → m.OptedOutReply now steamID64 sent) := by
  refine ⟨serverAddons_hookReplyConnectionCalling, fun addons hcalled => ?_⟩
  cases hlist : m.getClientAddons steamID64 false with
  | nil =>
    have hhook := @hookReplyConnection_of_nil m now steamID64 hlist
    have hout : (m.hookReplyConnection now steamID64).2 = _ := congrArg Prod.snd hhook
    dsimp only at hout
    split_ifs at hout with hplain
    · simp [hout] at hcalled
    · obtain rfl : addons = _ := by simpa [hout] using hcalled
      simp only [Bool.or_eq_true, decide_eq_true_eq, not_or] at hplain
      refine ⟨_, fun original => ?_, rfl, fun henabled => absurd henabled hplain.1,
        fun _ => optedOutReply_of_nil hlist⟩
      simp [hookReplyConnectionCalling, hout]
  | cons firstAddon rest =>
    cases htimeout : m.connectionTimedOut now (m.replyInfo now steamID64) with
    | true =>
      rw [hookReplyConnection_of_timeout (by simp [hlist]) htimeout] at hcalled
      simp at hcalled
    | false =>
      have hout : (m.hookReplyConnection now steamID64).2 = _ :=
        congrArg Prod.snd (hookReplyConnection_of_cons hlist htimeout)
      dsimp only at hout
      obtain rfl : addons = _ := by simpa [hout] using hcalled
      refine ⟨_, fun original => ?_, rfl, fun henabled => ?_, fun hoff => ?_⟩
      · simp [hookReplyConnectionCalling, hout]
      · rw [repliedAddons_eq hlist htimeout, if_pos henabled]
        exact enabledReply_of_cons hlist htimeout
      · rw [repliedAddons_eq hlist htimeout, hoff]
        exact optedOutReply_of_cons hlist htimeout

end MultiAddonManager
end MultiAddonRss
