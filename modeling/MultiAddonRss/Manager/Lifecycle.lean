import MultiAddonRss.Foundations.ProofOutline
import MultiAddonRss.Manager.CfgFile
import MultiAddonRss.Manager.PreferenceFrames

/-!
# Loading the plugin

`Load` is a routine whose actions are interleaved with the calls that its earlier
actions have made possible: interface calls once the plugin listens, a hook's callback as
soon as the hook is installed, downloads once the Steam callback is registered. The
preferences are published before the first hook is installed, and no hook is installed
unless every interface, signature and virtual table was found.
-/

namespace MultiAddonRss

open Foundations

/-- The interfaces of the engine, in the order in which they are asked for. -/
inductive Interface
  | engineServer | cVar | source2GameClients | source2Server | networkServerService
  | networkMessages | gameEventSystem | fullFileSystem
deriving DecidableEq

inductive Lookup
  | hostStateRequest | replyConnection | scriptGetAddon
  | gameEventManagerVTable | serverSideClientVTable | hltvClientVTable
deriving DecidableEq

inductive Hook
  | setPendingHostStateRequest | replyConnection | scriptGetAddon
  | clientConnect | canHLTVClientConnect | clientDisconnect | clientActive
  | gameServerSteamAPIActivated | gameFrame | startupServer | postEventAbstract
  | loadEventsFromFile | sendNetMessageServerSideClient | sendNetMessageHLTVClient
deriving DecidableEq

/-- The hooks on functions, which `Configure` installs and `Unload` does not remove. -/
def Hook.isFunctionHook : Hook → Bool
  | .setPendingHostStateRequest | .replyConnection | .scriptGetAddon => true
  | _ => false

/-- The statements of `Load`. -/
inductive LoadAction
  | getInterface (iface : Interface)
  | addListener
  | lookup (address : Lookup)
  | checkRequiredInit
  | loadRssAssetOptOutClients
  | install (hook : Hook)
  | lateStart
  | registerConVars
  | parseCfg
  | succeed
deriving DecidableEq

/-- What `Load` finds. The text for a missing interface is Metamod's. -/
structure LoadEnvironment where
  hasInterface : Interface → Bool := fun _ => true
  interfaceError : Interface → CString := fun _ => []
  finds : Lookup → Bool := fun _ => true
  preferences : LoadOutcome := {}
  late : Bool := false
  /-- `GetServerGlobals` of a late load. -/
  serverGlobals : Bool := true
  cfgFile : Option CString := none

structure Plugin where
  manager : MultiAddonManager
  hooks : List Hook := []
  listening : Bool := false
  bRequiredInitLoaded : Bool := true
  conVarsRegistered : Bool := false
  steamCallback : Bool := false
  commands : List CString := []
  error : CString := []
  loaded : Bool := false

namespace Plugin

def allHooks : List Hook :=
  [.setPendingHostStateRequest, .replyConnection, .scriptGetAddon, .clientConnect,
    .canHLTVClientConnect, .clientDisconnect, .clientActive, .gameServerSteamAPIActivated,
    .gameFrame, .startupServer, .postEventAbstract, .loadEventsFromFile,
    .sendNetMessageServerSideClient, .sendNetMessageHLTVClient]

def checks : List LoadAction :=
  [.getInterface .engineServer, .getInterface .cVar, .getInterface .source2GameClients,
    .getInterface .source2Server, .getInterface .networkServerService,
    .getInterface .networkMessages, .getInterface .gameEventSystem,
    .getInterface .fullFileSystem, .addListener, .lookup .hostStateRequest,
    .lookup .replyConnection, .lookup .scriptGetAddon, .lookup .gameEventManagerVTable,
    .lookup .serverSideClientVTable, .lookup .hltvClientVTable, .checkRequiredInit]

def effects : List LoadAction :=
  allHooks.map .install ++ [.lateStart, .registerConVars, .parseCfg, .succeed]

def loadActions : List LoadAction :=
  checks ++ .loadRssAssetOptOutClients :: effects

def lookupsFailed : CString :=
  ascii "One or more address lookups failed, please refer to startup logs for more information"

/-- A statement of `Load`. `some` is the value that it returns. -/
def perform (env : LoadEnvironment) (action : LoadAction) (p : Plugin) : Plugin × Option Bool :=
  match action with
  | .getInterface iface =>
    if env.hasInterface iface then (p, none)
    else ({ p with error := env.interfaceError iface }, some false)
  | .addListener => ({ p with listening := true }, none)
  | .lookup address =>
    if env.finds address then (p, none) else ({ p with bRequiredInitLoaded := false }, none)
  | .checkRequiredInit =>
    if p.bRequiredInitLoaded then (p, none) else ({ p with error := lookupsFailed }, some false)
  | .loadRssAssetOptOutClients =>
    ({ p with manager := p.manager.loadRssAssetOptOutClients env.preferences }, none)
  | .install hook => ({ p with hooks := p.hooks ++ [hook] }, none)
  | .lateStart =>
    if env.late then
      ({ p with manager := { p.manager with globalsReady := env.serverGlobals }
                steamCallback := p.steamCallback || p.manager.dedicatedServer }, none)
    else (p, none)
  | .registerConVars => ({ p with conVarsRegistered := true }, none)
  | .parseCfg => ({ p with commands := p.commands ++ MultiAddonRss.parseCfg env.cfgFile }, none)
  | .succeed => ({ p with loaded := true }, some true)

/-- `Unload`. The listener and the ConVars are left to Metamod. -/
def unload (h : Host) (p : Plugin) : Plugin :=
  { p with manager := p.manager.clearAddons h
           hooks := p.hooks.filter Hook.isFunctionHook
           loaded := false }

/-- Whether a call can reach the plugin. -/
def delivers (p : Plugin) : Event → Bool
  | .replyConnection _ => .replyConnection ∈ p.hooks
  | .clientConnect _ => .clientConnect ∈ p.hooks
  | .canHLTVClientConnect _ => .canHLTVClientConnect ∈ p.hooks
  | .clientDisconnect _ => .clientDisconnect ∈ p.hooks
  | .clientActive _ => .clientActive ∈ p.hooks
  | .sendNetMessage _ _ =>
    .sendNetMessageServerSideClient ∈ p.hooks || .sendNetMessageHLTVClient ∈ p.hooks
  | .gameFrame => .gameFrame ∈ p.hooks
  | .startupServer => .startupServer ∈ p.hooks
  | .gameServerSteamAPIActivated => .gameServerSteamAPIActivated ∈ p.hooks
  | .setPendingHostStateRequest _ => .setPendingHostStateRequest ∈ p.hooks
  | .onAddonDownloaded _ => p.steamCallback
  | .setExtraAddons _ | .setClientExtraAddons _ | .setConVars _ => p.conVarsRegistered
  | _ => p.listening

def registersSteamCallback (p : Plugin) : Event → Bool
  | .gameServerSteamAPIActivated => p.manager.dedicatedServer
  | _ => false

inductive Interruption
  | callback (call : Call)
  | unload (host : Host)

def interfere (interruption : Interruption) (p : Plugin) : Plugin :=
  match interruption with
  | .callback call =>
    if p.delivers call.event then
      { p with manager := (p.manager.step call).1
               steamCallback := p.steamCallback || p.registersSteamCallback call.event }
    else p
  | .unload h => if p.loaded then p.unload h else p

def start (m : MultiAddonManager) : Routine Plugin LoadAction Bool :=
  Routine.start loadActions { manager := m }

def step (env : LoadEnvironment) :
    Routine Plugin LoadAction Bool → RoutineEvent Interruption →
      Routine Plugin LoadAction Bool × Unit :=
  Routine.step (perform env) interfere

/-! ## The outline of `Load` -/

def Complete (env : LoadEnvironment) : Prop :=
  (∀ iface, env.hasInterface iface = true) ∧ ∀ address, env.finds address = true

def Interruption.setter : Interruption → Option SetterCall
  | .callback call => call.event.setter
  | .unload _ => none

def setters (evs : List (RoutineEvent Interruption)) : List SetterCall :=
  evs.filterMap fun e => e.interruption.bind Interruption.setter

section Outline

variable (m : MultiAddonManager) (env : LoadEnvironment)

/-- Nothing has been done to the engine and to the preferences. -/
structure Untouched (p : Plugin) : Prop where
  hooks : p.hooks = []
  preferences : p.manager.preferences = m.preferences
  commands : p.commands = []
  conVarsRegistered : p.conVarsRegistered = false
  steamCallback : p.steamCallback = false
  loaded : p.loaded = false

/-- The state after some of the checks. -/
structure Checked (done : List LoadAction) (p : Plugin) : Prop extends Untouched m p where
  listening : .addListener ∈ done → p.listening = true
  interfaces : ∀ iface, .getInterface iface ∈ done → env.hasInterface iface = true
  lookups : p.bRequiredInitLoaded = true ↔ ∀ address, .lookup address ∈ done →
    env.finds address = true
  required : .checkRequiredInit ∈ done → p.bRequiredInitLoaded = true

/-- The preferences were loaded behind the checks, and the setter calls since then were
made on them. -/
def Published (evs : List (RoutineEvent Interruption)) (p : Plugin) : Prop :=
  p.listening = true ∧ ∃ evs₁ evs₂, evs = evs₁ ++ .advance :: evs₂ ∧
    evs₁.countP RoutineEvent.isAdvance = checks.length ∧
    p.manager.preferences = (run MultiAddonManager.setterStep
      (m.loadRssAssetOptOutClients env.preferences) (setters evs₂)).preferences

def LoadAction.installs : LoadAction → Option Hook
  | .install hook => some hook
  | _ => none

/-- The state after some of the effects. -/
structure Effective (done : List LoadAction) (p : Plugin) : Prop where
  hooks : p.hooks = done.filterMap LoadAction.installs
  commands : p.commands = if .parseCfg ∈ done then parseCfg env.cfgFile else []
  loaded : p.loaded = false
  goesOn : .succeed ∉ done

/-- The assertion at a point of `Load`. -/
def AtPoint (evs : List (RoutineEvent Interruption)) (rest : List LoadAction) (p : Plugin) :
    Prop :=
  (∃ done rest', checks = done ++ rest' ∧ rest = rest' ++ .loadRssAssetOptOutClients :: effects ∧
    evs.countP RoutineEvent.isAdvance = done.length ∧ Checked m env done p) ∨
  ∃ done, effects = done ++ rest ∧ Complete env ∧ Effective env done p ∧ Published m env evs p

def Returned (evs : List (RoutineEvent Interruption)) (result : Bool) (p : Plugin) : Prop :=
  if result then
    Complete env ∧ Published m env evs p ∧ p.commands = parseCfg env.cfgFile ∧
      p.hooks = if p.loaded then allHooks else allHooks.filter Hook.isFunctionHook
  else ¬ Complete env ∧ Untouched m p

end Outline

/-! ### The environment -/

section Interference

variable {m : MultiAddonManager} {env : LoadEnvironment} {p : Plugin}
  {evs : List (RoutineEvent Interruption)}

theorem interfere_members (e : Interruption) :
    (interfere e p).listening = p.listening ∧
      (interfere e p).bRequiredInitLoaded = p.bRequiredInitLoaded ∧
      (interfere e p).commands = p.commands ∧
      (interfere e p).conVarsRegistered = p.conVarsRegistered := by
  unfold interfere
  cases e with
  | callback call => dsimp only; split_ifs <;> simp
  | unload h => dsimp only; split_ifs <;> simp [unload]

theorem hooks_callback (call : Call) : (interfere (.callback call) p).hooks = p.hooks ∧
    (interfere (.callback call) p).loaded = p.loaded := by
  simp only [interfere]
  split_ifs <;> simp

/-- Before the preferences are loaded the latch is closed, and the setter is refused. -/
theorem Untouched.preferences_callback (h : Untouched m p)
    (hclosed : m.rssAssetPreferencesWritable = false) (call : Call) :
    (interfere (.callback call) p).manager.preferences = m.preferences := by
  simp only [interfere]
  split_ifs
  · cases hsetter : call.event.setter with
    | none =>
      rw [MultiAddonManager.preferences_step _ hsetter]
      exact h.preferences
    | some setter =>
      have hlatch : p.manager.rssAssetPreferencesWritable = false :=
        (congrArg Preferences.rssAssetPreferencesWritable h.preferences).trans hclosed
      rw [MultiAddonManager.setterStep_eq _ hsetter, MultiAddonManager.setterStep,
        MultiAddonManager.setClientRssAssetsEnabled_of_refused (.inr hlatch)]
      exact h.preferences
  · exact h.preferences

theorem Untouched.interfere (h : Untouched m p) (hclosed : m.rssAssetPreferencesWritable = false)
    (e : Interruption) : Untouched m (Plugin.interfere e p) := by
  obtain ⟨-, -, hcommands, hconVars⟩ := @interfere_members p e
  cases e with
  | callback call =>
    obtain ⟨hhooks, hloaded⟩ := @hooks_callback p call
    refine ⟨hhooks.trans h.hooks, h.preferences_callback hclosed call, hcommands.trans h.commands,
      hconVars.trans h.conVarsRegistered, ?_, hloaded.trans h.loaded⟩
    -- the hook that registers the Steam callback is not installed
    simp only [Plugin.interfere]
    split_ifs with hdelivers
    · cases hevent : call.event <;>
        simp_all [delivers, registersSteamCallback, h.hooks, h.steamCallback]
    · exact h.steamCallback
  | unload host => simpa [Plugin.interfere, h.loaded] using h

theorem Checked.interfere {done : List LoadAction} (h : Checked m env done p)
    (hclosed : m.rssAssetPreferencesWritable = false) (e : Interruption) :
    Checked m env done (Plugin.interfere e p) := by
  obtain ⟨hlistening, hrequired, -, -⟩ := @interfere_members p e
  refine ⟨h.toUntouched.interfere hclosed e, ?_, h.interfaces, ?_, ?_⟩
  · rw [hlistening]
    exact h.listening
  · rw [hrequired]
    exact h.lookups
  · rw [hrequired]
    exact h.required

@[simp] theorem setters_concat (evs : List (RoutineEvent Interruption))
    (e : RoutineEvent Interruption) :
    setters (evs ++ [e]) =
      setters evs ++ (e.interruption.bind Interruption.setter).toList := by
  unfold setters
  rw [List.filterMap_append]
  cases hsetter : e.interruption.bind Interruption.setter <;> simp [hsetter]

theorem Published.interfere (h : Published m env evs p) (e : Interruption) :
    Published m env (evs ++ [.interrupt e]) (Plugin.interfere e p) := by
  obtain ⟨hlistening, evs₁, evs₂, rfl, hcount, hpublished⟩ := h
  obtain ⟨hsame, -⟩ := @interfere_members p e
  refine ⟨hsame.trans hlistening, evs₁, evs₂ ++ [.interrupt e], by simp, hcount, ?_⟩
  rw [setters_concat]
  cases e with
  | unload h =>
    have hkept : (Plugin.interfere (.unload h) p).manager.preferences = p.manager.preferences := by
      simp only [Plugin.interfere]
      split_ifs
      · exact MultiAddonManager.preferences_clearAddons _ h
      · rfl
    simpa [RoutineEvent.interruption, Interruption.setter] using hkept.trans hpublished
  | callback call =>
    simp only [RoutineEvent.interruption, Option.bind_some, Interruption.setter]
    cases hsetter : call.event.setter with
    | none =>
      simp only [Plugin.interfere, Option.toList_none, List.append_nil]
      split_ifs
      · exact (MultiAddonManager.preferences_step _ hsetter).trans hpublished
      · exact hpublished
    | some setter =>
      have hdelivers : p.delivers call.event = true := by
        cases hevent : call.event <;> simp_all [Event.setter, delivers]
      simp only [Plugin.interfere, hdelivers, if_true, Option.toList_some, run_concat]
      rw [MultiAddonManager.setterStep_eq _ hsetter]
      exact MultiAddonManager.preferences_setterStep_congr hpublished setter

theorem Published.advance (h : Published m env evs p) {p' : Plugin}
    (hlistening : p'.listening = p.listening)
    (hpreferences : p'.manager.preferences = p.manager.preferences) :
    Published m env (evs ++ [.advance]) p' := by
  obtain ⟨hp, evs₁, evs₂, rfl, hcount, hpublished⟩ := h
  refine ⟨hlistening.trans hp, evs₁, evs₂ ++ [.advance], by simp, hcount, ?_⟩
  rw [setters_concat, hpreferences, hpublished]
  simp [RoutineEvent.interruption]

theorem Published.lt_countP (h : Published m env evs p) :
    checks.length < evs.countP RoutineEvent.isAdvance := by
  obtain ⟨-, evs₁, evs₂, rfl, hcount, -⟩ := h
  simp only [List.countP_append, List.countP_cons, hcount, RoutineEvent.isAdvance, if_true]
  omega

theorem Effective.interfere {done : List LoadAction} (h : Effective env done p)
    (e : Interruption) : Effective env done (Plugin.interfere e p) := by
  cases e with
  | callback call =>
    obtain ⟨hhooks, hloaded⟩ := @hooks_callback p call
    obtain ⟨-, -, hcommands, -⟩ := @interfere_members p (.callback call)
    exact ⟨hhooks.trans h.hooks, hcommands.trans h.commands, hloaded.trans h.loaded, h.goesOn⟩
  | unload host => simpa [Plugin.interfere, h.loaded] using h

theorem Returned.interfere {result : Bool} (h : Returned m env evs result p)
    (hclosed : m.rssAssetPreferencesWritable = false) (e : Interruption) :
    Returned m env (evs ++ [.interrupt e]) result (Plugin.interfere e p) := by
  cases result with
  | false => exact ⟨h.1, h.2.interfere hclosed e⟩
  | true =>
    obtain ⟨hcomplete, hpublished, hcommands, hhooks⟩ := h
    obtain ⟨-, -, hsame, -⟩ := @interfere_members p e
    refine ⟨hcomplete, hpublished.interfere e, hsame.trans hcommands, ?_⟩
    cases e with
    | callback call =>
      obtain ⟨hhooks', hloaded⟩ := @hooks_callback p call
      rw [hhooks', hloaded]
      exact hhooks
    | unload host =>
      simp only [Plugin.interfere]
      split_ifs at hhooks ⊢ with hloaded hunload
      · exact absurd hunload (by simp [unload])
      · simp [unload, hhooks]
      · exact hhooks

/-! ### The actions -/

theorem isCheck_of_mem_checks {a : LoadAction} (ha : a ∈ checks) :
    (∃ iface, a = .getInterface iface) ∨ a = .addListener ∨ (∃ address, a = .lookup address) ∨
      a = .checkRequiredInit := by
  simp only [checks, List.mem_cons, List.not_mem_nil, or_false] at ha
  rcases ha with rfl | rfl | rfl | rfl | rfl | rfl | rfl | rfl | rfl | rfl | rfl | rfl | rfl |
    rfl | rfl | rfl <;> simp

theorem checkRequiredInit_notMem {done rest : List LoadAction} {a : LoadAction}
    (hsplit : checks = done ++ a :: rest) : .checkRequiredInit ∉ done := by
  intro hmem
  have hlast : .checkRequiredInit ∈ checks.dropLast := by
    rw [hsplit, List.dropLast_append_cons]
    exact List.mem_append_left _ hmem
  exact absurd hlast (by decide)

theorem Untouched.copy (h : Untouched m p) {p' : Plugin} (hhooks : p'.hooks = p.hooks)
    (hmanager : p'.manager = p.manager) (hcommands : p'.commands = p.commands)
    (hconVars : p'.conVarsRegistered = p.conVarsRegistered)
    (hsteam : p'.steamCallback = p.steamCallback) (hloaded : p'.loaded = p.loaded) :
    Untouched m p' :=
  ⟨hhooks.trans h.hooks, hmanager ▸ h.preferences, hcommands.trans h.commands,
    hconVars.trans h.conVarsRegistered, hsteam.trans h.steamCallback, hloaded.trans h.loaded⟩

theorem Checked.perform {done rest : List LoadAction} (h : Checked m env done p) {a : LoadAction}
    (hsplit : checks = done ++ a :: rest) :
    (∃ p', Plugin.perform env a p = (p', none) ∧ Checked m env (done ++ [a]) p') ∨
      ∃ p', Plugin.perform env a p = (p', some false) ∧ ¬ Complete env ∧ Untouched m p' := by
  rcases isCheck_of_mem_checks (hsplit ▸ List.mem_append_right done List.mem_cons_self) with
    ⟨iface, rfl⟩ | rfl | ⟨address, rfl⟩ | rfl
  · by_cases hiface : env.hasInterface iface = true
    · refine .inl ⟨p, by simp [Plugin.perform, hiface], h.toUntouched, ?_, ?_, ?_, ?_⟩
      · simpa using h.listening
      · intro iface' hmem
        rcases List.mem_append.1 hmem with hmem | hmem
        · exact h.interfaces iface' hmem
        · obtain rfl : iface' = iface := by simpa using hmem
          exact hiface
      · simpa using h.lookups
      · simpa using h.required
    · refine .inr ⟨{ p with error := env.interfaceError iface }, by simp [Plugin.perform, hiface],
        fun hall => hiface (hall.1 iface), ?_⟩
      apply h.toUntouched.copy <;> rfl
  · refine .inl ⟨{ p with listening := true }, rfl, ?_, fun _ => rfl, ?_, ?_, ?_⟩
    · apply h.toUntouched.copy <;> rfl
    · simpa using h.interfaces
    · simpa using h.lookups
    · simpa using h.required
  · by_cases haddress : env.finds address = true
    · refine .inl ⟨p, by simp [Plugin.perform, haddress], h.toUntouched, ?_, ?_, ?_, ?_⟩
      · simpa using h.listening
      · simpa using h.interfaces
      · rw [h.lookups]
        constructor
        · intro hall address' hmem
          rcases List.mem_append.1 hmem with hmem | hmem
          · exact hall address' hmem
          · obtain rfl : address' = address := by simpa using hmem
            exact haddress
        · intro hall address' hmem
          exact hall address' (List.mem_append_left _ hmem)
      · simpa using h.required
    · refine .inl ⟨{ p with bRequiredInitLoaded := false },
        by simp [Plugin.perform, haddress], ?_, ?_, ?_, ?_, ?_⟩
      · apply h.toUntouched.copy <;> rfl
      · simpa using h.listening
      · simpa using h.interfaces
      · constructor
        · intro hfalse
          cases hfalse
        · intro hall
          exact absurd (hall address (List.mem_append_right _ List.mem_cons_self)) haddress
      · intro hmem
        have hdone : .checkRequiredInit ∈ done := by simpa using hmem
        exact absurd hdone (checkRequiredInit_notMem hsplit)
  · cases hrequired : p.bRequiredInitLoaded with
    | true =>
      refine .inl ⟨p, by simp [Plugin.perform, hrequired], h.toUntouched, ?_, ?_, ?_, ?_⟩
      · simpa using h.listening
      · simpa using h.interfaces
      · simpa using h.lookups
      · intro _
        exact hrequired
    | false =>
      refine .inr ⟨{ p with error := lookupsFailed }, by simp [Plugin.perform, hrequired], ?_, ?_⟩
      · intro hall
        have htrue : p.bRequiredInitLoaded = true := h.lookups.2 fun address _ => hall.2 address
        rw [hrequired] at htrue
        cases htrue
      · apply h.toUntouched.copy <;> rfl

theorem Checked.complete (h : Checked m env checks p) : Complete env := by
  constructor
  · intro iface
    apply h.interfaces
    cases iface <;> decide
  · intro address
    apply h.lookups.1 (h.required (by decide))
    cases address <;> decide

theorem isEffect_of_mem_effects {a : LoadAction} (ha : a ∈ effects) :
    (∃ hook, a = .install hook) ∨ a = .lateStart ∨ a = .registerConVars ∨ a = .parseCfg ∨
      a = .succeed := by
  simp only [effects, List.mem_append, List.mem_map, List.mem_cons, List.not_mem_nil,
    or_false] at ha
  rcases ha with ⟨hook, -, rfl⟩ | rfl | rfl | rfl | rfl <;> simp

theorem parseCfg_notMem {done rest : List LoadAction}
    (hsplit : effects = done ++ .parseCfg :: rest) : .parseCfg ∉ done := by
  have hnodup : effects.Nodup := by decide
  rw [hsplit, List.nodup_append] at hnodup
  intro hmem
  exact hnodup.2.2 _ hmem _ List.mem_cons_self rfl

theorem Effective.perform {done rest : List LoadAction} (h : Effective env done p)
    {a : LoadAction} (hsplit : effects = done ++ a :: rest) (hgoesOn : a ≠ .succeed) :
    ∃ p', Plugin.perform env a p = (p', none) ∧ Effective env (done ++ [a]) p' ∧
      p'.listening = p.listening ∧ p'.manager.preferences = p.manager.preferences := by
  have hsucceed : .succeed ∉ done ++ [a] := by
    simp [h.goesOn, hgoesOn.symm]
  rcases isEffect_of_mem_effects (hsplit ▸ List.mem_append_right done List.mem_cons_self) with
    ⟨hook, rfl⟩ | rfl | rfl | rfl | rfl
  · refine ⟨_, rfl, ⟨?_, ?_, h.loaded, hsucceed⟩, rfl, rfl⟩
    · simp [h.hooks, LoadAction.installs]
    · simp [h.commands]
  · refine ⟨if env.late then
        { p with manager := { p.manager with globalsReady := env.serverGlobals }
                 steamCallback := p.steamCallback || p.manager.dedicatedServer }
      else p, ?_, ?_, ?_, ?_⟩
    · simp only [Plugin.perform]
      split_ifs <;> rfl
    · split_ifs
      · exact ⟨by simp [h.hooks, LoadAction.installs], by simp [h.commands], h.loaded, hsucceed⟩
      · exact ⟨by simp [h.hooks, LoadAction.installs], by simp [h.commands], h.loaded, hsucceed⟩
    · split_ifs <;> rfl
    · split_ifs <;> rfl
  · refine ⟨_, rfl, ⟨?_, ?_, h.loaded, hsucceed⟩, rfl, rfl⟩
    · simp [h.hooks, LoadAction.installs]
    · simp [h.commands]
  · refine ⟨_, rfl, ⟨?_, ?_, h.loaded, hsucceed⟩, rfl, rfl⟩
    · simp [h.hooks, LoadAction.installs]
    · simp [h.commands, parseCfg_notMem hsplit]
  · exact absurd rfl hgoesOn

theorem split_succeed {done rest : List LoadAction}
    (hsplit : effects = done ++ .succeed :: rest) : done = effects.dropLast := by
  have hlast : effects = effects.dropLast ++ .succeed :: [] := by decide
  have hunique := (List.append_cons_inj_of_notMem (by decide) (by simp)).1 (hlast.symm.trans hsplit)
  exact hunique.1.symm

theorem Effective.succeed {done rest : List LoadAction} (h : Effective env done p)
    (hsplit : effects = done ++ .succeed :: rest) :
    p.hooks = allHooks ∧ p.commands = MultiAddonRss.parseCfg env.cfgFile := by
  obtain rfl := split_succeed hsplit
  constructor
  · rw [h.hooks]
    decide
  · rw [h.commands, if_pos (by decide)]

/-! ### The outline -/

theorem outline_load (hclosed : m.rssAssetPreferencesWritable = false) :
    Routine.Outline (perform env) Plugin.interfere (AtPoint m env) (Returned m env) where
  idle := by
    rintro evs p (⟨done, rest, -, hrest, -, -⟩ |
      ⟨done, hdone, hcomplete, heffective, hpublished⟩)
    · simp at hrest
    · exact .inr ⟨done, hdone, hcomplete, heffective, hpublished.advance rfl rfl⟩
  next := by
    rintro evs a rest p p' (⟨done, rest', hchecks, hrest, hcount, hchecked⟩ |
      ⟨done, heffects, hcomplete, heffective, hpublished⟩) hperform
    · cases rest' with
      | nil =>
        -- the preferences are published
        obtain ⟨rfl, rfl⟩ := List.cons.inj hrest
        rw [List.append_nil] at hchecks
        subst hchecks
        obtain rfl : _ = p' := congrArg Prod.fst hperform
        refine .inr ⟨[], rfl, hchecked.complete, ⟨hchecked.hooks, hchecked.commands,
          hchecked.loaded, by simp⟩, hchecked.listening (by decide), evs, [], rfl, hcount, ?_⟩
        apply MultiAddonManager.preferences_load_congr
        exact congrArg Preferences.files hchecked.preferences
      | cons b rest' =>
        obtain ⟨rfl, rfl⟩ := List.cons.inj hrest
        rcases hchecked.perform hchecks with ⟨q, hq, hnext⟩ | ⟨q, hq, -⟩
        · obtain rfl : q = p' := congrArg Prod.fst (hq.symm.trans hperform)
          refine .inl ⟨done ++ [a], rest', by simp [hchecks], rfl, ?_, hnext⟩
          simp [hcount, RoutineEvent.isAdvance]
        · simp [hq] at hperform
    · by_cases hsucceed : a = .succeed
      · subst hsucceed
        simp [perform] at hperform
      · obtain ⟨q, hq, hnext, hlistening, hpreferences⟩ := heffective.perform heffects hsucceed
        obtain rfl : q = p' := congrArg Prod.fst (hq.symm.trans hperform)
        exact .inr ⟨done ++ [a], by simp [heffects], hcomplete, hnext,
          hpublished.advance hlistening hpreferences⟩
  returns := by
    rintro evs a rest p p' result (⟨done, rest', hchecks, hrest, -, hchecked⟩ |
      ⟨done, heffects, hcomplete, heffective, hpublished⟩) hperform
    · cases rest' with
      | nil =>
        obtain ⟨rfl, rfl⟩ := List.cons.inj hrest
        simp [perform] at hperform
      | cons b rest' =>
        obtain ⟨rfl, rfl⟩ := List.cons.inj hrest
        rcases hchecked.perform hchecks with ⟨q, hq, -⟩ | ⟨q, hq, hmissing, huntouched⟩
        · simp [hq] at hperform
        · obtain ⟨rfl, rfl⟩ : q = p' ∧ false = result := by simpa [hq] using hperform
          exact ⟨hmissing, huntouched⟩
    · by_cases hsucceed : a = .succeed
      · subst hsucceed
        obtain ⟨rfl, rfl⟩ : { p with loaded := true } = p' ∧ true = result := by
          simpa [perform] using hperform
        obtain ⟨hhooks, hcommands⟩ := heffective.succeed heffects
        exact ⟨hcomplete, hpublished.advance rfl rfl, hcommands, hhooks⟩
      · obtain ⟨q, hq, -⟩ := heffective.perform heffects hsucceed
        simp [hq] at hperform
  stable := by
    rintro evs e rest p (⟨done, rest', hchecks, hrest, hcount, hchecked⟩ |
      ⟨done, heffects, hcomplete, heffective, hpublished⟩)
    · refine .inl ⟨done, rest', hchecks, hrest, ?_, hchecked.interfere hclosed e⟩
      simp [hcount, RoutineEvent.isAdvance]
    · exact .inr ⟨done, heffects, hcomplete, heffective.interfere e, hpublished.interfere e⟩
  idle_post := by
    intro evs result p h
    cases result with
    | false => exact h
    | true => exact ⟨h.1, h.2.1.advance rfl rfl, h.2.2⟩
  stable_post := by
    intro evs e result p h
    exact h.interfere hclosed e

theorem holds_load (hclosed : m.rssAssetPreferencesWritable = false)
    (evs : List (RoutineEvent Interruption)) :
    (run (step env) (start m) evs).Holds (AtPoint m env) (Returned m env) evs := by
  apply (outline_load hclosed).holds_run
  refine .inl ⟨[], checks, rfl, rfl, rfl, ⟨rfl, rfl, rfl, rfl, rfl, rfl⟩, ?_, ?_, ?_, ?_⟩ <;> simp

end Interference

/-! ## What every interleaving keeps -/

/-- Up to the load nothing has been done; behind it, where nothing is missing, the
preferences are published. -/
theorem untouched_or_published (m : MultiAddonManager) (env : LoadEnvironment)
    (hclosed : m.rssAssetPreferencesWritable = false) (evs : List (RoutineEvent Interruption)) :
    (Untouched m (run (step env) (start m) evs).world ∧
      (evs.countP RoutineEvent.isAdvance ≤ checks.length ∨ ¬ Complete env)) ∨
      Complete env ∧ Published m env evs (run (step env) (start m) evs).world := by
  have hholds : (run (step env) (start m) evs).Holds (AtPoint m env) (Returned m env) evs :=
    holds_load hclosed evs
  unfold Routine.Holds at hholds
  cases hresult : (run (step env) (start m) evs).result with
  | none =>
    rw [hresult] at hholds
    rcases hholds with ⟨done, rest, hchecks, -, hcount, hchecked⟩ |
      ⟨done, -, hcomplete, -, hpublished⟩
    · refine .inl ⟨hchecked.toUntouched, .inl ?_⟩
      rw [hcount, hchecks, List.length_append]
      omega
    · exact .inr ⟨hcomplete, hpublished⟩
  | some result =>
    rw [hresult] at hholds
    cases result with
    | false => exact .inl ⟨hholds.2.2, .inr hholds.2.1⟩
    | true => exact .inr ⟨hholds.2.1, hholds.2.2.1⟩

/-- In every interleaving, a plugin that has not come past its checks has no hook, and
nothing has changed its preferences. Behind the statement that loads them they are what
the setter calls since then have made of the loaded ones, and memory, file and latch
agree. -/
theorem hooks_see_published_preferences (m : MultiAddonManager) (env : LoadEnvironment)
    (hclosed : m.rssAssetPreferencesWritable = false)
    (evs : List (RoutineEvent Interruption)) :
    let p := (run (step env) (start m) evs).world
    (evs.countP RoutineEvent.isAdvance ≤ checks.length ∨ ¬ Complete env →
      p.hooks = [] ∧ p.manager.preferences = m.preferences) ∧
    (checks.length < evs.countP RoutineEvent.isAdvance → Complete env →
      ∃ evs₁ evs₂, evs = evs₁ ++ .advance :: evs₂ ∧
        evs₁.countP RoutineEvent.isAdvance = checks.length ∧
        p.manager.preferences = (run MultiAddonManager.setterStep
          (m.loadRssAssetOptOutClients env.preferences) (setters evs₂)).preferences ∧
        p.manager.store.Agrees preferenceCodec) := by
  intro p
  rcases untouched_or_published m env hclosed evs with
    ⟨huntouched, hbefore⟩ | ⟨hcomplete, hpublished⟩
  · refine ⟨fun _ => ⟨huntouched.hooks, huntouched.preferences⟩, fun hbehind hcomplete => ?_⟩
    rcases hbefore with hbefore | hmissing
    · exact absurd hbehind (not_lt.2 hbefore)
    · exact absurd hcomplete hmissing
  · have hbehind := hpublished.lt_countP
    obtain ⟨-, evs₁, evs₂, hevs, hcount, hpreferences⟩ := hpublished
    constructor
    · rintro (hbefore | hmissing)
      · exact absurd hbehind (not_lt.2 hbefore)
      · exact absurd hcomplete hmissing
    · intro _ _
      refine ⟨evs₁, evs₂, hevs, hcount, hpreferences, ?_⟩
      have hstore : p.manager.store = (run MultiAddonManager.setterStep
          (m.loadRssAssetOptOutClients env.preferences) (setters evs₂)).store :=
        congrArg Preferences.store hpreferences
      rw [hstore]
      exact MultiAddonManager.agrees_run m env.preferences (setters evs₂)

theorem hooks_see_published_preferences_two_calls :
    let optOut (steamID64 : UInt64) : RoutineEvent Interruption :=
      .interrupt (.callback ⟨{}, .setClientRssAssetsEnabled {} steamID64 false⟩)
    let evs := optOut 5 :: List.replicate 20 .advance ++ [optOut 7]
    let p := (run (step {}) (start {}) evs).world
    p.hooks ≠ [] ∧ p.manager.store.Agrees preferenceCodec := by
  intro optOut evs p
  have hcomplete : Complete {} := ⟨fun _ => rfl, fun _ => rfl⟩
  obtain ⟨-, -, -, -, -, hagrees⟩ :=
    (hooks_see_published_preferences {} {} rfl evs).2 (by decide) hcomplete
  exact ⟨by decide +kernel, hagrees⟩

/-- If an interface, a signature or a virtual table is missing, no hook is installed at
any moment, no command is executed and the preference files stay as they are. Otherwise
`Load` succeeds, with all hooks installed in order and the configuration executed once. -/
theorem load_all_or_nothing (m : MultiAddonManager) (env : LoadEnvironment)
    (hclosed : m.rssAssetPreferencesWritable = false)
    (evs : List (RoutineEvent Interruption)) :
    let s := run (step env) (start m) evs
    (¬ Complete env → Untouched m s.world ∧ s.result ≠ some true) ∧
      (loadActions.length ≤ evs.countP RoutineEvent.isAdvance →
        (¬ Complete env → s.result = some false) ∧
        (Complete env → s.result = some true ∧
          s.world.commands = parseCfg env.cfgFile ∧
          s.world.hooks =
            if s.world.loaded then allHooks else allHooks.filter Hook.isFunctionHook)) := by
  intro s
  have hholds : s.Holds (AtPoint m env) (Returned m env) evs := holds_load hclosed evs
  have hreturned : ∀ result, s.result = some result → Returned m env evs result s.world := by
    intro result hresult
    unfold Routine.Holds at hholds
    rw [hresult] at hholds
    exact hholds.2
  refine ⟨?_, ?_⟩
  · intro hmissing
    constructor
    · rcases untouched_or_published m env hclosed evs with ⟨huntouched, -⟩ | ⟨hcomplete, -⟩
      · exact huntouched
      · exact absurd hcomplete hmissing
    · intro hresult
      exact hmissing (hreturned true hresult).1
  · intro htime
    have hresult : ∃ result, s.result = some result := by
      by_contra hnone
      have hrunning : s.result = none := by
        simpa [Option.eq_none_iff_forall_ne_some] using hnone
      have hdone : s.remaining = [] := Routine.remaining_run_eq_nil _ _ htime
      unfold Routine.Holds at hholds
      rw [hrunning] at hholds
      dsimp only at hholds
      rw [hdone] at hholds
      rcases hholds with ⟨done, rest, -, hrest, -, -⟩ | ⟨done, hdone, -, heffective, -⟩
      · simp at hrest
      · rw [List.append_nil] at hdone
        subst hdone
        exact heffective.goesOn (by decide)
    obtain ⟨result, hresult⟩ := hresult
    have hpost := hreturned result hresult
    cases result with
    | false => exact ⟨fun _ => hresult, fun hcomplete => absurd hcomplete hpost.1⟩
    | true =>
      obtain ⟨hcomplete, -, hcommands, hhooks⟩ := hpost
      exact ⟨fun hmissing => absurd hcomplete hmissing, fun _ => ⟨hresult, hcommands, hhooks⟩⟩

theorem load_all_or_nothing_missing_vtable :
    let env : LoadEnvironment := { finds := fun address => address ≠ .hltvClientVTable }
    (run (step env) (start {}) (List.replicate 40 .advance)).result = some false := by
  intro env
  have hmissing : ¬ Complete env := by
    intro hcomplete
    exact absurd (hcomplete.2 .hltvClientVTable) (by decide)
  obtain ⟨-, htime⟩ := load_all_or_nothing {} env rfl (List.replicate 40 .advance)
  exact (htime (by decide)).1 hmissing

end Plugin
end MultiAddonRss
