import CallBindings.Logging.Setup
import CallBindings.Proofs.FirstFault
import CallBindings.Proofs.History

set_option autoImplicit false

/-! # Setting up logging again and again

What a program does to the root logger is a sequence of actions: it sets up logging, with any
settings and over files of any kind, and the host of the library adds and removes handlers of its
own. Whatever the sequence, at most one handler is ours, the listener that it feeds is the only one
that runs, and the handlers of the host are not touched.

Whether logging counts as set up is another matter. It does so from the first call on that comes to
an output, for good. A forced call that comes to none takes the handler away all the same, and from
then on calls that are not forced do nothing, although nobody listens. Only a call whose level has no
text ends before it has done anything.
-/

namespace CallBindings

/-- The name of a handler of the host. -/
def RootHandler.hostName? : RootHandler → Option Text
  | .host name => some name
  | .feeding _ => none

/-- A call that sets up logging: what there is to write to, the settings, and whether it is
forced. -/
structure SetupCall where
  streams : LogStreams
  settings : LoggingSettings
  force : Bool

/-- What is done to the root logger. -/
inductive LoggingAction where
  | setUp (call : SetupCall)
  | addHost (name : Text)
  | removeHost (name : Text)

namespace LoggingAction

/-- The call that an action is, if it is one. -/
def call? : LoggingAction → Option SetupCall
  | .setUp call => some call
  | .addHost _ => none
  | .removeHost _ => none

/-- The calls among actions. -/
def calls (actions : List LoggingAction) : List SetupCall := actions.filterMap call?

theorem call?_eq_some {action : LoggingAction} {call : SetupCall} :
    call? action = some call ↔ action = .setUp call := by
  cases action <;> simp [call?]

theorem calls_concat (actions : List LoggingAction) (action : LoggingAction) :
    calls (actions ++ [action]) = calls actions ++ (call? action).toList := by
  rw [calls, List.filterMap_append, calls, List.filterMap_cons, List.filterMap_nil]
  cases call? action <;> rfl

/-- What an action of the host does to its own handlers; setting up does nothing to them. -/
def onHosts (names : List Text) : LoggingAction → List Text
  | .setUp _ => names
  | .addHost name => if name ∈ names then names else names ++ [name]
  | .removeHost name => names.filter (· ≠ name)

end LoggingAction

namespace SetupCall

/-- Whether the level of a call has a text. -/
def HasLevel (call : SetupCall) : Prop := call.settings.level.isWritable = true

/-- The outputs that the settings of a call come to. -/
def outputs (call : SetupCall) : Except SetupError (List LogOutput) :=
  match LoggingState.consoleOutput call.settings with
  | .error e => .error e
  | .ok console =>
    (LoggingState.fileOutput call.settings call.streams).2.map fun file => console ++ file

/-- Whether the settings of a call come to at least one output. -/
def Yields (call : SetupCall) : Prop :=
  call.HasLevel ∧ ∃ outputs, call.outputs = .ok outputs ∧ outputs ≠ []

/-- Whether calls have taken the handler away and not put it back: after one with outputs came a
forced one without, and since then none that is forced had any. -/
def TornDown (calls : List SetupCall) : Prop :=
  Since (fun earlier call =>
      (∃ c ∈ earlier, c.Yields) ∧ call.force = true ∧ call.HasLevel ∧ ¬ call.Yields)
    (fun call => call.force = true → ¬ call.Yields) calls

theorem tornDown_concat {calls : List SetupCall} {call : SetupCall} : TornDown (calls ++ [call]) ↔
    ((∃ c ∈ calls, c.Yields) ∧ call.force = true ∧ call.HasLevel ∧ ¬ call.Yields) ∨
      (call.force = true → ¬ call.Yields) ∧ TornDown calls :=
  since_concat

theorem TornDown.exists_yields {calls : List SetupCall} (h : TornDown calls) :
    ∃ c ∈ calls, c.Yields := by
  obtain ⟨before, call, after, rfl, ⟨⟨c, hc, hyes⟩, -⟩, -⟩ := h
  exact ⟨c, List.mem_append_left _ hc, hyes⟩

end SetupCall

namespace LoggingState

open LoggingAction SetupCall

variable {s : LoggingState} {threshold : Severity} {call : SetupCall} {action : LoggingAction}
  {outputs : List LogOutput} {actions : List LoggingAction} {history : List SetupCall}

/-- Carries out an action. -/
def act (s : LoggingState) : LoggingAction → LoggingState
  | .setUp call => (s.configure call.streams call.settings call.force).1
  | .addHost name => s.addHost name
  | .removeHost name => s.removeHost name

/-- The state after actions on a root logger that nothing has been done to before. -/
def after (actions : List LoggingAction) : LoggingState := actions.foldl act {}

/-! ## What a call can do -/

/-- The state with the handler taken away and the listener stopped, at a new threshold. -/
def cleared (s : LoggingState) (threshold : Severity) : LoggingState :=
  ({ s with threshold := threshold }).removeOurs.stopCurrent

@[simp] theorem handlers_cleared :
    (s.cleared threshold).handlers = s.handlers.filter fun h => !h.isOurs := by
  rw [cleared, stopCurrent]
  split <;> rfl

@[simp] theorem current_cleared : (s.cleared threshold).current = none := by
  rw [cleared, stopCurrent]
  split
  · rfl
  · next h => exact h

@[simp] theorem configured_cleared : (s.cleared threshold).configured = s.configured := by
  rw [cleared, stopCurrent]
  split <;> rfl

theorem listeners_cleared : (s.cleared threshold).listeners =
    match s.current with
    | some i => s.listeners.modify i fun l => { l with running := false }
    | none => s.listeners := by
  rw [cleared, stopCurrent]
  split
  · next h =>
      have hcurrent : s.current = some _ := h
      rw [hcurrent]
      rfl
  · next h =>
      have hcurrent : s.current = none := h
      rw [hcurrent]
      rfl

theorem threshold_of_hasLevel (h : call.HasLevel) :
    call.settings.threshold = .ok (Severity.ofName call.settings.level.plain) := by
  rw [LoggingSettings.threshold, Json.toPlain, Json.written, h, if_pos rfl]
  rfl

theorem threshold_of_not_hasLevel (h : ¬ call.HasLevel) :
    call.settings.threshold = .error .unwritable := by
  rw [HasLevel, Bool.not_eq_true] at h
  rw [LoggingSettings.threshold, Json.toPlain, Json.written, h]
  rfl

/-- A call that is not passed over clears the state before it looks for outputs. -/
theorem act_setUp_of_hasLevel (hgo : ¬ (s.configured = true ∧ call.force = false))
    (hlevel : call.HasLevel) : ∃ threshold, s.act (.setUp call) =
      match call.outputs with
      | .error _ => s.cleared threshold
      | .ok outputs => (s.cleared threshold).install outputs := by
  refine ⟨Severity.ofName call.settings.level.plain, ?_⟩
  rw [act, configure, if_neg (by simpa using hgo), threshold_of_hasLevel hlevel, SetupCall.outputs]
  cases consoleOutput call.settings with
  | error e => rfl
  | ok console =>
      simp only
      cases hfile : fileOutput call.settings call.streams with
      | mk io file => cases file <;> rfl

theorem act_setUp_of_not_hasLevel (hlevel : ¬ call.HasLevel) : s.act (.setUp call) = s := by
  rw [act, configure, threshold_of_not_hasLevel hlevel]
  split <;> rfl

/-- A call does nothing, or clears the state, and then starts a listener if it yields outputs. -/
theorem act_setUp_cases (s : LoggingState) (call : SetupCall) :
    ((s.configured = true ∧ call.force = false ∨ ¬ call.HasLevel) ∧ s.act (.setUp call) = s) ∨
    (¬ (s.configured = true ∧ call.force = false) ∧ call.HasLevel ∧ ¬ call.Yields ∧
      ∃ threshold, s.act (.setUp call) = s.cleared threshold) ∨
    (¬ (s.configured = true ∧ call.force = false) ∧ call.Yields ∧
      ∃ threshold outputs, s.act (.setUp call) = (s.cleared threshold).start outputs) := by
  by_cases hskip : s.configured = true ∧ call.force = false
  · refine Or.inl ⟨Or.inl hskip, ?_⟩
    rw [act, configure, hskip.1, hskip.2]
    rfl
  by_cases hlevel : call.HasLevel
  · obtain ⟨threshold, hact⟩ := act_setUp_of_hasLevel hskip hlevel
    -- a call whose outputs fail, or that has none, only clears what was there
    refine Or.inr ?_
    cases houtputs : call.outputs with
    | error e =>
        refine Or.inl ⟨hskip, hlevel, ?_, _, by rw [hact, houtputs]⟩
        rintro ⟨-, outputs, hok, -⟩
        rw [houtputs] at hok
        cases hok
    | ok outputs =>
        rw [houtputs] at hact
        cases outputs with
        | nil =>
            refine Or.inl ⟨hskip, hlevel, ?_, _, hact⟩
            rintro ⟨-, outputs, hok, hne⟩
            rw [houtputs] at hok
            cases hok
            exact hne rfl
        | cons output outputs =>
            exact Or.inr ⟨hskip, ⟨hlevel, _, houtputs, List.cons_ne_nil _ _⟩, _, _, hact⟩
  · exact Or.inl ⟨Or.inr hlevel, act_setUp_of_not_hasLevel hlevel⟩

/-! ## One handler and one listener -/

/-- Whether at most one handler is ours, and no listener runs but the one that it feeds. -/
structure Tidy (s : LoggingState) : Prop where
  atMostOne : s.handlers.countP (·.isOurs) ≤ 1
  /-- A listener counts as being in use exactly if the handler that feeds it is there. -/
  inUse : ∀ i, s.current = some i ↔ .feeding i ∈ s.handlers
  /-- The listener in use runs, -/
  runs : ∀ i, s.current = some i → ∃ l, s.listeners[i]? = some l ∧ l.running = true
  /-- and every other listener has been stopped. -/
  stopped : ∀ i l, s.listeners[i]? = some l → s.current ≠ some i → l.running = false

theorem feeding_not_mem_cleared (i : Nat) : .feeding i ∉ (s.cleared threshold).handlers := by
  rw [handlers_cleared, List.mem_filter]
  rintro ⟨-, h⟩
  cases h

theorem Tidy.not_running_cleared (h : s.Tidy) {i : Nat} {l : Listener}
    (hl : (s.cleared threshold).listeners[i]? = some l) : l.running = false := by
  rw [listeners_cleared] at hl
  cases hcurrent : s.current with
  | none =>
      rw [hcurrent] at hl
      exact h.stopped i l hl (by rw [hcurrent]; exact nofun)
  | some j =>
      rw [hcurrent] at hl
      simp only [List.getElem?_modify] at hl
      obtain ⟨l', hl', rfl⟩ := Option.map_eq_some_iff.mp hl
      -- the current listener has just been stopped, and any other one was stopped before
      split
      · rfl
      · next hij =>
          refine h.stopped i l' hl' ?_
          rw [hcurrent, Ne, Option.some.injEq]
          exact hij

theorem Tidy.cleared (h : s.Tidy) (threshold : Severity) : (s.cleared threshold).Tidy where
  atMostOne := by
    rw [handlers_cleared, List.countP_filter]
    simp
  inUse i := by
    rw [current_cleared]
    exact iff_of_false (fun hnone => by cases hnone) (feeding_not_mem_cleared i)
  runs i hi := by
    rw [current_cleared] at hi
    cases hi
  stopped i l hl _ := h.not_running_cleared hl

theorem Tidy.start (h : s.Tidy) (threshold : Severity) (outputs : List LogOutput) :
    ((s.cleared threshold).start outputs).Tidy where
  atMostOne := by
    show ((s.cleared threshold).handlers ++ [_]).countP _ ≤ 1
    rw [handlers_cleared, List.countP_append, List.countP_filter]
    simp [RootHandler.isOurs]
  inUse i := by
    show some (s.cleared threshold).listeners.length = some i ↔
      .feeding i ∈ (s.cleared threshold).handlers ++ [_]
    rw [List.mem_append, or_iff_right (feeding_not_mem_cleared i), List.mem_singleton,
      Option.some.injEq, RootHandler.feeding.injEq, eq_comm]
  runs i hi := by
    cases hi
    exact ⟨_, List.getElem?_concat_length, rfl⟩
  stopped i l hl hi := by
    -- the new listener is the last one, and those before it were stopped by clearing
    have hne : (s.cleared threshold).listeners.length ≠ i := fun heq => hi (congrArg some heq)
    replace hl : ((s.cleared threshold).listeners ++ [_])[i]? = some l := hl
    have hlt : i < (s.cleared threshold).listeners.length := by
      have hbound := (List.getElem?_eq_some_iff.mp hl).1
      rw [List.length_append, List.length_singleton] at hbound
      omega
    rw [List.getElem?_append_left hlt] at hl
    exact h.not_running_cleared hl

theorem Tidy.setUp (h : s.Tidy) (call : SetupCall) : (s.act (.setUp call)).Tidy := by
  rcases act_setUp_cases s call with
    ⟨-, hact⟩ | ⟨-, -, -, threshold, hact⟩ | ⟨-, -, threshold, outputs, hact⟩
  · rw [hact]
    exact h
  · rw [hact]
    exact h.cleared threshold
  · rw [hact]
    exact h.start threshold outputs

/-! ## Handlers of the host -/

/-- The handlers of the host, in order. -/
def hosts (s : LoggingState) : List Text := s.handlers.filterMap RootHandler.hostName?

theorem mem_hosts_iff {name : Text} : name ∈ s.hosts ↔ .host name ∈ s.handlers := by
  rw [hosts, List.mem_filterMap]
  constructor
  · rintro ⟨h, hmem, hname⟩
    cases h with
    | host _ =>
        cases hname
        exact hmem
    | feeding _ => cases hname
  · exact fun hmem => ⟨_, hmem, rfl⟩

theorem hosts_cleared : (s.cleared threshold).hosts = s.hosts := by
  rw [hosts, handlers_cleared, List.filterMap_filter, hosts]
  congr 1
  funext h
  cases h <;> rfl

theorem hosts_start (s : LoggingState) (outputs : List LogOutput) :
    (s.start outputs).hosts = s.hosts := by
  show (s.handlers ++ [_]).filterMap RootHandler.hostName? = _
  rw [List.filterMap_append]
  exact List.append_nil _

theorem addHost_eq (s : LoggingState) (name : Text) : s.addHost name =
    if name ∈ s.hosts then s else { s with handlers := s.handlers ++ [.host name] } := by
  rw [addHost]
  simp only [mem_hosts_iff, List.contains_iff_mem]

theorem hosts_act (s : LoggingState) (action : LoggingAction) :
    (s.act action).hosts = onHosts s.hosts action := by
  cases action with
  | setUp call =>
      rcases act_setUp_cases s call with
        ⟨-, hact⟩ | ⟨-, -, -, _, hact⟩ | ⟨-, -, _, outputs, hact⟩
      · rw [hact]
        rfl
      · rw [hact, hosts_cleared]
        rfl
      · rw [hact, hosts_start, hosts_cleared]
        rfl
  | addHost name =>
      rw [act, addHost_eq, onHosts]
      split
      · rfl
      · show (s.handlers ++ [_]).filterMap RootHandler.hostName? = _
        rw [List.filterMap_append]
        rfl
  | removeHost name =>
      show (s.handlers.filter _).filterMap RootHandler.hostName? = s.hosts.filter _
      rw [hosts, List.filterMap_filter, List.filter_filterMap]
      congr 1
      funext h
      cases h with
      | host other =>
          by_cases heq : other = name <;> simp [RootHandler.hostName?, Option.filter_some, heq]
      | feeding _ => simp [RootHandler.hostName?]

theorem Tidy.act (h : s.Tidy) (action : LoggingAction) : (s.act action).Tidy := by
  cases action with
  | setUp call => exact h.setUp call
  | addHost name =>
      rw [LoggingState.act, addHost_eq]
      split
      · exact h
      · -- a host feeds no listener, so nothing that is counted changes
        exact {
          atMostOne := by
            show (s.handlers ++ [_]).countP _ ≤ 1
            rw [List.countP_append]
            exact h.atMostOne
          inUse := fun i => by
            show _ ↔ _ ∈ s.handlers ++ [_]
            rw [List.mem_append, List.mem_singleton, or_iff_left (by simp)]
            exact h.inUse i
          runs := h.runs
          stopped := h.stopped }
  | removeHost name =>
      exact {
        atMostOne := Nat.le_trans List.filter_sublist.countP_le h.atMostOne
        inUse := fun i => by
          show _ ↔ _ ∈ s.handlers.filter _
          rw [List.mem_filter, and_iff_left (by simp)]
          exact h.inUse i
        runs := h.runs
        stopped := h.stopped }

theorem tidy_nil : Tidy {} where
  atMostOne := Nat.zero_le 1
  inUse i := by simp
  runs i hi := by cases hi
  stopped i l hl _ := by cases hl

theorem tidy_after (actions : List LoggingAction) : (after actions).Tidy :=
  foldl_related (R := fun _ => Tidy) tidy_nil (fun _ _ action h => h.act action) actions

theorem hosts_after (actions : List LoggingAction) :
    (after actions).hosts = actions.foldl onHosts [] := by
  refine foldl_related (R := fun actions s => hosts s = actions.foldl onHosts []) rfl ?_ actions
  intro actions s action h
  rw [hosts_act, List.foldl_concat, h]

/-- **Setting up never piles up and never touches the host.** After any actions at most one handler
is ours, a listener counts as being in use exactly if that handler feeds it, all others have been
stopped, and the handlers of the host are those that it has put there, in its order. -/
theorem tidy_and_hosts_after (actions : List LoggingAction) :
    (after actions).Tidy ∧ (after actions).hosts = actions.foldl onHosts [] :=
  ⟨tidy_after actions, hosts_after actions⟩

/-! ## Whether logging counts as set up -/

/-- Whether a handler feeds a listener that runs. -/
def Serves (s : LoggingState) : Prop :=
  ∃ i l, .feeding i ∈ s.handlers ∧ s.listeners[i]? = some l ∧ l.running = true

theorem Tidy.serves_iff (h : s.Tidy) : s.Serves ↔ s.current.isSome = true := by
  rw [Option.isSome_iff_exists]
  constructor
  · rintro ⟨i, l, hi, -⟩
    exact ⟨i, (h.inUse i).mpr hi⟩
  · rintro ⟨i, hi⟩
    obtain ⟨l, hl, hruns⟩ := h.runs i hi
    exact ⟨i, l, (h.inUse i).mp hi, hl, hruns⟩

/-- A state that is tidy and serves has one handler of ours. -/
theorem Tidy.countP_eq_one (h : s.Tidy) (hserves : s.Serves) :
    s.handlers.countP (·.isOurs) = 1 := by
  obtain ⟨i, l, hi, -⟩ := hserves
  have hpos : 0 < s.handlers.countP (·.isOurs) := List.countP_pos_iff.mpr ⟨_, hi, rfl⟩
  have hle := h.atMostOne
  omega

/-- Whether the flag and the listener of a state are as a history of calls says. -/
structure Recounts (history : List SetupCall) (s : LoggingState) : Prop where
  configured : s.configured = true ↔ ∃ call ∈ history, call.Yields
  inUse : s.current.isSome = true ↔ s.configured = true ∧ ¬ TornDown history

theorem Recounts.setUp (h : s.Recounts history) (call : SetupCall) :
    (s.act (.setUp call)).Recounts (history ++ [call]) := by
  have hmore : (∃ c ∈ history ++ [call], c.Yields) ↔ s.configured = true ∨ call.Yields := by
    rw [h.configured]
    simp only [List.mem_append, List.mem_singleton, or_and_right, exists_or, exists_eq_left]
  have htorn : TornDown (history ++ [call]) ↔
      (s.configured = true ∧ call.force = true ∧ call.HasLevel ∧ ¬ call.Yields) ∨
        (call.force = true → ¬ call.Yields) ∧ TornDown history := by
    rw [h.configured]
    exact tornDown_concat
  rcases act_setUp_cases s call with
    ⟨⟨hset, hfree⟩ | hlevel, hact⟩ | ⟨hgo, hlevel, hno, threshold, hact⟩ |
      ⟨hgo, hyes, threshold, outputs, hact⟩
  · -- a call that does nothing adds nothing to either side
    rw [hact]
    refine ⟨?_, ?_⟩
    · rw [hmore, hset]
      simp
    · rw [htorn, h.inUse, hfree]
      simp
  · have hno : ¬ call.Yields := fun hyes => hlevel hyes.1
    rw [hact]
    refine ⟨?_, ?_⟩
    · rw [hmore, or_iff_left hno]
    · rw [htorn, h.inUse]
      simp [hlevel, hno]
  · -- a call without outputs leaves the flag as it is; if it was set, the call is forced
    rw [hact]
    refine ⟨?_, ?_⟩
    · rw [hmore, configured_cleared, or_iff_left hno]
    · rw [current_cleared, configured_cleared, htorn]
      refine iff_of_false nofun ?_
      rintro ⟨hset, hkept⟩
      have hforce : call.force = true := by
        rw [← Bool.not_eq_false]
        exact fun hfree => hgo ⟨hset, hfree⟩
      exact hkept (Or.inl ⟨hset, hforce, hlevel, hno⟩)
  · rw [hact]
    refine ⟨iff_of_true rfl (hmore.mpr (Or.inr hyes)), iff_of_true rfl ⟨rfl, ?_⟩⟩
    rw [htorn]
    rintro (⟨-, -, -, hno⟩ | ⟨hquiet, hbefore⟩)
    · exact hno hyes
    · -- a state that has been torn down counts as set up, so the call is forced
      have hset : s.configured = true := h.configured.mpr hbefore.exists_yields
      have hfree : ¬ call.force = true := fun hforce => hquiet hforce hyes
      exact hgo ⟨hset, Bool.eq_false_iff.mpr hfree⟩

theorem act_of_not_call (h : call? action = none) :
    (s.act action).configured = s.configured ∧ (s.act action).current = s.current := by
  cases action with
  | setUp call => cases h
  | addHost name =>
      rw [act, addHost_eq]
      split <;> exact ⟨rfl, rfl⟩
  | removeHost name => exact ⟨rfl, rfl⟩

theorem Recounts.act (h : s.Recounts (calls actions)) (action : LoggingAction) :
    (s.act action).Recounts (calls (actions ++ [action])) := by
  rw [calls_concat]
  cases hcall : call? action with
  | some call =>
      obtain rfl := call?_eq_some.mp hcall
      exact h.setUp call
  | none =>
      obtain ⟨hconfigured, hcurrent⟩ := act_of_not_call (s := s) hcall
      rw [Option.toList_none, List.append_nil]
      refine ⟨?_, ?_⟩
      · rw [hconfigured]
        exact h.configured
      · rw [hconfigured, hcurrent]
        exact h.inUse

theorem recounts_nil : Recounts [] {} where
  configured := by simp
  inUse := by simp

theorem recounts_after (actions : List LoggingAction) : (after actions).Recounts (calls actions) :=
  foldl_related (R := fun actions => Recounts (calls actions)) recounts_nil
    (fun _ _ action h => h.act action) actions

/-- **Where the flag can be trusted.** Whether logging counts as set up says whether a handler feeds
a running listener exactly as long as calls have not torn logging down; if a handler does, then
logging counts as set up in any case. A further call with outputs leaves one handler and a running
listener behind exactly if it is forced or comes before a tear-down. -/
theorem configured_iff_serves_iff (actions : List LoggingAction) :
    (((after actions).configured = true ↔ (after actions).Serves) ↔ ¬ TornDown (calls actions)) ∧
    ((after actions).Serves → (after actions).configured = true) ∧
    ∀ call : SetupCall, call.Yields →
      ((after (actions ++ [.setUp call])).Serves ∧
          (after (actions ++ [.setUp call])).handlers.countP (·.isOurs) = 1 ↔
        call.force = true ∨ ¬ TornDown (calls actions)) := by
  have hserves (actions : List LoggingAction) : (after actions).Serves ↔
      (after actions).configured = true ∧ ¬ TornDown (calls actions) :=
    (tidy_after actions).serves_iff.trans (recounts_after actions).inUse
  have htorn : TornDown (calls actions) → (after actions).configured = true :=
    fun h => (recounts_after actions).configured.mpr h.exists_yields
  refine ⟨?_, fun h => ((hserves actions).mp h).1, ?_⟩
  · rw [hserves]
    tauto
  · intro call hyes
    have hset : (after (actions ++ [.setUp call])).configured = true :=
      (recounts_after _).configured.mpr ⟨call, by simp [calls_concat, call?], hyes⟩
    rw [and_iff_left_of_imp (tidy_after _).countP_eq_one, hserves, calls_concat, call?,
      Option.toList_some, tornDown_concat]
    tauto

/-- A call with the usual settings. -/
def usualCall : SetupCall where
  streams := { files := { root := .directory [], current := [] } }
  settings := {}
  force := false

/-- A forced call that asks for no console. -/
def silentCall : SetupCall where
  streams := usualCall.streams
  settings := { console := .bool false }
  force := true

theorem yields_usualCall : usualCall.Yields := by
  have h : usualCall.outputs.toOption.map List.isEmpty = some false := by decide +kernel
  obtain ⟨outputs, houtputs, hsome⟩ := Option.map_eq_some_iff.mp h
  exact ⟨rfl, outputs, eq_ok_of_toOption houtputs, List.isEmpty_eq_false_iff.mp hsome⟩

/-- Logging is set up and then silenced. -/
def silenced : List LoggingAction := [.setUp usualCall, .setUp silentCall]

theorem configured_silenced : (after silenced).configured = true ∧ ¬ (after silenced).Serves ∧
    usualCall.Yields ∧ (after (silenced ++ [.setUp usualCall])).handlers = [] := by
  refine ⟨by decide +kernel, ?_, yields_usualCall, by decide +kernel⟩
  rintro ⟨i, l, hmem, -⟩
  have hnone : (after silenced).handlers = [] := by decide +kernel
  rw [hnone] at hmem
  cases hmem

end LoggingState

end CallBindings
