import ClusterSurvey.Explorer.Bare
import ClusterSurvey.Proofs.AgentPods
import ClusterSurvey.Proofs.Occurrences

/-! Which failures of a probe count as "nothing runs here". It is the message that decides, and a
message shows the names of the node, of the agent and of its namespace as they are. So a node that
no command was sent to is reported as one on which nothing runs where such a name, or what the
cluster says of its own failure, holds the mark of an exit code; it is an error everywhere else
(`AgentBridge.tells_unreached`). -/
namespace ClusterSurvey

def HoldsMark (text : String) : Prop := exitCodeMarker.toList <:+: text.toList

instance (text : String) : Decidable (HoldsMark text) :=
  inferInstanceAs (Decidable (_ <:+: _))

/-- A text that no mark can touch. -/
abbrev FencesMark (text : String) : Prop := Text.Fences exitCodeMarker.toList text.toList

section Marks

variable {before mid after : String}

theorem holdsMark_append_iff (h : FencesMark mid) :
    HoldsMark (mid ++ after) ↔ HoldsMark after := by
  unfold HoldsMark
  rw [String.toList_append]
  exact h.infix_append_iff

theorem holdsMark_append_append_iff (h : FencesMark mid) :
    HoldsMark (before ++ mid ++ after) ↔ HoldsMark before ∨ HoldsMark after := by
  unfold HoldsMark
  rw [String.toList_append, String.toList_append, List.append_assoc]
  exact h.infix_iff

theorem not_holdsMark_repr (n : Nat) : ¬ HoldsMark (Nat.repr n) := by
  intro h
  have hmem : 't' ∈ (Nat.repr n).toList := h.subset (by decide)
  rw [Nat.toList_repr] at hmem
  exact absurd (Nat.isDigit_of_mem_toDigits (by decide) (by decide) hmem) (by decide)

end Marks

namespace SurveyError

theorem isExitCode_iff {e : SurveyError} : e.isExitCode = true ↔ HoldsMark e.message :=
  Text.contains_eq_true_iff

theorem isExitCode_agentNotFound_iff (node ns agent : String) :
    (agentNotFound node ns agent).isExitCode = true ↔
      HoldsMark agent ∨ HoldsMark node ∨ HoldsMark ns := by
  have hagent : FencesMark "remote agent " := by decide
  have hnode : FencesMark " not found on node " := by decide
  have hns : FencesMark " in namespace " := by decide
  rw [isExitCode_iff]
  change HoldsMark ("remote agent " ++ agent ++ " not found on node " ++ node ++ " in namespace " ++
    ns) ↔ _
  rw [holdsMark_append_append_iff hns, holdsMark_append_append_iff hnode,
    holdsMark_append_iff hagent, or_assoc]

theorem isExitCode_ambiguousAgent_iff (node : String) (count : Nat) :
    (ambiguousAgent node count).isExitCode = true ↔ HoldsMark node := by
  have hnode : FencesMark " remote agent pods match node " := by decide
  rw [isExitCode_iff]
  change HoldsMark (Nat.repr count ++ " remote agent pods match node " ++ node) ↔ _
  rw [holdsMark_append_append_iff hnode]
  exact or_iff_right (not_holdsMark_repr count)

theorem isExitCode_transport_iff (context : String) (source : CallError) :
    (transport context source).isExitCode = true ↔
      HoldsMark context ∨ HoldsMark source.message := by
  have hcolon : FencesMark ": " := by decide
  rw [isExitCode_iff]
  change HoldsMark (context ++ ": " ++ source.message) ↔ _
  rw [holdsMark_append_append_iff hcolon]

end SurveyError

namespace AgentBridge

variable {bridge : AgentBridge} {cluster : Cluster} {component node : String} {e : SurveyError}
  {shown : List String}

/-- Why no command for a node was run, and the texts that the error about it shows as they are. -/
inductive Misses (bridge : AgentBridge) (cluster : Cluster) (node : String) :
    SurveyError → List String → Prop where
  | unlisted (e : CallError)
      (failed : cluster (.listPods (some bridge.ns) (bridge.query node)) = .error e) :
      bridge.Misses cluster node
        (.transport ("failed to find remote agent on node " ++ node) e) [node, e.message]
  | none (listed : cluster (.listPods (some bridge.ns) (bridge.query node)) = .ok []) :
      bridge.Misses cluster node (.agentNotFound node bridge.ns bridge.agent)
        [bridge.agent, node, bridge.ns]
  | nameless (pod : Pod)
      (listed : cluster (.listPods (some bridge.ns) (bridge.query node)) = .ok [pod])
      (unnamed : pod.metadata.name = .none) :
      bridge.Misses cluster node (.agentNotFound node bridge.ns bridge.agent)
        [bridge.agent, node, bridge.ns]
  | ambiguous (pods : List Pod)
      (listed : cluster (.listPods (some bridge.ns) (bridge.query node)) = .ok pods)
      (many : 1 < pods.length) :
      bridge.Misses cluster node (.ambiguousAgent node pods.length) [node]

theorem agentAmong_eq_error_iff {pods : List Pod} :
    bridge.agentAmong node pods = .error e ↔
      e = .agentNotFound node bridge.ns bridge.agent ∧
          (pods = [] ∨ ∃ pod, pods = [pod] ∧ pod.metadata.name = none) ∨
        e = .ambiguousAgent node pods.length ∧ 1 < pods.length := by
  match pods with
  | [] => simp [agentAmong, eq_comm]
  | [pod] => cases hname : pod.metadata.name <;> simp [agentAmong, hname, eq_comm]
  | first :: second :: rest => simp [agentAmong, eq_comm]

theorem value_agentPod_eq_error_iff :
    ((bridge.agentPod node).on cluster).value = .error e ↔
      ∃ shown, bridge.Misses cluster node e shown := by
  unfold agentPod
  rw [Survey.value_bind, Survey.value_ask]
  constructor
  · intro h
    cases hlisted : cluster (.listPods (some bridge.ns) (bridge.query node)) with
    | error source =>
      rw [hlisted] at h
      cases h
      exact ⟨_, .unlisted source hlisted⟩
    | ok pods =>
      rw [hlisted] at h
      obtain ⟨rfl, rfl | ⟨pod, rfl, hname⟩⟩ | ⟨rfl, hmany⟩ := agentAmong_eq_error_iff.mp h
      · exact ⟨_, .none hlisted⟩
      · exact ⟨_, .nameless pod hlisted hname⟩
      · exact ⟨_, .ambiguous pods hlisted hmany⟩
  · rintro ⟨shown, hmisses⟩
    cases hmisses with
    | unlisted source failed =>
      rw [failed]
      rfl
    | none listed =>
      rw [listed]
      exact agentAmong_eq_error_iff.mpr (.inl ⟨rfl, .inl rfl⟩)
    | nameless pod listed unnamed =>
      rw [listed]
      exact agentAmong_eq_error_iff.mpr (.inl ⟨rfl, .inr ⟨pod, rfl, unnamed⟩⟩)
    | ambiguous pods listed many =>
      rw [listed]
      exact agentAmong_eq_error_iff.mpr (.inr ⟨rfl, many⟩)

/-- The message of an error about a missed node holds the mark only in the texts that it shows. -/
theorem Misses.isExitCode_iff (h : bridge.Misses cluster node e shown) :
    e.isExitCode = true ↔ ∃ text ∈ shown, HoldsMark text := by
  cases h with
  | unlisted source =>
    have hnode : FencesMark "failed to find remote agent on node " := by decide
    rw [SurveyError.isExitCode_transport_iff, holdsMark_append_iff hnode]
    simp
  | none => simp [SurveyError.isExitCode_agentNotFound_iff]
  | nameless => simp [SurveyError.isExitCode_agentNotFound_iff]
  | ambiguous => simp [SurveyError.isExitCode_ambiguousAgent_iff]

theorem value_execute_of_error {command : List String}
    (h : ((bridge.agentPod node).on cluster).value = .error e) :
    ((bridge.execute node command).on cluster).value = .error e := by
  unfold execute
  rw [Survey.value_bind, h]
  rfl

theorem value_execute_of_picks {command : List String} {pod : Pod} {name : String}
    (h : bridge.Picks cluster node pod name) :
    ((bridge.execute node command).on cluster).value =
      (cluster (.exec bridge.ns name (enterHost ++ command))).mapError (.remote node) := by
  unfold execute
  rw [Survey.value_bind, value_agentPod_eq_ok_iff.mpr ⟨pod, h⟩]
  rfl

theorem misses_of_value_execute {command : List String}
    (h : ((bridge.execute node command).on cluster).value = .error e)
    (hremote : ∀ source, e ≠ .remote node source) : ∃ shown, bridge.Misses cluster node e shown := by
  cases hagent : ((bridge.agentPod node).on cluster).value with
  | error e' =>
    rw [value_execute_of_error hagent] at h
    cases h
    exact value_agentPod_eq_error_iff.mp hagent
  | ok name =>
    obtain ⟨pod, hpicks⟩ := value_agentPod_eq_ok_iff.mp hagent
    rw [value_execute_of_picks hpicks] at h
    cases hexec : cluster (.exec bridge.ns name (enterHost ++ command)) with
    | error source =>
      rw [hexec] at h
      cases h
      exact absurd rfl (hremote source)
    | ok output =>
      rw [hexec] at h
      cases h

theorem Misses.ne_remote (h : bridge.Misses cluster node e shown) (source : CallError) :
    e ≠ .remote node source := by
  rintro rfl
  cases h

theorem Misses.value_probeNode (h : bridge.Misses cluster node e shown) :
    ((probeNode bridge.execute component node).on cluster).value =
      if e.isExitCode then .ok (.absent component node) else .error e := by
  unfold probeNode
  rw [Survey.value_bind, value_execute_of_error (value_agentPod_eq_error_iff.mpr ⟨shown, h⟩)]
  rfl

theorem Misses.value_probeNode_of_not_holdsMark (h : bridge.Misses cluster node e shown)
    (hmark : ∀ text ∈ shown, ¬ HoldsMark text) :
    ((probeNode bridge.execute component node).on cluster).value = .error e := by
  rw [h.value_probeNode, if_neg]
  rw [h.isExitCode_iff]
  rintro ⟨text, htext, hholds⟩
  exact hmark text htext hholds

/-- What comes of a node, and of a search that has to look at it, where no command can be run on
it. -/
structure TellsUnreached (bridge : AgentBridge) (component node : String) (cluster : Cluster) :
    Prop where
  misses_iff : ∀ command e, (∃ shown, bridge.Misses cluster node e shown) ↔
    ((bridge.execute node command).on cluster).value = .error e ∧
      ∀ source, e ≠ .remote node source
  unrun : ∀ command e shown, bridge.Misses cluster node e shown →
    executions ((bridge.execute node command).on cluster).events = []
  kept : ∀ e shown, bridge.Misses cluster node e shown → (∀ text ∈ shown, ¬ HoldsMark text) →
    ((probeNode bridge.execute component node).on cluster).value = .error e
  mistaken : ∀ e shown, bridge.Misses cluster node e shown → (∃ text ∈ shown, HoldsMark text) →
    ((probeNode bridge.execute component node).on cluster).value = .ok (.absent component node)
  failed : ∀ e shown nodes, bridge.Misses cluster node e shown →
    (∀ text ∈ shown, ¬ HoldsMark text) → node ∈ nodes →
      ∃ e', ((Explorer.byProcess bridge.execute component nodes).find.on cluster).value = .error e'

/-- A node that is missed is reported with its error, unless a text that the error shows holds the
mark of an exit code; then it is reported as one on which nothing runs. -/
theorem tells_unreached (bridge : AgentBridge) (component node : String) (cluster : Cluster) :
    bridge.TellsUnreached component node cluster where
  misses_iff := by
    intro command e
    constructor
    · rintro ⟨shown, hmisses⟩
      exact ⟨value_execute_of_error (value_agentPod_eq_error_iff.mpr ⟨shown, hmisses⟩),
        hmisses.ne_remote⟩
    · rintro ⟨hvalue, hremote⟩
      exact misses_of_value_execute hvalue hremote
  unrun := by
    intro command e shown hmisses
    exact executions_execute_of_error (value_agentPod_eq_error_iff.mpr ⟨shown, hmisses⟩)
  kept := fun _ _ hmisses hmark => hmisses.value_probeNode_of_not_holdsMark hmark
  mistaken := by
    intro e shown hmisses hmark
    rw [hmisses.value_probeNode, if_pos (hmisses.isExitCode_iff.mpr hmark)]
  failed := by
    intro e shown nodes hmisses hmark hnode
    have herror : ((probeNode bridge.execute component node).on cluster).value = .error e :=
      hmisses.value_probeNode_of_not_holdsMark hmark
    cases hfound : ((Explorer.byProcess bridge.execute component nodes).find.on cluster).value with
    | error e' => exact ⟨e', rfl⟩
    | ok found =>
      -- A search without a failure is one without a failure on any node.
      unfold Explorer.byProcess at hfound
      rw [Explorer.value_perNode, firstFailure_eq_ok_iff] at hfound
      have hmem : Except.error e ∈ found.map .ok := by
        rw [← hfound, ← herror]
        exact List.mem_map_of_mem hnode
      obtain ⟨c, _, hc⟩ := List.mem_map.mp hmem
      cases hc

end AgentBridge

namespace Sample

def mislabelled : SurveyConfig where
  bridge := .proxy "kube-system" "terminated with exit code"
  components := [⟨"kubelet", "kube-system", .bare ["cp-1"] false⟩]
  tolerateFailures := false
  concurrency := 5

def mislabelledBridge : AgentBridge := ⟨"kube-system", "terminated with exit code"⟩

end Sample

/-- A configuration that is accepted can have a node reported as one on which nothing runs although
no command was run there. -/
theorem AgentBridge.mistakes_unreached :
    Sample.mislabelled.validate = .ok () ∧
      Sample.mislabelled.bridge.bridge? = some Sample.mislabelledBridge ∧
      ∃ c ∈ Sample.mislabelled.components, ∃ node ∈ c.source.nodes,
        ((Sample.mislabelledBridge.execute node (probeCommand c.name)).on
            Sample.host.answer).value =
          .error (.agentNotFound node "kube-system" "terminated with exit code") ∧
        executions ((Sample.mislabelledBridge.execute node (probeCommand c.name)).on
            Sample.host.answer).events = [] ∧
        ((probeNode Sample.mislabelledBridge.execute c.name node).on Sample.host.answer).value =
          .ok (.absent c.name node) := by
  have hmisses : Sample.mislabelledBridge.Misses Sample.host.answer "cp-1"
      (.agentNotFound "cp-1" "kube-system" "terminated with exit code")
      ["terminated with exit code", "cp-1", "kube-system"] := .none rfl
  have hagent := value_agentPod_eq_error_iff.mpr ⟨_, hmisses⟩
  refine ⟨rfl, rfl, _, List.mem_cons_self, "cp-1", List.mem_cons_self,
    value_execute_of_error hagent, executions_execute_of_error hagent, ?_⟩
  rw [hmisses.value_probeNode, if_pos (hmisses.isExitCode_iff.mpr
    ⟨_, List.mem_cons_self, List.infix_refl _⟩)]

end ClusterSurvey
