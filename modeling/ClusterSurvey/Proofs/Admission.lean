import ClusterSurvey.Proofs.Crowds

/-! How the calls for nodes are admitted. Whatever a surveyor is asked for, all that it does for one
node is done in calls that go through the gate of their stage once, whatever the cluster answers. So
as many of them as one likes may share a gate (`Surveyor.admits_by_limit`). -/
namespace ClusterSurvey

/-- An event on the way to a single node: its agent or a pod of it is looked for, a command is run
there, or a gate is passed. -/
def Event.ForNode : Event → Prop
  | asked (.getPod ..) | asked (.exec ..) | passed .. => True
  | asked (.listPods _ query) => query.fields.isSome = true
  | _ => False

theorem Survey.isVisit_gated {α : Type} {survey : Survey α}
    (h : survey.Only fun event => ¬ event.IsPassage) (stage : Stage) (visitor : String)
    (cluster : Cluster) : IsVisit ((gated stage visitor survey).on cluster).events := by
  refine ⟨stage, visitor, _, ?_, h cluster⟩
  rw [events_gated, List.cons_append]

namespace Surveyor

/-- Everything that a call for one node does, by the stage that it belongs to; it fails where the
cluster lets it fail. An explorer that looks at several nodes makes several such calls, and each
comes to the gate on its own. -/
inductive NodeCall (config : SurveyConfig) : Stage → List Event → Prop where
  | staticPod (c : ComponentConfig) (listed : c ∈ config.components) (node : String)
      (cluster : Cluster) :
      NodeCall config .components
        ((Survey.gated .components node (staticPodOn c.name c.ns node)).on cluster).events
  | bare (executor : NodeExecutor) (reached : config.bridge.executor? = some executor)
      (c : ComponentConfig) (listed : c ∈ config.components) (node : String) (cluster : Cluster) :
      NodeCall config .components
        ((Survey.gated .components node (probeNode executor c.name node)).on cluster).events
  | machine (executor : NodeExecutor) (reached : config.bridge.executor? = some executor)
      (node : String) (cluster : Cluster) :
      NodeCall config .machines
        ((Survey.gated .machines node (Collector.fetchMachine executor node)).on cluster).events

variable {config : SurveyConfig} {stage : Stage} {course events others : List Event}

theorem only_not_isPassage_executor {executor : NodeExecutor}
    (reached : config.bridge.executor? = some executor) (node : String) (command : List String) :
    (executor node command).Only fun event => ¬ event.IsPassage := by
  obtain ⟨ns, agent, _, rfl⟩ := BridgeConfig.executor?_eq_some_iff.mp reached
  exact AgentBridge.only_execute _ id fun _ => id

theorem NodeCall.isVisit (h : NodeCall config stage course) : IsVisit course := by
  cases h with
  | staticPod c listed node cluster =>
    exact Survey.isVisit_gated (Survey.composes_only.staticPodOn (Survey.only_ask id)) _ _ _
  | bare executor reached c listed node cluster =>
    exact Survey.isVisit_gated
      (Survey.composes_only.probeNode (only_not_isPassage_executor reached _ _)) _ _ _
  | machine executor reached node cluster =>
    exact Survey.isVisit_gated
      (Survey.composes_only.fetchMachine (only_not_isPassage_executor reached _ _)) _ _ _

inductive MadeOf (config : SurveyConfig) : List Event → Prop where
  | nil : MadeOf config []
  | event {event : Event} {rest : List Event} (apart : ¬ event.ForNode)
      (made : MadeOf config rest) : MadeOf config (event :: rest)
  | call {stage : Stage} {course rest : List Event} (known : NodeCall config stage course)
      (made : MadeOf config rest) : MadeOf config (course ++ rest)

theorem MadeOf.append (h : MadeOf config events) (hothers : MadeOf config others) :
    MadeOf config (events ++ others) := by
  induction h with
  | nil => exact hothers
  | event apart _ ih => exact .event apart ih
  | call known _ ih =>
    rw [List.append_assoc]
    exact .call known ih

def Admits (config : SurveyConfig) {α : Type} (survey : Survey α) : Prop :=
  ∀ cluster, MadeOf config (survey.on cluster).events

theorem composes_admits : Survey.Composes (Admits config) where
  of_pure _ _ := .nil
  of_bind h hnext cluster := (h cluster).append (hnext _ cluster)

theorem admits_ask {call : Call} (apart : ¬ (Event.asked call).ForNode) :
    Admits config (Survey.ask call) := fun _ => .event apart .nil

theorem admits_of_nodeCall {α : Type} {survey : Survey α}
    (h : ∀ cluster, NodeCall config stage (survey.on cluster).events) : Admits config survey := by
  intro cluster
  rw [← List.append_nil (survey.on cluster).events]
  exact .call (h cluster) .nil

theorem admits_builtin {ctx : ExplorerContext} {explorer : Explorer} (h : ctx.Builtin explorer)
    (listed : ctx.component ∈ config.components) (hbridge : ctx.executor = config.bridge.executor?) :
    Admits config explorer.find := by
  cases h with
  | label => exact composes_admits.byLabels (admits_ask Bool.false_ne_true)
  | staticPod =>
    apply composes_admits.perNode
    intro node _
    exact admits_of_nodeCall (.staticPod ctx.component listed node)
  | bare executor _ reached =>
    apply composes_admits.perNode
    intro node _
    exact admits_of_nodeCall (.bare executor (hbridge ▸ reached) ctx.component listed node)

theorem admits_collect (nodes : List Node) (now : Timestamp) :
    Admits config ((prepare config .builtin nodes).collect now) := by
  refine composes_admits.collect (fun kind => admits_ask id) ?_ ?_ now
  · intro d hd
    obtain ⟨c, hc, rfl⟩ := List.mem_map.mp hd
    apply composes_admits.search
    intro candidate hcandidate
    exact ⟨fun _ => .event id .nil,
      admits_builtin (Registry.mem_chain_builtin_iff.mp hcandidate) hc rfl⟩
  · intro stage
    apply composes_admits.fetchMachines
    intro executor reached node _
    exact admits_of_nodeCall (.machine executor reached node)

theorem admits_after {s : Surveyor} (h : s.Consistent config .builtin) (call : SurveyorCall) :
    Admits config (s.after call) := by
  cases call with
  | init => exact composes_admits.init (admits_ask id)
  | sync now =>
    apply composes_admits.sync
    intro collector hcollector
    obtain ⟨_, nodes, rfl⟩ := h.collector_eq collector hcollector
    exact admits_collect nodes now

theorem madeOf_history {s : Surveyor} (h : s.Consistent config .builtin) (visits : List Visit) :
    MadeOf config ((s.history visits).flatMap Episode.events) := by
  induction visits generalizing s with
  | nil => exact .nil
  | cons v rest ih =>
    rw [history, List.flatMap_cons]
    exact MadeOf.append (admits_after h v.call v.cluster) (ih (Consistent.next (e := ⟨v, s⟩) h))

/-- How calls for nodes are admitted at a gate of some limit, however many of them there are and
whichever comes next, fails or is given up. -/
structure AdmitsByLimit (config : SurveyConfig) (limit : Nat) : Prop where
  made : limit ≤ Gate.capacity → ∃ g, Gate.ofLimit? limit = some g
  run : ∀ g, Gate.ofLimit? limit = some g → ∀ steps, (g.run steps).Balanced limit
  assembles : limit ≤ Gate.capacity → ∀ (calls : List Event → Prop) (courses : List (List Event)),
    (∀ course ∈ courses, calls course) →
      ∃ c : Crowd, c.Formed limit calls ∧ c.callers.map (·.rest) = courses
  balanced : ∀ (calls : List Event → Prop) (c : Crowd), c.Formed limit calls → c.Balanced limit
  disciplined : ∀ (stage : Stage) (c : Crowd), c.Formed limit (NodeCall config stage) →
    c.Disciplined limit
  madeOf : ∀ visits, MadeOf config (((new config .builtin).history visits).flatMap Episode.events)

/-- Calls that share a gate never take more places than it has, and they give back every one. -/
theorem admits_by_limit (config : SurveyConfig) (limit : Nat) : AdmitsByLimit config limit where
  made hlimit := ⟨_, if_pos hlimit⟩
  run _ hmade steps := ((Gate.kept_of_ofLimit? hmade).run steps).balanced
  assembles hlimit _ := Crowd.exists_formed (if_pos hlimit)
  balanced _ _ h := h.kept.balanced
  disciplined _ _ h := (h.orderly fun _ => NodeCall.isVisit).disciplined
  madeOf := madeOf_history consistent_new

end Surveyor

end ClusterSurvey
