import ClusterSurvey.Proofs.WellFormed
import ClusterSurvey.Proofs.Footprint

/-! The commands that a surveyor runs on nodes. Whatever it is asked to do, and whatever has become
of the cluster since, these are the listing of the tunables and the probes for configured
components. The name of a component is the only text in them that a configuration chooses, and a
shell takes it for one word. -/
namespace ClusterSurvey

structure Execution where
  ns : String
  pod : String
  command : List String
  deriving DecidableEq, Repr

def Event.execution? : Event → Option Execution
  | .asked (.exec ns pod command) => some ⟨ns, pod, command⟩
  | _ => none

def executions (events : List Event) : List Execution := events.filterMap Event.execution?

def shellSyntax : List Char := " \t\n|&;<>()$\x60\\\"'*?[]#~=%!^\x7b\x7d".toList

def probeHead : String := "pid=$(pidof -s "

def probeTail : String := ") && echo \"$pid\" && tr '\\0' '\\n' < /proc/$pid/cmdline | tail -n +2"

theorem probeCommand_eq (process : String) :
    probeCommand process = ["sh", "-c", probeHead ++ process ++ probeTail] := by
  unfold probeCommand probeHead probeTail
  rw [String.append_assoc]

theorem not_mem_shellSyntax {char : Char} (h : isNameChar char = true) : char ∉ shellSyntax := by
  have hrefused : shellSyntax.all (fun other => !isNameChar other) = true := by decide
  intro hmem
  have hchar := List.all_eq_true.mp hrefused char hmem
  rw [h] at hchar
  cases hchar

/-- The commands that a configuration allows on its nodes. -/
inductive SurveyConfig.Allows (config : SurveyConfig) : List String → Prop where
  | tunables : config.Allows (enterHost ++ ["sysctl", "-a"])
  | probe (name : String) (configured : name ∈ config.components.map (·.name))
      (nonempty : name ≠ "")
      (plain : ∀ char ∈ name.toList, char.isAlphanum = true ∨ char ∈ ['-', '_', '.'])
      (inert : ∀ char ∈ name.toList, char ∉ shellSyntax) :
      config.Allows (enterHost ++ ["sh", "-c", probeHead ++ name ++ probeTail])

theorem SurveyConfig.allows_probeCommand {config : SurveyConfig} {c : ComponentConfig}
    (hvalid : config.validate = .ok ()) (hc : c ∈ config.components) :
    config.Allows (enterHost ++ probeCommand c.name) := by
  obtain ⟨_, _, hchecks, _⟩ := (validate_eq_ok_iff config).mp hvalid
  obtain ⟨hname, hchars, _, _⟩ := (ComponentConfig.check_eq_ok_iff _ c).mp (hchecks c hc)
  rw [probeCommand_eq]
  refine .probe c.name (List.mem_map_of_mem hc) hname ?_ ?_
  · intro char hchar
    have hplain := hchars char hchar
    unfold isNameChar at hplain
    simp only [Bool.or_eq_true, decide_eq_true_eq] at hplain
    simp only [List.mem_cons, List.not_mem_nil, or_false]
    tauto
  · exact fun char hchar => not_mem_shellSyntax (hchars char hchar)

def Event.Allowed (config : SurveyConfig) (event : Event) : Prop :=
  ∀ x, event.execution? = some x →
    (∃ agent, config.bridge = .proxy x.ns agent) ∧ config.Allows x.command

namespace Event

variable {config : SurveyConfig}

theorem allowed_of_execution?_eq_none {event : Event} (h : event.execution? = none) :
    event.Allowed config := by
  intro x hx
  rw [h] at hx
  cases hx

theorem allowed_exec {ns agent pod : String} {command : List String}
    (hbridge : config.bridge = .proxy ns agent) (hcommand : config.Allows command) :
    (asked (.exec ns pod command)).Allowed config := by
  intro x hx
  cases hx
  exact ⟨⟨agent, hbridge⟩, hcommand⟩

end Event

theorem Surveyor.only_allowed_collect {config : SurveyConfig} (hvalid : config.validate = .ok ())
    (nodes : List Node) (now : Timestamp) :
    ((prepare config .builtin nodes).collect now).Only (Event.Allowed config) := by
  apply only_collect_prepare
  · exact fun _ => Event.allowed_of_execution?_eq_none rfl
  · exact fun _ _ => Event.allowed_of_execution?_eq_none rfl
  · exact fun _ _ => Event.allowed_of_execution?_eq_none rfl
  · exact fun _ _ => Event.allowed_of_execution?_eq_none rfl
  · exact fun _ _ _ _ => Event.allowed_of_execution?_eq_none rfl
  · exact fun ns agent hbridge pod => Event.allowed_exec hbridge .tunables
  · intro ns agent hbridge c hc pod
    exact Event.allowed_exec hbridge (SurveyConfig.allows_probeCommand hvalid hc)

/-- No call leaves anything else, whether it succeeds or not: a surveyor that is not set up runs no
command, and one that is set up has a configuration that was accepted. -/
theorem Episode.allowed_of_mem_events {config : SurveyConfig} {e : Episode}
    (h : e.before.Consistent config .builtin) {event : Event} (hevent : event ∈ e.events) :
    event.Allowed config := by
  have honly : (e.before.after e.call).Only (Event.Allowed config) := by
    cases e.call with
    | init => exact Surveyor.only_init (Event.allowed_of_execution?_eq_none rfl)
    | sync now =>
      apply Surveyor.only_sync
      intro collector hcollector
      obtain ⟨hvalid, nodes, rfl⟩ := h.collector_eq collector hcollector
      exact Surveyor.only_allowed_collect hvalid nodes now
  exact honly e.cluster event hevent

theorem Surveyor.allowed_of_mem_history {config : SurveyConfig} {visits : List Visit}
    {x : Execution}
    (hx : x ∈ executions (((new config .builtin).history visits).flatMap Episode.events)) :
    (∃ agent, config.bridge = .proxy x.ns agent) ∧ config.Allows x.command := by
  obtain ⟨event, hevent, hexecution⟩ := List.mem_filterMap.mp hx
  obtain ⟨e, he, hevent⟩ := List.mem_flatMap.mp hevent
  exact Episode.allowed_of_mem_events (consistent_new.of_mem_history he) hevent x hexecution

/-- How the commands of a surveyor keep to its configuration. -/
structure SurveyConfig.Confines (config : SurveyConfig) (commands : List Execution) : Prop where
  ns_eq : ∀ x ∈ commands, ∃ agent, config.bridge = .proxy x.ns agent
  allows : ∀ x ∈ commands, config.Allows x.command
  eq_nil : config.bridge = .disabled → commands = []

/-- Over any calls, only the commands that the configuration allows are run, in the namespace of its
bridge, and none at all without a bridge. -/
theorem confines_history (config : SurveyConfig) (visits : List Visit) :
    config.Confines
      (executions (((Surveyor.new config .builtin).history visits).flatMap Episode.events)) := by
  refine {
    ns_eq := fun x hx => (Surveyor.allowed_of_mem_history hx).1
    allows := fun x hx => (Surveyor.allowed_of_mem_history hx).2
    eq_nil := ?_ }
  intro hdisabled
  apply List.eq_nil_iff_forall_not_mem.mpr
  intro x hx
  obtain ⟨⟨agent, hproxy⟩, _⟩ := Surveyor.allowed_of_mem_history hx
  rw [hdisabled] at hproxy
  cases hproxy

example : ((executions Sample.surveyed.events).map (·.command)) =
    List.replicate 2 (enterHost ++ probeCommand "kubelet") ++ [enterHost ++ tunablesCommand] := by
  decide +kernel

end ClusterSurvey
