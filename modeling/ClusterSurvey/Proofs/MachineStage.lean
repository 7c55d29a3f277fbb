import ClusterSurvey.Proofs.Capacity
import ClusterSurvey.Proofs.Progress

/-! The machines of the nodes, read at the same time. A snapshot comes of it only if every node with
a name can be read, and then holds each of them once, as its node tells it; else a node that could
not be read is reported (`Collector.reads_machines`). The order in which the readings come in
matters for nothing but which one of several failures is reported. -/
namespace ClusterSurvey

def ComponentStage.undated (stage : ComponentStage) (machines : Dict Machine) : Snapshot where
  syncedAt := none
  inventory := stage.inventory
  components := stage.components
  componentErrors := stage.componentErrors
  machines

namespace Collector

section Semantics

variable (executor : NodeExecutor) (stage : ComponentStage) (cluster : Cluster)

def answerOf (node : String) : Except SurveyError ExecOutput :=
  ((executor node tunablesCommand).on cluster).value

def readingsOf : Sweep String (String × Machine) :=
  .start (probe executor) cluster (Node.names stage.inventory.nodes)

def conclude (readings : Except SurveyError (List (String × Machine))) : Except Abort Snapshot :=
  (readings.map fun l => stage.undated (.ofList l)).mapError .failed

/-- The readings of all nodes, let on in any way, can come to a result. -/
def MachinesComeTo (result : Except Abort Snapshot) : Prop :=
  ∃ s readings, (readingsOf executor stage cluster).Reaches (probe executor) cluster s ∧
    s.Ends (probe executor) cluster readings ∧ conclude stage readings = result

structure Completes (snapshot : Snapshot) : Prop where
  syncedAt_eq : snapshot.syncedAt = none
  inventory_eq : snapshot.inventory = stage.inventory
  components_eq : snapshot.components = stage.components
  componentErrors_eq : snapshot.componentErrors = stage.componentErrors
  nodup_keys : snapshot.machines.keys.Nodup
  mem_keys_iff : ∀ name, name ∈ snapshot.machines.keys ↔
    ∃ node ∈ stage.inventory.nodes, node.metadata.name = some name
  tunables_eq : ∀ name machine, snapshot.machines.get? name = some machine →
    ∃ output, answerOf executor cluster name = .ok output ∧
      machine.tunables = readTunables output.stdout

/-- How the readings of the machines go that have come to a result one after the other. -/
structure Reads (result : Except Abort Snapshot) : Prop where
  ok_iff : (∃ snapshot, result = .ok snapshot) ↔
    ∀ node ∈ stage.inventory.nodes, ∀ name, node.metadata.name = some name →
      ∃ output, answerOf executor cluster name = .ok output
  completes : ∀ snapshot, result = .ok snapshot → Completes executor stage cluster snapshot
  error_iff : ∀ abort, result = .error abort ↔
    ∃ front name back e, Node.names stage.inventory.nodes = front ++ name :: back ∧
      (∀ other ∈ front, ∃ output, answerOf executor cluster other = .ok output) ∧
      answerOf executor cluster name = .error e ∧ abort = .failed (.machine name e)
  exists_result : ∀ s, (readingsOf executor stage cluster).Reaches (probe executor) cluster s →
    ∃ s' readings, s.Reaches (probe executor) cluster s' ∧ s'.Ends (probe executor) cluster readings
  inTurn : MachinesComeTo executor stage cluster result
  /-- Readings that can succeed can come to nothing else. -/
  unique : ∀ snapshot other, MachinesComeTo executor stage cluster (.ok snapshot) →
    MachinesComeTo executor stage cluster other → other = .ok snapshot
  names_failure : ∀ abort, MachinesComeTo executor stage cluster (.error abort) →
    ∃ name ∈ Node.names stage.inventory.nodes, ∃ e,
      answerOf executor cluster name = .error e ∧ abort = .failed (.machine name e)

end Semantics

structure ReadsMachines (c : Collector) (stage : ComponentStage) (cluster : Cluster) : Prop where
  unreached : c.executor = none →
    ((c.fetchMachines stage).on cluster).value = .ok (stage.undated ∅)
  reached : ∀ executor, c.executor = some executor → c.concurrency.toNat ≤ Gate.capacity →
    Reads executor stage cluster ((c.fetchMachines stage).on cluster).value
  overflow : ∀ executor, c.executor = some executor → Gate.capacity < c.concurrency.toNat →
    ((c.fetchMachines stage).on cluster).value = .error (.overflow c.concurrency.toNat)

variable {c : Collector} {executor : NodeExecutor} {stage : ComponentStage} {cluster : Cluster}
  {order : List String} {name : String}

theorem value_probe (executor : NodeExecutor) (cluster : Cluster) (name : String) :
    ((probe executor name).on cluster).value =
      match answerOf executor cluster name with
      | .ok output => .ok (name, ⟨readTunables output.stdout⟩)
      | .error e => .error (.machine name e) := by
  unfold probe fetchMachine answerOf
  rw [Survey.value_gated, Survey.value_bind]
  cases ((executor name tunablesCommand).on cluster).value <;> rfl

theorem value_probe_eq_ok_iff {reading : String × Machine} :
    ((probe executor name).on cluster).value = .ok reading ↔
      ∃ output, answerOf executor cluster name = .ok output ∧
        reading = (name, ⟨readTunables output.stdout⟩) := by
  rw [value_probe]
  cases answerOf executor cluster name <;> simp [eq_comm]

theorem exists_value_probe_iff :
    (∃ reading, ((probe executor name).on cluster).value = .ok reading) ↔
      ∃ output, answerOf executor cluster name = .ok output := by
  rw [value_probe]
  cases answerOf executor cluster name <;> simp

theorem value_probe_eq_error_iff {error : SurveyError} :
    ((probe executor name).on cluster).value = .error error ↔
      ∃ e, answerOf executor cluster name = .error e ∧ error = .machine name e := by
  rw [value_probe]
  cases answerOf executor cluster name <;> simp [eq_comm]

def readIn (executor : NodeExecutor) (stage : ComponentStage) (cluster : Cluster)
    (order : List String) : Except Abort Snapshot :=
  conclude stage (firstFailure (order.map fun name => ((probe executor name).on cluster).value))

theorem conclude_eq_ok_iff {readings : Except SurveyError (List (String × Machine))}
    {snapshot : Snapshot} :
    conclude stage readings = .ok snapshot ↔
      ∃ l, readings = .ok l ∧ snapshot = stage.undated (.ofList l) := by
  unfold conclude
  cases readings <;> simp [Except.map, Except.mapError, eq_comm]

theorem conclude_eq_error_iff {readings : Except SurveyError (List (String × Machine))}
    {abort : Abort} :
    conclude stage readings = .error abort ↔ ∃ e, readings = .error e ∧ abort = .failed e := by
  unfold conclude
  cases readings <;> simp [Except.map, Except.mapError, eq_comm]

theorem machinesComeTo_iff {result : Except Abort Snapshot} :
    MachinesComeTo executor stage cluster result ↔
      ∃ order, order.Perm (Node.names stage.inventory.nodes) ∧
        readIn executor stage cluster order = result := by
  unfold MachinesComeTo readIn
  simp only [← Survey.value_untilFailure]
  constructor
  · rintro ⟨s, readings, hreach, hends, rfl⟩
    obtain ⟨order, hperm, rfl⟩ := Sweep.ends_iff.mp ⟨s, hreach, hends⟩
    exact ⟨order, hperm, rfl⟩
  · rintro ⟨order, hperm, rfl⟩
    obtain ⟨s, hreach, hends⟩ := Sweep.ends_iff.mpr ⟨order, hperm, rfl⟩
    exact ⟨s, _, hreach, hends, rfl⟩

theorem exists_readIn_eq_ok_iff :
    (∃ snapshot, readIn executor stage cluster order = .ok snapshot) ↔
      ∀ name ∈ order, ∃ output, answerOf executor cluster name = .ok output := by
  unfold readIn
  simp only [conclude_eq_ok_iff, ← exists_value_probe_iff]
  rw [← exists_firstFailure_map_eq_ok_iff]
  constructor
  · rintro ⟨_, l, hl, _⟩
    exact ⟨l, hl⟩
  · rintro ⟨l, hl⟩
    exact ⟨_, l, hl, rfl⟩

theorem readIn_eq_error_iff {abort : Abort} :
    readIn executor stage cluster order = .error abort ↔
      ∃ front name back e, order = front ++ name :: back ∧
        (∀ other ∈ front, ∃ output, answerOf executor cluster other = .ok output) ∧
        answerOf executor cluster name = .error e ∧ abort = .failed (.machine name e) := by
  unfold readIn
  simp only [conclude_eq_error_iff, firstFailure_map_eq_error_iff, exists_value_probe_iff,
    value_probe_eq_error_iff]
  constructor
  · rintro ⟨_, ⟨front, name, back, rfl, hfront, e, he, rfl⟩, rfl⟩
    exact ⟨front, name, back, e, rfl, hfront, he, rfl⟩
  · rintro ⟨front, name, back, e, rfl, hfront, he, rfl⟩
    exact ⟨_, ⟨front, name, back, rfl, hfront, e, he, rfl⟩, rfl⟩

theorem get?_ofList_readings {readings : List (String × Machine)} {machine : Machine}
    (h : order.map (fun name => ((probe executor name).on cluster).value) = readings.map .ok) :
    (Dict.ofList readings).get? name = some machine ↔
      name ∈ order ∧ ∃ output, answerOf executor cluster name = .ok output ∧
        machine = ⟨readTunables output.stdout⟩ := by
  have hmem : ∀ reading, reading ∈ readings ↔ ∃ name ∈ order, ∃ output,
      answerOf executor cluster name = .ok output ∧
        reading = (name, ⟨readTunables output.stdout⟩) := by
    intro reading
    have hok : Function.Injective (Except.ok : String × Machine → Except SurveyError _) :=
      fun _ _ => Except.ok.inj
    rw [← List.mem_map_of_injective hok, ← h, List.mem_map]
    simp only [value_probe_eq_ok_iff]
  rw [Dict.get?_ofList_eq_some_iff_of_injOn, hmem]
  · constructor
    · rintro ⟨_, hname, output, houtput, heq⟩
      cases heq
      exact ⟨hname, output, houtput, rfl⟩
    · rintro ⟨hname, output, houtput, rfl⟩
      exact ⟨name, hname, output, houtput, rfl⟩
  · intro x hx y hy hkey
    obtain ⟨name, _, output, houtput, rfl⟩ := (hmem x).mp hx
    obtain ⟨other, _, output', houtput', rfl⟩ := (hmem y).mp hy
    obtain rfl : name = other := hkey
    cases houtput.symm.trans houtput'
    rfl

theorem completes_of_readIn (hperm : order.Perm (Node.names stage.inventory.nodes))
    {snapshot : Snapshot} (h : readIn executor stage cluster order = .ok snapshot) :
    Completes executor stage cluster snapshot := by
  have hall := exists_readIn_eq_ok_iff.mp ⟨snapshot, h⟩
  obtain ⟨readings, hreadings, rfl⟩ := conclude_eq_ok_iff.mp h
  rw [firstFailure_eq_ok_iff] at hreadings
  refine ⟨rfl, rfl, rfl, rfl, Dict.nodup_keys _, ?_, ?_⟩
  · intro name
    have hnames : name ∈ order ↔ ∃ node ∈ stage.inventory.nodes, node.metadata.name = some name := by
      rw [hperm.mem_iff]
      exact List.mem_filterMap
    rw [Dict.mem_keys_iff, Option.isSome_iff_exists, ← hnames]
    constructor
    · rintro ⟨machine, hmachine⟩
      exact ((get?_ofList_readings hreadings).mp hmachine).1
    · intro hname
      obtain ⟨output, houtput⟩ := hall name hname
      exact ⟨_, (get?_ofList_readings hreadings).mpr ⟨hname, output, houtput, rfl⟩⟩
  · intro name machine hmachine
    obtain ⟨_, output, houtput, rfl⟩ := (get?_ofList_readings hreadings).mp hmachine
    exact ⟨output, houtput, rfl⟩

theorem Completes.get?_of_get? {snapshot other : Snapshot}
    (h : Completes executor stage cluster snapshot) (h' : Completes executor stage cluster other)
    {machine : Machine} (hmachine : snapshot.machines.get? name = some machine) :
    other.machines.get? name = some machine := by
  have hname : name ∈ snapshot.machines.keys :=
    Dict.mem_keys_iff.mpr (Option.isSome_iff_exists.mpr ⟨machine, hmachine⟩)
  rw [h.mem_keys_iff, ← h'.mem_keys_iff, Dict.mem_keys_iff, Option.isSome_iff_exists] at hname
  obtain ⟨machine', hmachine'⟩ := hname
  obtain ⟨output, houtput, htunables⟩ := h.tunables_eq name machine hmachine
  obtain ⟨output', houtput', htunables'⟩ := h'.tunables_eq name machine' hmachine'
  cases houtput.symm.trans houtput'
  have heq : machine' = machine := congrArg Machine.mk (htunables'.trans htunables.symm)
  rw [hmachine', heq]

theorem Completes.eq {snapshot other : Snapshot} (h : Completes executor stage cluster snapshot)
    (h' : Completes executor stage cluster other) : other = snapshot := by
  have hmachines : other.machines = snapshot.machines := by
    apply Dict.ext_get?
    intro name
    apply Option.ext
    intro machine
    exact ⟨h'.get?_of_get? h, h.get?_of_get? h'⟩
  cases snapshot
  cases other
  rw [Snapshot.mk.injEq]
  exact ⟨h'.syncedAt_eq.trans h.syncedAt_eq.symm, h'.inventory_eq.trans h.inventory_eq.symm,
    h'.components_eq.trans h.components_eq.symm,
    h'.componentErrors_eq.trans h.componentErrors_eq.symm, hmachines⟩

theorem value_fetchMachines (hexecutor : c.executor = some executor)
    (hlimit : c.concurrency.toNat ≤ Gate.capacity) :
    ((c.fetchMachines stage).on cluster).value =
      readIn executor stage cluster (Node.names stage.inventory.nodes) := by
  unfold fetchMachines readIn
  rw [hexecutor, ← Survey.value_untilFailure]
  dsimp only
  rw [Gate.ofLimit?, if_pos hlimit]
  unfold probeNodes
  simp only [Survey.value_bind, Survey.value_pure]
  unfold conclude probe
  cases ((Survey.untilFailure _ _).on cluster).value <;> rfl

theorem reads_readIn (executor : NodeExecutor) (stage : ComponentStage) (cluster : Cluster) :
    Reads executor stage cluster
      (readIn executor stage cluster (Node.names stage.inventory.nodes)) where
  ok_iff := by
    rw [exists_readIn_eq_ok_iff]
    unfold Node.names
    simp only [List.mem_filterMap]
    constructor
    · intro hall node hnode name hname
      exact hall name ⟨node, hnode, hname⟩
    · rintro hall name ⟨node, hnode, hname⟩
      exact hall node hnode name hname
  completes := fun _ h => completes_of_readIn (List.Perm.refl _) h
  error_iff := fun _ => readIn_eq_error_iff
  exists_result := fun s _ => Sweep.exists_ends (probe executor) cluster s
  inTurn := machinesComeTo_iff.mpr ⟨_, List.Perm.refl _, rfl⟩
  unique := by
    intro snapshot other hsnapshot hother
    obtain ⟨order, hperm, hread⟩ := machinesComeTo_iff.mp hsnapshot
    obtain ⟨order', hperm', rfl⟩ := machinesComeTo_iff.mp hother
    -- No reading fails in one order, so none fails in the other.
    obtain ⟨snapshot', hread'⟩ := exists_readIn_eq_ok_iff.mpr fun name hname =>
      exists_readIn_eq_ok_iff.mp ⟨snapshot, hread⟩ name
        ((hperm'.trans hperm.symm).mem_iff.mp hname)
    rw [hread', (completes_of_readIn hperm hread).eq (completes_of_readIn hperm' hread')]
  names_failure := by
    intro abort hcomes
    obtain ⟨order, hperm, hread⟩ := machinesComeTo_iff.mp hcomes
    obtain ⟨front, name, back, e, rfl, _, he, rfl⟩ := readIn_eq_error_iff.mp hread
    exact ⟨name, hperm.mem_iff.mp (by simp), e, he, rfl⟩

/-- All machines or none: a node with a name that cannot be read is reported. -/
theorem reads_machines (c : Collector) (stage : ComponentStage) (cluster : Cluster) :
    ReadsMachines c stage cluster where
  unreached := by
    intro hexecutor
    unfold fetchMachines
    rw [hexecutor]
    rfl
  reached := by
    intro executor hexecutor hlimit
    rw [value_fetchMachines hexecutor hlimit]
    exact reads_readIn executor stage cluster
  overflow := by
    intro executor hexecutor hlimit
    unfold fetchMachines
    rw [hexecutor]
    dsimp only
    rw [Gate.ofLimit?_eq_none_iff.mpr hlimit]
    rfl

end Collector

end ClusterSurvey
