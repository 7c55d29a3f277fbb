import ClusterSurvey.Proofs.Policies
import Mathlib.Logic.Relation

/-! The component stage with all dispatchers at work at the same time. Each has a task of its own;
the tasks share the map of what was found, and failures are taken in as the tasks come to their end.
Whichever task is let on next, the stage comes to what it comes to when one dispatcher is consulted
after the other. -/
namespace ClusterSurvey

/-- What a task does in one go. -/
inductive Moment where
  | begins
  | leaves (event : Event)
  /-- The dispatcher comes to its result; what it found is put under its name. -/
  | returns (result : Except SurveyError (List Component))
  /-- The result is taken in; a failure goes behind those that came before. -/
  | arrives (result : Except SurveyError (List Component))

namespace Moment

def store (name : String) (found : Dict (List Component)) : Moment → Dict (List Component)
  | returns (.ok instances) => found.insert name instances
  | _ => found

def collect (name : String) (failures : List (String × SurveyError)) :
    Moment → List (String × SurveyError)
  | arrives (.error e) => failures ++ [(name, e)]
  | _ => failures

def returned? : Moment → Option (Except SurveyError (List Component))
  | returns result => some result
  | _ => none

def arrived? : Moment → Option (Except SurveyError (List Component))
  | arrives result => some result
  | _ => none

end Moment

def Dispatcher.course (d : Dispatcher) (cluster : Cluster) : List Moment :=
  .begins :: (d.find.on cluster).events.map .leaves ++
    [.returns (d.find.on cluster).value, .arrives (d.find.on cluster).value]

theorem Dispatcher.filterMap_course (d : Dispatcher) (cluster : Cluster)
    (result? : Moment → Option (Except SurveyError (List Component)))
    (hbegins : result? .begins = none) (hleaves : ∀ event, result? (.leaves event) = none) :
    (d.course cluster).filterMap result? =
      [.returns (d.find.on cluster).value, .arrives (d.find.on cluster).value].filterMap
        result? := by
  have hevents : ((d.find.on cluster).events.map Moment.leaves).filterMap result? = [] := by
    rw [List.filterMap_map, List.filterMap_eq_nil_iff]
    exact fun event _ => hleaves event
  unfold course
  rw [List.cons_append, List.filterMap_cons_none hbegins, List.filterMap_append, hevents,
    List.nil_append]

structure Task where
  name : String
  rest : List Moment

def Task.moments (task : Task) : List (String × Moment) := task.rest.map fun m => (task.name, m)

structure Gathering where
  tasks : List Task
  found : Dict (List Component)
  failures : List (String × SurveyError)
  log : List (String × Moment)

namespace Gathering

def start (dispatchers : List Dispatcher) (cluster : Cluster) : Gathering where
  tasks := dispatchers.map fun d => ⟨d.component, d.course cluster⟩
  found := ∅
  failures := []
  log := []

def record (g : Gathering) (tasks : List Task) (name : String) (moment : Moment) : Gathering where
  tasks
  found := moment.store name g.found
  failures := moment.collect name g.failures
  log := g.log ++ [(name, moment)]

@[simp] theorem tasks_record (g : Gathering) (tasks : List Task) (name : String)
    (moment : Moment) : (g.record tasks name moment).tasks = tasks := rfl

@[simp] theorem log_record (g : Gathering) (tasks : List Task) (name : String)
    (moment : Moment) : (g.record tasks name moment).log = g.log ++ [(name, moment)] := rfl

/-- Any task that is not done may do what it has to do next. -/
inductive Step (g : Gathering) : Gathering → Prop where
  | advance (front back : List Task) (name : String) (moment : Moment) (rest : List Moment)
      (tasks_eq : g.tasks = front ++ ⟨name, moment :: rest⟩ :: back) :
      Step g (g.record (front ++ ⟨name, rest⟩ :: back) name moment)

def Reaches : Gathering → Gathering → Prop := Relation.ReflTransGen Step

def Finished (g : Gathering) : Prop := ∀ task ∈ g.tasks, task.rest = []

def conclude (g : Gathering) (tolerate : Bool) (inventory : Inventory) :
    Except SurveyError ComponentStage :=
  let failures := g.failures.mergeSort fun a b => a.1 ≤ b.1
  if !failures.isEmpty && !tolerate then .error (.components failures)
  else
    .ok {
      inventory
      components := failures.foldl (fun d f => d.insert f.1 []) g.found
      componentErrors := .ofList (failures.map fun f => (f.1, f.2.message)) }

def doneBy (name : String) (log : List (String × Moment)) : List Moment :=
  log.filterMap fun x => if x.1 = name then some x.2 else none

def results (result? : Moment → Option (Except SurveyError (List Component)))
    (log : List (String × Moment)) : List (String × Except SurveyError (List Component)) :=
  log.filterMap fun x => (result? x.2).map fun result => (x.1, result)

def failed (results : List (String × Except SurveyError (List Component))) :
    List (String × SurveyError) :=
  results.filterMap fun r =>
    match r.2 with
    | .ok _ => none
    | .error e => some (r.1, e)

def inTurn (dispatchers : List Dispatcher) (cluster : Cluster) : List (String × Moment) :=
  dispatchers.flatMap fun d => (d.course cluster).map fun m => (d.component, m)

section Log

variable (log : List (String × Moment)) (name : String) (moment : Moment)

theorem doneBy_concat (other : String) :
    doneBy other (log ++ [(name, moment)]) =
      doneBy other log ++ if name = other then [moment] else [] := by
  unfold doneBy
  rw [List.filterMap_append]
  by_cases h : name = other <;> simp [h]

theorem results_concat (result? : Moment → Option (Except SurveyError (List Component))) :
    results result? (log ++ [(name, moment)]) =
      results result? log ++ ((result? moment).map fun result => (name, result)).toList := by
  unfold results
  rw [List.filterMap_append]
  cases h : result? moment <;> simp [h]

theorem successesAmong_results_concat :
    Collector.successesAmong (results Moment.returned? (log ++ [(name, moment)])) =
      moment.store name (Collector.successesAmong (results Moment.returned? log)) := by
  rw [results_concat]
  unfold Moment.store Collector.successesAmong Dict.ofList
  rw [List.filterMap_append, List.foldl_append]
  cases moment with
  | returns result => cases result <;> rfl
  | begins => rfl
  | leaves event => rfl
  | arrives result => rfl

theorem failed_results_concat :
    failed (results Moment.arrived? (log ++ [(name, moment)])) =
      moment.collect name (failed (results Moment.arrived? log)) := by
  rw [results_concat]
  unfold Moment.collect failed
  rw [List.filterMap_append]
  cases moment with
  | arrives result =>
    cases result with
    | ok found => exact List.append_nil _
    | error e => rfl
  | begins => exact List.append_nil _
  | leaves event => exact List.append_nil _
  | returns result => exact List.append_nil _

end Log

/-- What is true of a gathering however far it has got: each task has done the front of its course
and has the rest before it, and what is found and the failures are those of the log. -/
structure Follows (dispatchers : List Dispatcher) (cluster : Cluster) (g : Gathering) : Prop where
  names_eq : g.tasks.map (·.name) = dispatchers.map (·.component)
  course_eq : ∀ d ∈ dispatchers, ∀ rest, ⟨d.component, rest⟩ ∈ g.tasks →
    doneBy d.component g.log ++ rest = d.course cluster
  perm : (g.log ++ g.tasks.flatMap Task.moments).Perm (inTurn dispatchers cluster)
  found_eq : g.found = Collector.successesAmong (results Moment.returned? g.log)
  failures_eq : g.failures = failed (results Moment.arrived? g.log)

variable {dispatchers : List Dispatcher} {cluster : Cluster} {g : Gathering}

theorem follows_start (hn : (dispatchers.map (·.component)).Nodup) :
    (start dispatchers cluster).Follows dispatchers cluster where
  names_eq := by
    unfold start
    rw [List.map_map]
    rfl
  course_eq := by
    intro d hd rest hrest
    obtain ⟨d', hd', heq⟩ := List.mem_map.mp hrest
    obtain ⟨hname, rfl⟩ := Task.mk.inj heq
    rw [List.inj_on_of_nodup_map hn hd' hd hname]
    rfl
  perm := by
    unfold start inTurn
    rw [List.nil_append, List.flatMap_map]
    exact List.Perm.refl _
  found_eq := rfl
  failures_eq := rfl

section Advance

variable {front back : List Task} {name : String} {moment : Moment} {rest : List Moment}

theorem exists_doneBy_append_eq (tasks_eq : g.tasks = front ++ ⟨name, moment :: rest⟩ :: back)
    (hnodup : ((front ++ (⟨name, rest⟩ : Task) :: back).map (·.name)).Nodup) {other : String}
    {left : List Moment} (hleft : ⟨other, left⟩ ∈ front ++ (⟨name, rest⟩ : Task) :: back) :
    ∃ before, ⟨other, before⟩ ∈ g.tasks ∧
      doneBy other (g.log ++ [(name, moment)]) ++ left = doneBy other g.log ++ before := by
  rw [doneBy_concat, tasks_eq]
  by_cases hname : name = other
  · -- Names tell tasks apart, so this is what the task that was let on has left.
    have heq : (⟨other, left⟩ : Task) = ⟨name, rest⟩ :=
      List.inj_on_of_nodup_map hnodup hleft (by simp) hname.symm
    obtain ⟨_, rfl⟩ := Task.mk.inj heq
    refine ⟨moment :: left, by simp [hname], ?_⟩
    rw [if_pos hname, List.append_assoc]
    rfl
  · have hother : (⟨other, left⟩ : Task) ≠ ⟨name, rest⟩ :=
      fun heq => hname (Task.mk.inj heq).1.symm
    refine ⟨left, ?_, by rw [if_neg hname, List.append_nil]⟩
    rw [List.mem_append, List.mem_cons] at hleft ⊢
    tauto

theorem perm_advance (tasks_eq : g.tasks = front ++ ⟨name, moment :: rest⟩ :: back) :
    (g.log ++ [(name, moment)] ++ (front ++ ⟨name, rest⟩ :: back).flatMap Task.moments).Perm
      (g.log ++ g.tasks.flatMap Task.moments) := by
  rw [tasks_eq, List.append_assoc, List.singleton_append, List.flatMap_append,
    List.flatMap_append, List.flatMap_cons, List.flatMap_cons]
  exact List.Perm.append_left _ List.perm_middle.symm

end Advance

theorem Follows.step {g' : Gathering} (hn : (dispatchers.map (·.component)).Nodup)
    (h : g.Follows dispatchers cluster) (hstep : g.Step g') : g'.Follows dispatchers cluster := by
  cases hstep with
  | advance front back name moment rest tasks_eq =>
    have hnames : (front ++ (⟨name, rest⟩ : Task) :: back).map (·.name) =
        dispatchers.map (·.component) := by
      rw [← h.names_eq, tasks_eq, List.map_append, List.map_append, List.map_cons, List.map_cons]
    refine {
      names_eq := hnames
      course_eq := ?_
      perm := (perm_advance tasks_eq).trans h.perm
      found_eq := ?_
      failures_eq := ?_ }
    · intro d hd left hleft
      obtain ⟨before, hbefore, heq⟩ :=
        exists_doneBy_append_eq tasks_eq (by rw [hnames]; exact hn) hleft
      rw [log_record, heq]
      exact h.course_eq d hd before hbefore
    · rw [log_record, successesAmong_results_concat, ← h.found_eq]
      rfl
    · rw [log_record, failed_results_concat, ← h.failures_eq]
      rfl

theorem Follows.of_reaches {g' : Gathering} (hn : (dispatchers.map (·.component)).Nodup)
    (h : g.Follows dispatchers cluster) (hreach : g.Reaches g') :
    g'.Follows dispatchers cluster := by
  induction hreach with
  | refl => exact h
  | tail _ hstep ih => exact ih.step hn hstep

/-! A gathering in which no task has anything left to do. -/

theorem results_course {result? : Moment → Option (Except SurveyError (List Component))}
    {d : Dispatcher} (h : (d.course cluster).filterMap result? = [(d.find.on cluster).value]) :
    results result? ((d.course cluster).map fun m => (d.component, m)) =
      [(d.component, (d.find.on cluster).value)] := by
  unfold results
  rw [List.filterMap_map]
  have hmap := congrArg (List.map fun result => (d.component, result)) h
  rwa [List.map_filterMap] at hmap

theorem results_inTurn {result? : Moment → Option (Except SurveyError (List Component))}
    (h : ∀ d : Dispatcher, (d.course cluster).filterMap result? = [(d.find.on cluster).value])
    (dispatchers : List Dispatcher) :
    results result? (inTurn dispatchers cluster) =
      dispatchers.map fun d => (d.component, (d.find.on cluster).value) := by
  induction dispatchers with
  | nil => rfl
  | cons d rest ih =>
    have hcons : inTurn (d :: rest) cluster =
        (d.course cluster).map (fun m => (d.component, m)) ++ inTurn rest cluster := rfl
    have happend : ∀ l m, results result? (l ++ m) = results result? l ++ results result? m :=
      fun _ _ => List.filterMap_append
    rw [hcons, happend, ih, results_course (h d)]
    rfl

theorem Follows.log_perm (h : g.Follows dispatchers cluster) (hfinished : g.Finished) :
    g.log.Perm (inTurn dispatchers cluster) := by
  have hnone : g.tasks.flatMap Task.moments = [] := by
    apply List.flatMap_eq_nil_iff.mpr
    intro task htask
    unfold Task.moments
    rw [hfinished task htask, List.map_nil]
  have hperm := h.perm
  rwa [hnone, List.append_nil] at hperm

theorem Follows.doneBy_eq (h : g.Follows dispatchers cluster) (hfinished : g.Finished)
    {d : Dispatcher} (hd : d ∈ dispatchers) : doneBy d.component g.log = d.course cluster := by
  have hname : d.component ∈ g.tasks.map (·.name) := by
    rw [h.names_eq]
    exact List.mem_map_of_mem hd
  obtain ⟨⟨name, rest⟩, htask, rfl⟩ := List.mem_map.mp hname
  have hcourse := h.course_eq d hd rest htask
  have hdone : rest = [] := hfinished _ htask
  rwa [hdone, List.append_nil] at hcourse

theorem Follows.results_perm (h : g.Follows dispatchers cluster) (hfinished : g.Finished)
    {result? : Moment → Option (Except SurveyError (List Component))}
    (hcourse : ∀ d : Dispatcher,
      (d.course cluster).filterMap result? = [(d.find.on cluster).value]) :
    (dispatchers.map fun d => (d.component, (d.find.on cluster).value)).Perm
      (results result? g.log) := by
  rw [← results_inTurn hcourse]
  exact (h.log_perm hfinished).symm.filterMap _

theorem Follows.conclude_eq (hn : (dispatchers.map (·.component)).Nodup)
    (h : g.Follows dispatchers cluster) (hfinished : g.Finished) (tolerate : Bool)
    (inventory : Inventory) :
    g.conclude tolerate inventory = Collector.mergeResults tolerate inventory
      (dispatchers.map fun d => (d.component, (d.find.on cluster).value)) := by
  have hnames : ((dispatchers.map fun d =>
      (d.component, (d.find.on cluster).value)).map (·.1)).Nodup := by
    rw [List.map_map]
    exact hn
  have hfailures := Collector.failuresAmong_perm hnames
    (h.results_perm hfinished fun d =>
      d.filterMap_course cluster Moment.arrived? rfl fun _ => rfl)
  have hsuccesses := Collector.successesAmong_perm hnames
    (h.results_perm hfinished fun d =>
      d.filterMap_course cluster Moment.returned? rfl fun _ => rfl)
  unfold Collector.mergeResults
  rw [hfailures, hsuccesses, ← h.found_eq]
  unfold conclude
  rw [h.failures_eq]
  rfl

/-! Any task can be let on until it is done, so no gathering gets stuck, and the tasks may come to
their end in any order. -/

theorem exists_reaches_done {front back : List Task} {name : String} {rest : List Moment}
    (htasks : g.tasks = front ++ ⟨name, rest⟩ :: back) :
    ∃ g', g.Reaches g' ∧ g'.tasks = front ++ ⟨name, []⟩ :: back ∧
      g'.log = g.log ++ rest.map fun m => (name, m) := by
  induction rest generalizing g with
  | nil => exact ⟨g, .refl, htasks, by simp⟩
  | cons moment rest ih =>
    have hstep : g.Step (g.record (front ++ ⟨name, rest⟩ :: back) name moment) :=
      .advance front back name moment rest htasks
    obtain ⟨g', hreach, htasks', hlog⟩ := ih (tasks_record g _ name moment)
    refine ⟨g', hreach.head hstep, htasks', ?_⟩
    rw [hlog, log_record, List.append_assoc]
    rfl

theorem exists_reaches_finished {front back : List Task} (htasks : g.tasks = front ++ back)
    (hfront : ∀ task ∈ front, task.rest = []) : ∃ g', g.Reaches g' ∧ g'.Finished := by
  induction back generalizing front g with
  | nil =>
    refine ⟨g, .refl, ?_⟩
    rw [Finished, htasks, List.append_nil]
    exact hfront
  | cons task back ih =>
    obtain ⟨g₁, hreach, htasks₁, _⟩ := exists_reaches_done htasks
    have hfront₁ : ∀ other ∈ front ++ [⟨task.name, []⟩], other.rest = [] := by
      intro other hother
      rcases List.mem_append.mp hother with hother | hother
      · exact hfront other hother
      · rw [List.mem_singleton.mp hother]
    have hsplit : g₁.tasks = (front ++ [⟨task.name, []⟩]) ++ back := by
      rw [htasks₁, List.append_assoc]
      rfl
    obtain ⟨g', hreach', hfinished⟩ := ih hsplit hfront₁
    exact ⟨g', hreach.trans hreach', hfinished⟩

theorem exists_reaches_inTurn {order : List Dispatcher}
    (horder : (order.map (·.component)).Nodup) (hnames : (g.tasks.map (·.name)).Nodup)
    (hwaiting : ∀ d ∈ order, ⟨d.component, d.course cluster⟩ ∈ g.tasks)
    (hothers : ∀ task ∈ g.tasks, task.rest = [] ∨ task.name ∈ order.map (·.component)) :
    ∃ g', g.Reaches g' ∧ g'.Finished ∧ g'.log = g.log ++ inTurn order cluster := by
  induction order generalizing g with
  | nil =>
    refine ⟨g, .refl, ?_, by simp [inTurn]⟩
    intro task htask
    rcases hothers task htask with hdone | hname
    · exact hdone
    · cases hname
  | cons d order ih =>
    obtain ⟨hfresh, horder⟩ := List.nodup_cons.mp horder
    obtain ⟨hd, hwaiting⟩ := List.forall_mem_cons.mp hwaiting
    obtain ⟨front, back, htasks⟩ := List.append_of_mem hd
    obtain ⟨g₁, hreach, htasks₁, hlog⟩ := exists_reaches_done htasks
    -- The tasks of all other dispatchers are as they were.
    have hkept : ∀ task : Task, task.name ≠ d.component → (task ∈ g₁.tasks ↔ task ∈ g.tasks) := by
      intro task hne
      have hother : ∀ rest, task ≠ ⟨d.component, rest⟩ := by
        rintro rest rfl
        exact hne rfl
      simp [htasks, htasks₁, hother]
    have hnames₁ : (g₁.tasks.map (·.name)).Nodup := by
      have hsame : g₁.tasks.map (·.name) = g.tasks.map (·.name) := by simp [htasks, htasks₁]
      rw [hsame]
      exact hnames
    have hwaiting₁ : ∀ d' ∈ order, ⟨d'.component, d'.course cluster⟩ ∈ g₁.tasks := by
      intro d' hd'
      have hne : d'.component ≠ d.component :=
        fun heq => hfresh (List.mem_map.mpr ⟨d', hd', heq⟩)
      exact (hkept _ hne).mpr (hwaiting d' hd')
    have hothers₁ : ∀ task ∈ g₁.tasks, task.rest = [] ∨ task.name ∈ order.map (·.component) := by
      intro task htask
      by_cases hname : task.name = d.component
      · left
        have heq : task = ⟨d.component, []⟩ :=
          List.inj_on_of_nodup_map hnames₁ htask (by simp [htasks₁]) hname
        rw [heq]
      · have hmem := hothers task ((hkept task hname).mp htask)
        simpa [hname] using hmem
    obtain ⟨g', hreach', hfinished, hlog'⟩ := ih horder hnames₁ hwaiting₁ hothers₁
    refine ⟨g', hreach.trans hreach', hfinished, ?_⟩
    rw [hlog', hlog, List.append_assoc]
    rfl

end Gathering

/-- The stage does not depend on the order in which its dispatchers get on. -/
structure Collector.OrderIndependent (c : Collector) (inventory : Inventory) (cluster : Cluster) :
    Prop where
  conclude_eq : ∀ g, (Gathering.start c.dispatchers cluster).Reaches g → g.Finished →
    g.conclude c.tolerateFailures inventory = ((c.fetchComponents inventory).on cluster).value
  /-- Every dispatcher is consulted once and to its end, whatever becomes of the others. -/
  doneBy_eq : ∀ g, (Gathering.start c.dispatchers cluster).Reaches g → g.Finished →
    ∀ d ∈ c.dispatchers, Gathering.doneBy d.component g.log = d.course cluster
  log_perm : ∀ g, (Gathering.start c.dispatchers cluster).Reaches g → g.Finished →
    g.log.Perm (Gathering.inTurn c.dispatchers cluster)
  exists_finished : ∀ g, (Gathering.start c.dispatchers cluster).Reaches g →
    ∃ g', g.Reaches g' ∧ g'.Finished
  exists_order : ∀ order : List Dispatcher, order.Perm c.dispatchers →
    ∃ g, (Gathering.start c.dispatchers cluster).Reaches g ∧ g.Finished ∧
      (Gathering.results Moment.arrived? g.log).map (·.1) = order.map (·.component)
  value_perm : ∀ order : List Dispatcher, order.Perm c.dispatchers →
    (({ c with dispatchers := order }.fetchComponents inventory).on cluster).value =
      ((c.fetchComponents inventory).on cluster).value
  events_eq : ∀ order : List Dispatcher, order.Perm c.dispatchers →
    (({ c with dispatchers := order }.fetchComponents inventory).on cluster).events =
      order.flatMap fun d => (d.find.on cluster).events

/-- With one dispatcher for each component, the component stage comes to the same in any order, and
consults every dispatcher once. -/
theorem Collector.order_independent (c : Collector)
    (hn : (c.dispatchers.map (·.component)).Nodup) (inventory : Inventory) (cluster : Cluster) :
    c.OrderIndependent inventory cluster := by
  have hstart : (Gathering.start c.dispatchers cluster).Follows c.dispatchers cluster :=
    Gathering.follows_start hn
  refine {
    conclude_eq := ?_
    doneBy_eq := fun g hreach hfinished d hd => (hstart.of_reaches hn hreach).doneBy_eq hfinished hd
    log_perm := fun g hreach hfinished => (hstart.of_reaches hn hreach).log_perm hfinished
    exists_finished := fun g _ =>
      Gathering.exists_reaches_finished (List.nil_append g.tasks).symm (by simp)
    exists_order := ?_
    value_perm := ?_
    events_eq := fun order _ => events_fetchComponents _ inventory cluster }
  · intro g hreach hfinished
    rw [(hstart.of_reaches hn hreach).conclude_eq hn hfinished, value_fetchComponents]
    rfl
  · intro order horder
    have hsame : (order.map (·.component)).Nodup := (horder.map _).nodup_iff.mpr hn
    have hnames : ((Gathering.start c.dispatchers cluster).tasks.map (·.name)).Nodup := by
      rw [hstart.names_eq]
      exact hn
    have hwaiting : ∀ d ∈ order, ⟨d.component, d.course cluster⟩ ∈
        (Gathering.start c.dispatchers cluster).tasks :=
      fun d hd => List.mem_map_of_mem (horder.mem_iff.mp hd)
    have hothers : ∀ task ∈ (Gathering.start c.dispatchers cluster).tasks,
        task.rest = [] ∨ task.name ∈ order.map (·.component) := by
      intro task htask
      obtain ⟨d, hd, rfl⟩ := List.mem_map.mp htask
      exact .inr (List.mem_map_of_mem (horder.mem_iff.mpr hd))
    obtain ⟨g, hreach, hfinished, hlog⟩ :=
      Gathering.exists_reaches_inTurn hsame hnames hwaiting hothers
    refine ⟨g, hreach, hfinished, ?_⟩
    have hlog' : g.log = Gathering.inTurn order cluster := hlog
    have hcourse := fun d : Dispatcher =>
      d.filterMap_course cluster Moment.arrived? rfl fun _ => rfl
    rw [hlog', Gathering.results_inTurn hcourse, List.map_map]
    rfl
  · intro order horder
    rw [value_fetchComponents, value_fetchComponents]
    apply mergeResults_perm
    · rw [map_fst_dispatched]
      exact (horder.map _).nodup_iff.mpr hn
    · exact horder.map _

theorem Collector.order_independent_sample :
    (Sample.collector.dispatchers.map (·.component)).Nodup ∧
      Sample.collector.OrderIndependent ∅ Sample.silent :=
  ⟨by decide, order_independent Sample.collector (by decide) ∅ Sample.silent⟩

end ClusterSurvey
