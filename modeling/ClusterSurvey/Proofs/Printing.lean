import ClusterSurvey.Program.Run
import ClusterSurvey.Proofs.Disclosure

/-! Runs of the program over two networks. Where the clusters at the other end differ only in what
their secrets hold, a run ends in the same way and prints the same (`Surroundings.run_eq`). -/
namespace ClusterSurvey

theorem Snapshot.rendered_eq_of_shown_eq {s s' : Snapshot} (h : s.shown = s'.shown)
    (htime : s.syncedAt = s'.syncedAt) (format : OutputFormat) :
    s.rendered format = s'.rendered format := by
  have hdated : s.dated s.syncedAt = s := rfl
  have hdated' : s'.dated s.syncedAt = s' := by rw [htime]; rfl
  cases format with
  | summary =>
    have hsummary := ofSnapshot_dated_of_shown_eq h s.syncedAt
    rw [hdated, hdated'] at hsummary
    exact congrArg Summary.toJson hsummary
  | json =>
    have hjson := toJson_dated_of_shown_eq h s.syncedAt
    rwa [hdated, hdated'] at hjson

structure Connection.AlikeButPayloads (c c' : Connection) : Prop where
  check_eq : c.check = c'.check
  cluster : c.cluster.AlikeButPayloads c'.cluster

theorem Surveyor.afterOnly_eq (s : Surveyor) (call : SurveyorCall) (w : Cluster) :
    s.afterOnly call w =
      match (Episode.mk ⟨call, w⟩ s).failure? with
      | none => .ok (Episode.mk ⟨call, w⟩ s).next
      | some abort => .error (.survey abort) := by
  unfold afterOnly Episode.failure? Episode.next Episode.seen
  generalize ((s.after call).on w).value = value
  obtain ⟨next, failure?⟩ := value
  cases failure? <;> rfl

theorem Episode.EndAlike.afterOnly {e e' : Episode} (h : e.EndAlike e') :
    (∃ abort, e.before.afterOnly e.call e.cluster = .error abort ∧
      e'.before.afterOnly e'.call e'.cluster = .error abort) ∨
    (e.failure? = none ∧ e'.failure? = none ∧
      e.before.afterOnly e.call e.cluster = .ok e.next ∧
        e'.before.afterOnly e'.call e'.cluster = .ok e'.next) := by
  rw [Surveyor.afterOnly_eq, Surveyor.afterOnly_eq]
  cases hfailure : e.failure? with
  | some abort =>
    have hfailure' : e'.failure? = some abort := h.failure?_eq.symm.trans hfailure
    exact .inl ⟨.survey abort, rfl, by rw [hfailure']⟩
  | none =>
    have hfailure' : e'.failure? = none := h.failure?_eq.symm.trans hfailure
    exact .inr ⟨rfl, hfailure', rfl, by rw [hfailure']⟩

theorem SurveyConfig.surveyOnce_rendered {w w' : Cluster} (h : w.AlikeButPayloads w')
    (config : SurveyConfig) (now : Timestamp) (format : OutputFormat) :
    (config.surveyOnce w now).map (·.rendered format) =
      (config.surveyOnce w' now).map (·.rendered format) := by
  have hinit := Surveyor.endAlike_init (Surveyor.showsAlike_refl (.new config .builtin)) h
  have hsync := Surveyor.endAlike_sync hinit.next
    (Surveyor.Consistent.next (e := ⟨⟨.init, w⟩, _⟩) Surveyor.consistent_new) h now now
  unfold surveyOnce
  obtain ⟨abort, hx, hx'⟩ | ⟨_, _, hx, hx'⟩ := hinit.afterOnly
  · rw [hx, hx']
    rfl
  · rw [hx, hx']
    dsimp only [bind, Except.bind]
    obtain ⟨abort, hy, hy'⟩ | ⟨hok, hok', hy, hy'⟩ := hsync.afterOnly
    · rw [hy, hy']
    · obtain ⟨shot, hshot, htime, _⟩ := Episode.exists_keepsSecretsOf rfl hok
      obtain ⟨shot', hshot', htime', _⟩ := Episode.exists_keepsSecretsOf rfl hok'
      have hshown := hsync.next.shown
      rw [hshot, hshot'] at hshown
      rw [hy, hy']
      dsimp only
      rw [hshot, hshot']
      exact congrArg Except.ok (Snapshot.rendered_eq_of_shown_eq (Option.some.inj hshown)
        (htime.trans htime'.symm) format)

namespace Surroundings

variable {s : Surroundings} {network : Target → Connection}

theorem connect_alike (h : ∀ target, (s.network target).AlikeButPayloads (network target))
    (o : Options) :
    (∃ e, s.connect o = .error e ∧ ({ s with network } : Surroundings).connect o = .error e) ∨
      ∃ c c', s.connect o = .ok c ∧ ({ s with network } : Surroundings).connect o = .ok c' ∧
        c.AlikeButPayloads c' := by
  unfold connect Target.connect
  dsimp only [bind, Except.bind]
  cases Target.choose s.file s.kubeconfig o.context with
  | error e => exact .inl ⟨_, rfl, rfl⟩
  | ok target =>
    dsimp only
    rw [← (h target).check_eq]
    cases (s.network target).check with
    | error fault => exact .inl ⟨_, rfl, rfl⟩
    | ok _ => exact .inr ⟨_, _, rfl, rfl, h target⟩

theorem output_eq (h : ∀ target, (s.network target).AlikeButPayloads (network target))
    (o : Options) : s.output o = ({ s with network } : Surroundings).output o := by
  unfold output
  have hconfig : ({ s with network } : Surroundings).config o = s.config o := rfl
  rw [hconfig]
  cases s.config o with
  | error e => rfl
  | ok config =>
    dsimp only [bind, Except.bind]
    obtain ⟨e, hx, hx'⟩ | ⟨c, c', hx, hx', hc⟩ := connect_alike h o
    · rw [hx, hx']
    · rw [hx, hx']
      exact config.surveyOnce_rendered hc.cluster s.now o.output

/-- What secrets hold does not change how the program ends or what it prints. -/
theorem run_eq (h : ∀ target, (s.network target).AlikeButPayloads (network target))
    (args : List String) : s.run args = ({ s with network } : Surroundings).run args := by
  unfold run
  cases Options.ofArguments args with
  | error e => rfl
  | ok o =>
    dsimp only
    rw [output_eq h o]

end Surroundings

end ClusterSurvey
