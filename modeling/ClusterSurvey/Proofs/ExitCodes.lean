import ClusterSurvey.Api.ExecStream
import ClusterSurvey.Proofs.Downgrade
import ClusterSurvey.Proofs.Lines
import ClusterSurvey.Proofs.Numerals

/-! The way of an exit code. It is read off the status at the end of a stream, shown in the message
of an error, and found in that message again; so a command that ended with a code other than zero
tells that nothing runs on its node (`ExecStatus.codes_travel`). -/
namespace ClusterSurvey

namespace ExecStatus

open Text

variable {s : ExecStatus} {status? : Option ExecStatus} {text : String} {n : Int32}

/-- The text of the first cause that should hold an exit code. -/
def CodeText (s : ExecStatus) (text : String) : Prop :=
  ∃ before cause after, s.causes = some (before ++ cause :: after) ∧
    (∀ c ∈ before, c.reason ≠ some "ExitCode") ∧
    cause.reason = some "ExitCode" ∧ cause.text = some text

/-- A command ended with a code other than zero, and its status tells the code. -/
structure TellsCode (s : ExecStatus) (n : Int32) : Prop where
  reason_eq : s.reason = some "NonZeroExitCode"
  told : ∃ text, s.CodeText text ∧ Numeral (trim text.toList) n.toInt

theorem readCode_eq_some_iff : readCode text = some n ↔ Numeral (trim text.toList) n.toInt := by
  unfold readCode
  rw [Option.map_eq_some_iff]
  constructor
  · rintro ⟨i, hi, rfl⟩
    obtain ⟨hnumeral, hlow, hhigh⟩ := signed_eq_some_iff.mp hi
    rwa [Int32.toInt_ofInt_of_le hlow hhigh]
  · intro h
    exact ⟨n.toInt, signed_eq_some_iff.mpr ⟨h, n.le_toInt, n.toInt_lt⟩, Int32.ofInt_toInt n⟩

theorem codeText_iff :
    s.CodeText text ↔ ∃ causes cause, s.causes = some causes ∧
      causes.find? (fun c => c.reason = some exitCodeCause) = some cause ∧
      cause.text = some text := by
  unfold CodeText exitCodeCause
  constructor
  · rintro ⟨before, cause, after, hcauses, hbefore, hreason, htext⟩
    refine ⟨_, cause, hcauses, List.find?_eq_some_iff_append.mpr ?_, htext⟩
    exact ⟨decide_eq_true hreason, before, after, rfl, by simpa using hbefore⟩
  · rintro ⟨causes, cause, hcauses, hfind, htext⟩
    obtain ⟨hreason, before, after, rfl, hbefore⟩ := List.find?_eq_some_iff_append.mp hfind
    exact ⟨before, cause, after, hcauses, by simpa using hbefore, of_decide_eq_true hreason, htext⟩

theorem exitCode?_eq_some_iff : s.exitCode? = some n ↔ s.TellsCode n := by
  unfold exitCode?
  by_cases hreason : s.reason = some nonZeroExit
  · rw [if_pos hreason]
    simp only [Option.bind_eq_bind, Option.bind_eq_some_iff, readCode_eq_some_iff]
    constructor
    · rintro ⟨causes, hcauses, cause, hfind, text, htext, hnumeral⟩
      exact ⟨hreason, text, codeText_iff.mpr ⟨causes, cause, hcauses, hfind, htext⟩, hnumeral⟩
    · rintro ⟨_, text, hcode, hnumeral⟩
      obtain ⟨causes, cause, hcauses, hfind, htext⟩ := codeText_iff.mp hcode
      exact ⟨causes, hcauses, cause, hfind, text, htext, hnumeral⟩
  · rw [if_neg hreason]
    constructor
    · intro h
      cases h
    · intro h
      exact absurd h.reason_eq hreason

theorem judge_of_succeeded (h : s.status = some "Success") : judge (some s) = .ok () := by
  unfold judge
  exact if_pos h

theorem judge_of_tellsCode (h : s.status ≠ some "Success") (hcode : s.TellsCode n) :
    judge (some s) = .error (.exitCode n) := by
  have hread := exitCode?_eq_some_iff.mpr hcode
  simp only [judge, success, if_neg h, hread]

theorem judge_of_not_tellsCode (h : s.status ≠ some "Success") (hcode : ∀ n, ¬ s.TellsCode n) :
    judge (some s) = .error (.stream (s.text.getD "unknown exec failure")) := by
  have hnone : s.exitCode? = none := by
    cases hread : s.exitCode? with
    | none => rfl
    | some n => exact absurd (exitCode?_eq_some_iff.mp hread) (hcode n)
  simp only [judge, success, if_neg h, hnone]

theorem judge_cases (s : ExecStatus) :
    s.status = some "Success" ∧ judge (some s) = .ok () ∨
      s.status ≠ some "Success" ∧
        ((∃ n, s.TellsCode n ∧ judge (some s) = .error (.exitCode n)) ∨
          (∀ n, ¬ s.TellsCode n) ∧
            judge (some s) = .error (.stream (s.text.getD "unknown exec failure"))) := by
  by_cases hstatus : s.status = some "Success"
  · exact .inl ⟨hstatus, judge_of_succeeded hstatus⟩
  · refine .inr ⟨hstatus, ?_⟩
    by_cases hcode : ∃ n, s.TellsCode n
    · obtain ⟨n, hn⟩ := hcode
      exact .inl ⟨n, hn, judge_of_tellsCode hstatus hn⟩
    · have hnone := not_exists.mp hcode
      exact .inr ⟨hnone, judge_of_not_tellsCode hstatus hnone⟩

theorem judge_eq_ok_iff :
    judge status? = .ok () ↔ ∀ s, status? = some s → s.status = some "Success" := by
  cases status? with
  | none => exact iff_of_true rfl (by simp)
  | some s =>
    simp only [Option.some.injEq, forall_eq']
    constructor
    · intro h
      obtain ⟨hstatus, _⟩ | ⟨_, ⟨n, _, hjudge⟩ | ⟨_, hjudge⟩⟩ := judge_cases s
      · exact hstatus
      · cases hjudge.symm.trans h
      · cases hjudge.symm.trans h
    · exact judge_of_succeeded

theorem judge_eq_exitCode_iff :
    judge status? = .error (.exitCode n) ↔
      ∃ s, status? = some s ∧ s.status ≠ some "Success" ∧ s.TellsCode n := by
  cases status? with
  | none => exact iff_of_false (by simp [judge]) (by simp)
  | some s =>
    constructor
    · intro h
      obtain ⟨_, hjudge⟩ | ⟨hstatus, ⟨m, hcode, hjudge⟩ | ⟨_, hjudge⟩⟩ := judge_cases s
      · cases hjudge.symm.trans h
      · cases hjudge.symm.trans h
        exact ⟨s, rfl, hstatus, hcode⟩
      · cases hjudge.symm.trans h
    · rintro ⟨t, ht, hstatus, hcode⟩
      rw [ht]
      exact judge_of_tellsCode hstatus hcode

theorem tellsCode_of_decimal {before after : List Char} (hreason : s.reason = some "NonZeroExitCode")
    (hbefore : ∀ c ∈ before, isBlank c) (hafter : ∀ c ∈ after, isBlank c)
    (hcode : s.CodeText (String.ofList (before ++ (Json.intText n.toInt).toList ++ after))) :
    s.TellsCode n := by
  refine ⟨hreason, _, hcode, ?_⟩
  have hnumeral := numeral_intText n.toInt
  rwa [String.toList_ofList, trim_append_append hbefore hafter, hnumeral.trim_eq]

end ExecStatus

theorem ExecStream.outcome_of_status {stream : ExecStream} {bytes : List UInt8} {s : ExecStatus}
    {e : CallError} (hheard : (hear stream.frames).status = some bytes)
    (hread : ExecStatus.ofBytes? bytes = some s) (hjudge : ExecStatus.judge (some s) = .error e) :
    stream.outcome = .error e := by
  unfold outcome
  simp only [hheard, hread, hjudge]
  rfl

theorem SurveyError.isExitCode_remote_exitCode (node : String) (n : Int32) :
    (remote node (.exitCode n)).isExitCode = true := by
  rw [isExitCode_iff]
  refine ⟨("remote command on node " ++ node ++ " failed: " ++ "command ").toList,
    (" " ++ Json.intText n.toInt).toList, ?_⟩
  change _ = ("remote command on node " ++ node ++ " failed: " ++
    ("command " ++ exitCodeMarker ++ " " ++ Json.intText n.toInt)).toList
  simp only [String.toList_append, List.append_assoc]

theorem value_probeNode_of_exitCode {executor : NodeExecutor} {cluster : Cluster}
    {component node : String} {n : Int32}
    (h : ((executor node (probeCommand component)).on cluster).value =
      .error (.remote node (.exitCode n))) :
    ((probeNode executor component node).on cluster).value = .ok ⟨component, node, ∅, false⟩ := by
  unfold probeNode
  rw [Survey.value_bind, h]
  exact if_pos (SurveyError.isExitCode_remote_exitCode node n)

namespace ExecStatus

structure CodesTravel (component node : String) : Prop where
  ok_iff : ∀ status?, judge status? = .ok () ↔
    ∀ s, status? = some s → s.status = some "Success"
  exitCode_iff : ∀ status? n, judge status? = .error (.exitCode n) ↔
    ∃ s, status? = some s ∧ s.status ≠ some "Success" ∧ s.TellsCode n
  otherwise : ∀ s : ExecStatus, s.status ≠ some "Success" → (∀ n, ¬ s.TellsCode n) →
    judge (some s) = .error (.stream (s.text.getD "unknown exec failure"))
  decimal : ∀ (s : ExecStatus) (n : Int32) before after, s.status ≠ some "Success" →
    s.reason = some "NonZeroExitCode" →
    (∀ c ∈ before, Text.isBlank c) → (∀ c ∈ after, Text.isBlank c) →
    s.CodeText (String.ofList (before ++ (Json.intText n.toInt).toList ++ after)) →
      judge (some s) = .error (.exitCode n)
  marked : ∀ n, (SurveyError.remote node (.exitCode n)).isExitCode = true
  absent : ∀ (bridge : AgentBridge) cluster pod name n, bridge.Picks cluster node pod name →
    cluster (.exec bridge.ns name (enterHost ++ probeCommand component)) = .error (.exitCode n) →
      ((bridge.execute node (probeCommand component)).on cluster).value =
          .error (.remote node (.exitCode n)) ∧
        ((probeNode bridge.execute component node).on cluster).value =
          .ok ⟨component, node, ∅, false⟩
  travels : ∀ (bridge : AgentBridge) cluster pod name (stream : ExecStream) bytes s n,
    bridge.Picks cluster node pod name →
    cluster (.exec bridge.ns name (enterHost ++ probeCommand component)) = stream.outcome →
    (hear stream.frames).status = some bytes → ofBytes? bytes = some s →
    s.status ≠ some "Success" → s.TellsCode n →
      ((probeNode bridge.execute component node).on cluster).value =
        .ok ⟨component, node, ∅, false⟩

/-- An exit code that a status tells is the exit code of the command, and a node whose probe ends
with one is a node on which nothing runs. -/
theorem codes_travel (component node : String) : CodesTravel component node := by
  have habsent : ∀ (bridge : AgentBridge) cluster pod name n, bridge.Picks cluster node pod name →
      cluster (.exec bridge.ns name (enterHost ++ probeCommand component)) =
        .error (.exitCode n) →
      ((bridge.execute node (probeCommand component)).on cluster).value =
          .error (.remote node (.exitCode n)) ∧
        ((probeNode bridge.execute component node).on cluster).value =
          .ok ⟨component, node, ∅, false⟩ := by
    intro bridge cluster pod name n hpicks hexec
    have hexecute : ((bridge.execute node (probeCommand component)).on cluster).value =
        .error (.remote node (.exitCode n)) := by
      rw [AgentBridge.value_execute_of_picks hpicks, hexec]
      rfl
    exact ⟨hexecute, value_probeNode_of_exitCode hexecute⟩
  refine ⟨fun _ => judge_eq_ok_iff, fun _ _ => judge_eq_exitCode_iff,
    fun _ => judge_of_not_tellsCode, ?_, SurveyError.isExitCode_remote_exitCode node, habsent, ?_⟩
  · intro s n before after hstatus hreason hbefore hafter hcode
    exact judge_of_tellsCode hstatus (tellsCode_of_decimal hreason hbefore hafter hcode)
  · intro bridge cluster pod name stream bytes s n hpicks hexec hheard hread hstatus hcode
    rw [ExecStream.outcome_of_status hheard hread (judge_of_tellsCode hstatus hcode)] at hexec
    exact (habsent bridge cluster pod name n hpicks hexec).2

example :
    judge (some ⟨some "Failure", some "NonZeroExitCode", none,
      some [⟨some "Other", some "7"⟩, ⟨some "ExitCode", some "\t-0127\n"⟩]⟩) =
        .error (.exitCode (-127)) := by
  decide

end ExecStatus

end ClusterSurvey
