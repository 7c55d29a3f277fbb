import ClusterSurvey.Explorer.Bare
import ClusterSurvey.Proofs.Numerals

/-! Arguments seen from two sides. A process prints its arguments one a line, without its name; a
pod lists them with the name in front. Both make the same bindings, as long as no argument breaks
its line and the name binds nothing (`readProbe_probeOutput_of_starts`). -/
namespace ClusterSurvey

open Text

/-- What the probe prints of a process: its number, then each argument after the first. -/
def probeOutput (pid : UInt32) (argv : List String) : String :=
  Nat.repr pid.toNat ++ "\n" ++ String.join (argv.tail.map (· ++ "\n"))

structure Pod.Starts (pod : Pod) (component : String) (command args : Option (List String)) :
    Prop where
  first : ∃ spec before container after,
    pod.spec = some spec ∧ spec.containers = before ++ container :: after ∧
      (∀ c ∈ before, c.name ≠ component) ∧ container.name = component ∧
      container.command = command ∧ container.args = args

section Bindings

variable {argument : List Char}

theorem Assignment.ofArgument?_eq_none (h : '=' ∉ argument) :
    Assignment.ofArgument? argument = none := by
  have hbound : '=' ∉ (trim argument).dropWhile (· = '-') := fun hmem =>
    h ((isInfix_trim argument).subset ((List.dropWhile_suffix _).subset hmem))
  unfold Assignment.ofArgument?
  rw [splitOnce_eq_none_iff.mpr hbound]
  rfl

theorem Assignment.ofArgument?_dropReturn (argument : List Char) :
    Assignment.ofArgument? (dropReturn argument) = Assignment.ofArgument? argument := by
  unfold Assignment.ofArgument?
  rw [trim_dropReturn]

theorem readArguments_eq (arguments : List String) :
    readArguments arguments =
      Dict.ofList ((arguments.map String.toList).filterMap Assignment.ofArgument?) := by
  rw [List.filterMap_map]
  rfl

theorem readArguments_tail {argv : List String} (h : ∀ name ∈ argv.head?, '=' ∉ name.toList) :
    readArguments argv.tail = readArguments argv := by
  cases argv with
  | nil => rfl
  | cons name rest =>
    have hnone := Assignment.ofArgument?_eq_none (h name rfl)
    rw [readArguments_eq, readArguments_eq, List.tail_cons, List.map_cons,
      List.filterMap_cons_none hnone]

theorem readArguments_lines (arguments : List String) :
    readArguments ((arguments.map fun a => dropReturn a.toList).map String.ofList) =
      readArguments arguments := by
  have htexts : ((arguments.map fun a => dropReturn a.toList).map String.ofList).map
      String.toList = (arguments.map String.toList).map dropReturn := by
    simp
  have hread : Assignment.ofArgument? ∘ dropReturn = Assignment.ofArgument? :=
    funext Assignment.ofArgument?_dropReturn
  rw [readArguments_eq, htexts, List.filterMap_map, hread, ← readArguments_eq]

end Bindings

section Probe

variable {component node : String} {argv : List String}

theorem lines_probeOutput (pid : UInt32) (h : ∀ a ∈ argv.tail, '\n' ∉ a.toList) :
    lines (probeOutput pid argv).toList =
      dropReturn (Nat.repr pid.toNat).toList :: argv.tail.map fun a => dropReturn a.toList := by
  have hpid : '\n' ∉ (Nat.repr pid.toNat).toList := fun hmem =>
    absurd ((digits_decimal_repr pid.toNat).digit _ hmem) (by decide)
  have htext : (probeOutput pid argv).toList =
      ((Nat.repr pid.toNat).toList :: argv.tail.map String.toList).flatMap fun l => l ++ ['\n'] := by
    unfold probeOutput
    rw [String.toList_append, String.toList_append, String.toList_join, List.flatMap_cons,
      List.flatMap_map, List.flatMap_map]
    simp only [String.toList_append]
    rfl
  rw [htext, lines_flatMap (List.forall_mem_cons.mpr ⟨hpid, List.forall_mem_map.mpr h⟩),
    List.map_cons, List.map_map]
  rfl

theorem readProbe_probeOutput (pid : UInt32)
    (hname : ∀ name ∈ argv.head?, '=' ∉ name.toList) (hlines : ∀ a ∈ argv, '\n' ∉ a.toList) :
    readProbe component node (probeOutput pid argv) =
      .running component node (readArguments argv) := by
  have hnumber : unsigned UInt32.size (trim (dropReturn (Nat.repr pid.toNat).toList)) =
      some pid.toNat := by
    have hdigits := digits_decimal_repr pid.toNat
    rw [trim_dropReturn, hdigits.trim_eq]
    exact unsigned_eq_some_of_digits hdigits pid.toNat_lt
  have htail : ∀ a ∈ argv.tail, '\n' ∉ a.toList := fun a ha => hlines a (List.mem_of_mem_tail ha)
  unfold readProbe
  rw [lines_probeOutput pid htail]
  simp only [hnumber]
  rw [readArguments_lines, readArguments_tail hname]

end Probe

theorem Pod.argumentsOf_of_starts {pod : Pod} {component : String}
    {command args : Option (List String)} (h : pod.Starts component command args) :
    pod.argumentsOf component = readArguments (command.getD [] ++ args.getD []) := by
  obtain ⟨spec, before, container, after, hspec, hcontainers, hbefore, hname, rfl, rfl⟩ := h
  have hfind : pod.container? component = some container := by
    unfold container?
    rw [hspec]
    refine List.find?_eq_some_iff_append.mpr
      ⟨decide_eq_true hname, before, after, hcontainers, ?_⟩
    simpa using hbefore
  unfold argumentsOf
  rw [hfind]
  rfl

/-- A process that was started by a pod has the arguments that the pod tells. -/
theorem readProbe_probeOutput_of_starts {component node : String} {pod : Pod} {argv : List String}
    {command args : Option (List String)} (pid : UInt32)
    (hname : ∀ name ∈ argv.head?, '=' ∉ name.toList) (hlines : ∀ a ∈ argv, '\n' ∉ a.toList)
    (hsplit : command.getD [] ++ args.getD [] = argv) (hstarts : pod.Starts component command args) :
    readProbe component node (probeOutput pid argv) =
      .running component node (pod.argumentsOf component) := by
  rw [Pod.argumentsOf_of_starts hstarts, hsplit]
  exact readProbe_probeOutput pid hname hlines

def Sample.schedulerPod : Pod :=
  ⟨Metadata.blank,
    (⟨some ⟨some "cp-1", [⟨"sidecar", none, none, none, ∅⟩,
      ⟨"scheduler", some ["scheduler", "--v=2\r"], some ["", "--V = 3=\t"], none, ∅⟩], ∅⟩,
      none⟩ : PodBody)⟩

theorem readProbe_probeOutput_sample :
    Sample.schedulerPod.Starts "scheduler" (some ["scheduler", "--v=2\r"])
        (some ["", "--V = 3=\t"]) ∧
      readProbe "scheduler" "cp-1"
          (probeOutput 4294967295 ["scheduler", "--v=2\r", "", "--V = 3=\t"]) =
        .running "scheduler" "cp-1" (Sample.schedulerPod.argumentsOf "scheduler") ∧
      (Sample.schedulerPod.argumentsOf "scheduler").entries = [("v", "3=")] := by
  have hstarts : Sample.schedulerPod.Starts "scheduler" (some ["scheduler", "--v=2\r"])
      (some ["", "--V = 3=\t"]) :=
    ⟨_, [⟨"sidecar", none, none, none, ∅⟩], _, [], rfl, rfl, by decide, rfl, rfl, rfl⟩
  exact ⟨hstarts, readProbe_probeOutput_of_starts 4294967295 (by decide) (by decide) rfl hstarts,
    by decide⟩

end ClusterSurvey
