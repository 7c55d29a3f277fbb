import ClusterSurvey.Assignment
import ClusterSurvey.Proofs.Lines
import ClusterSurvey.Proofs.Lookup

/-! What a listing of tunables is read as. The name and the value of a line lose the blanks around
them, so it makes no difference that lines lose a carriage return first, nor that the last one need
not be ended: a listing is read by what stands between its line feeds (`readsListings_readTunables`). -/
namespace ClusterSurvey

open Text

namespace Assignment

/-- A segment of a listing that binds a name to a value. The name ends at the first `=` and the
value is all that follows; the blanks around both are dropped. -/
def Binds (segment : List Char) (name value : String) : Prop :=
  ∃ left right, segment = left ++ '=' :: right ∧ '=' ∉ left ∧ trim left ≠ [] ∧
    trim left = name.toList ∧ trim right = value.toList

theorem ofLine?_append_cons {left : List Char} (h : '=' ∉ left) (right : List Char) :
    ofLine? (left ++ '=' :: right) =
      if (trim left).isEmpty then none
      else some (String.ofList (trim left), String.ofList (trim right)) := by
  have hstart : '=' ∉ trimStart left := fun hmem => h ((List.dropWhile_suffix _).subset hmem)
  unfold ofLine?
  rw [trim_append_cons rfl, splitOnce_eq_some_iff.mpr ⟨rfl, hstart⟩, Option.bind_some]
  simp only [trim_trimStart, trim_trimEnd]

theorem ofLine?_eq_none_of_notMem {line : List Char} (h : '=' ∉ line) : ofLine? line = none := by
  have htrim : '=' ∉ trim line := fun hmem => h ((isInfix_trim line).subset hmem)
  unfold ofLine?
  rw [splitOnce_eq_none_iff.mpr htrim, Option.bind_none]

theorem ofLine?_eq_some_iff {segment : List Char} {name value : String} :
    ofLine? segment = some (name, value) ↔ Binds segment name value := by
  constructor
  · intro h
    by_cases hmem : '=' ∈ segment
    · obtain ⟨left, right, rfl, hleft⟩ := List.eq_append_cons_of_mem hmem
      rw [ofLine?_append_cons hleft] at h
      split at h
      · cases h
      · rename_i hname
        cases h
        exact ⟨left, right, rfl, hleft, by simpa using hname, by simp, by simp⟩
    · rw [ofLine?_eq_none_of_notMem hmem] at h
      cases h
  · rintro ⟨left, right, rfl, hleft, hname, hk, hv⟩
    rw [ofLine?_append_cons hleft, if_neg (by simpa using hname), hk, hv, String.ofList_toList,
      String.ofList_toList]

theorem ofLine?_append_return (line : List Char) : ofLine? (line ++ ['\r']) = ofLine? line := by
  unfold ofLine?
  rw [trim_append (by simp [isBlank])]

theorem ofLine?_dropReturn (line : List Char) : ofLine? (dropReturn line) = ofLine? line := by
  unfold ofLine?
  rw [trim_dropReturn]

def bindings (text : List Char) : List (String × String) :=
  (text.splitOn '\n').filterMap ofLine?

theorem bindings_append_cons (a b : List Char) :
    bindings (a ++ '\n' :: b) = bindings a ++ bindings b := by
  unfold bindings
  rw [List.splitOn_append_cons_self, List.filterMap_append]

theorem bindings_append_return (a : List Char) : bindings (a ++ ['\r']) = bindings a := by
  obtain ⟨front, last, hsplit⟩ := exists_splitOn_append '\n' a
  have hreturn := hsplit ['\r'] (by decide)
  have hself := hsplit [] List.not_mem_nil
  rw [List.append_nil, List.append_nil] at hself
  unfold bindings
  rw [hreturn, hself, List.filterMap_append, List.filterMap_append, List.filterMap_cons,
    List.filterMap_cons, ofLine?_append_return]

theorem bindings_crlf (a b : List Char) :
    bindings (a ++ '\r' :: '\n' :: b) = bindings (a ++ '\n' :: b) := by
  have hsplit : a ++ '\r' :: '\n' :: b = (a ++ ['\r']) ++ '\n' :: b := by simp
  rw [hsplit, bindings_append_cons, bindings_append_cons, bindings_append_return]

def withReturns (text : List Char) : List Char :=
  text.flatMap fun c => if c = '\n' then ['\r', '\n'] else [c]

theorem bindings_append_withReturns (a b : List Char) :
    bindings (a ++ withReturns b) = bindings (a ++ b) := by
  induction b generalizing a with
  | nil => rfl
  | cons c b ih =>
    by_cases hc : c = '\n'
    · subst hc
      have hsplit : a ++ withReturns ('\n' :: b) = a ++ '\r' :: '\n' :: withReturns b := rfl
      have hmove : ∀ rest, a ++ '\n' :: rest = (a ++ ['\n']) ++ rest := by simp
      rw [hsplit, bindings_crlf, hmove, ih, ← hmove]
    · have hsplit : a ++ withReturns (c :: b) = (a ++ [c]) ++ withReturns b := by
        simp [withReturns, hc]
      rw [hsplit, ih, List.append_assoc, List.singleton_append]

def BindsLast (segments : List (List Char)) (name value : String) : Prop :=
  ∃ front segment back, segments = front ++ segment :: back ∧ Binds segment name value ∧
    ∀ later ∈ back, ∀ other, ¬ Binds later name other

theorem bindsLast_iff {text : List Char} {name value : String} :
    BindsLast (text.splitOn '\n') name value ↔
      ∃ front back, bindings text = front ++ (name, value) :: back ∧ ∀ b ∈ back, b.1 ≠ name := by
  constructor
  · rintro ⟨front, segment, back, hsplit, hbinds, hback⟩
    refine ⟨front.filterMap ofLine?, back.filterMap ofLine?, ?_, ?_⟩
    · rw [bindings, hsplit, List.filterMap_append,
        List.filterMap_cons_some (ofLine?_eq_some_iff.mpr hbinds)]
    · rintro ⟨other, v⟩ hb rfl
      obtain ⟨later, hlater, hv⟩ := List.mem_filterMap.mp hb
      exact hback later hlater v (ofLine?_eq_some_iff.mp hv)
  · rintro ⟨front, back, hbindings, hback⟩
    obtain ⟨before, rest, hsplit, _, hrest⟩ := List.filterMap_eq_append_iff.mp hbindings
    obtain ⟨skipped, segment, after, rfl, _, hsegment, rfl⟩ := List.filterMap_eq_cons_iff.mp hrest
    refine ⟨before ++ skipped, segment, after, ?_, ofLine?_eq_some_iff.mp hsegment, ?_⟩
    · rw [hsplit, List.append_assoc]
    · intro later hlater other hbinds
      exact hback (name, other)
        (List.mem_filterMap.mpr ⟨later, hlater, ofLine?_eq_some_iff.mpr hbinds⟩) rfl

end Assignment

open Assignment

theorem readTunables_eq (text : String) :
    readTunables text = Dict.ofList (bindings text.toList) := by
  unfold readTunables bindings
  rw [filterMap_lines rfl ofLine?_dropReturn]

structure ReadsListings (read : String → Dict String) : Prop where
  get?_eq_some_iff : ∀ text name value, (read text).get? name = some value ↔
    BindsLast (text.toList.splitOn '\n') name value
  get?_append : ∀ a b name, (read (a ++ "\n" ++ b)).get? name =
    ((read b).get? name).or ((read a).get? name)
  crlf : ∀ a b, read (a ++ "\r\n" ++ b) = read (a ++ "\n" ++ b)
  withReturns_eq : ∀ text, read (String.ofList (withReturns text.toList)) = read text

/-- A name has the value that the last segment gives that binds it, however lines end. -/
theorem readsListings_readTunables : ReadsListings readTunables where
  get?_eq_some_iff := by
    intro text name value
    rw [readTunables_eq, Dict.get?_ofList_eq_some_iff_last, bindsLast_iff]
  get?_append := by
    intro a b name
    have htext : (a ++ "\n" ++ b).toList = a.toList ++ '\n' :: b.toList := by simp
    rw [readTunables_eq, readTunables_eq, readTunables_eq, htext, bindings_append_cons,
      Dict.get?_ofList_append]
  crlf := by
    intro a b
    have hcrlf : (a ++ "\r\n" ++ b).toList = a.toList ++ '\r' :: '\n' :: b.toList := by simp
    have hlf : (a ++ "\n" ++ b).toList = a.toList ++ '\n' :: b.toList := by simp
    rw [readTunables_eq, readTunables_eq, hcrlf, hlf, bindings_crlf]
  withReturns_eq := by
    intro text
    rw [readTunables_eq, readTunables_eq, String.toList_ofList]
    exact congrArg Dict.ofList (bindings_append_withReturns [] text.toList)

example : (readTunables "a = 1\r\n\tb==\n= 3\nno such key\n a=\t2 \r").entries =
    [("a", "2"), ("b", "=")] := by
  decide

end ClusterSurvey
