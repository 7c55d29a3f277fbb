import ClusterSurvey.Proofs.Tunables

/-! Tunables written down as a listing. What is read off a text can always be written down again,
and a map that can be written down is read back, whatever the order of its lines
(`roundTrips_readTunables`). -/
namespace ClusterSurvey

open Text

namespace Assignment

variable {name value : String}

/-- A binding that a line can make: its name ends in front of an `=`, nothing of it is trimmed away,
and it does not break the line. -/
structure OnLine (name value : String) : Prop where
  name_ne : name ≠ ""
  name_trimmed : trim name.toList = name.toList
  name_ends : '=' ∉ name.toList
  name_whole : '\n' ∉ name.toList
  value_trimmed : trim value.toList = value.toList
  value_whole : '\n' ∉ value.toList

theorem Binds.onLine {segment : List Char} (h : Binds segment name value)
    (hline : '\n' ∉ segment) : OnLine name value := by
  obtain ⟨left, right, rfl, hleft, hname, hk, hv⟩ := h
  simp only [List.mem_append, List.mem_cons, not_or] at hline
  refine {
    name_ne := ?_
    name_trimmed := ?_
    name_ends := ?_
    name_whole := ?_
    value_trimmed := ?_
    value_whole := ?_ }
  · rintro rfl
    exact hname hk
  · rw [← hk, trim_trim]
  · rw [← hk]
    exact fun hmem => hleft ((isInfix_trim left).subset hmem)
  · rw [← hk]
    exact fun hmem => hline.1 ((isInfix_trim left).subset hmem)
  · rw [← hv, trim_trim]
  · rw [← hv]
    exact fun hmem => hline.2.2 ((isInfix_trim right).subset hmem)

theorem OnLine.binds (h : OnLine name value) :
    Binds (name ++ " = " ++ value).toList name value := by
  have hblank : ∀ c ∈ [' '], isBlank c := by simp [isBlank]
  have hleft : trim (name.toList ++ [' ']) = name.toList := by
    rw [trim_append hblank, h.name_trimmed]
  have hright : trim (' ' :: value.toList) = value.toList :=
    calc trim (' ' :: value.toList) = trim value.toList := rfl
      _ = value.toList := h.value_trimmed
  refine ⟨name.toList ++ [' '], ' ' :: value.toList, by simp, by simp [h.name_ends], ?_, hleft,
    hright⟩
  rw [hleft]
  simpa using h.name_ne

theorem Binds.bindings_eq {segment : List Char} (h : Binds segment name value)
    (hline : '\n' ∉ segment) : bindings segment = [(name, value)] := by
  unfold bindings
  rw [List.splitOn_eq_singleton hline, List.filterMap_cons_some (ofLine?_eq_some_iff.mpr h),
    List.filterMap_nil]

theorem bindings_concat_newline (text : List Char) : bindings (text ++ ['\n']) = bindings text := by
  rw [bindings_append_cons]
  exact List.append_nil _

theorem bindings_tunablesText {bs : List (String × String)} (h : ∀ b ∈ bs, OnLine b.1 b.2) :
    bindings (tunablesText bs).toList = bs := by
  induction bs with
  | nil => rfl
  | cons b rest ih =>
    obtain ⟨hb, hrest⟩ := List.forall_mem_cons.mp h
    have htext : (tunablesText (b :: rest)).toList =
        (b.1 ++ " = " ++ b.2).toList ++ '\n' :: (tunablesText rest).toList := by
      simp [tunablesText, String.toList_join]
    have hline : '\n' ∉ (b.1 ++ " = " ++ b.2).toList := by
      simp [hb.name_whole, hb.value_whole]
    rw [htext, bindings_append_cons, hb.binds.bindings_eq hline, ih hrest, List.singleton_append]

end Assignment

open Assignment

def Dict.Listable (d : Dict String) : Prop := ∀ b ∈ d.entries, OnLine b.1 b.2

/-- A text with a line for each binding. The last line may do without its line feed. -/
def Lists (bindings : List (String × String)) (text : String) : Prop :=
  text = tunablesText bindings ∨ text ++ "\n" = tunablesText bindings

theorem listable_readTunables (text : String) : (readTunables text).Listable := by
  intro b hb
  rw [readTunables_eq, ← Dict.get?_eq_some_iff, Dict.get?_ofList_eq_some_iff_last] at hb
  obtain ⟨front, back, hsplit, _⟩ := hb
  have hmem : b ∈ bindings text.toList := by simp [hsplit]
  obtain ⟨segment, hsegment, hbinds⟩ := List.mem_filterMap.mp hmem
  rw [← pieces_eq_splitOn] at hsegment
  exact (ofLine?_eq_some_iff.mp hbinds).onLine (notMem_of_mem_pieces hsegment)

theorem readTunables_of_lists {bs : List (String × String)} {text : String}
    (h : ∀ b ∈ bs, OnLine b.1 b.2) (hlists : Lists bs text) :
    readTunables text = Dict.ofList bs := by
  have hbindings : bindings text.toList = bindings (tunablesText bs).toList := by
    rcases hlists with rfl | hended
    · rfl
    · rw [← hended, String.toList_append]
      exact (bindings_concat_newline _).symm
  rw [readTunables_eq, hbindings, bindings_tunablesText h]

theorem Dict.Listable.readTunables_eq {d : Dict String} {bs : List (String × String)}
    {text : String} (h : d.Listable) (hperm : bs.Perm d.entries) (hlists : Lists bs text) :
    readTunables text = d := by
  have honLine : ∀ b ∈ bs, OnLine b.1 b.2 := fun b hb =>
    h b (hperm.mem_iff.mp hb)
  rw [readTunables_of_lists honLine hlists, Dict.ofList_eq_of_perm hperm]

/-- Reading that undoes the writing of listings. -/
structure RoundTrips (read : String → Dict String) : Prop where
  read_eq : ∀ d bindings text, d.Listable → bindings.Perm d.entries → Lists bindings text →
    read text = d
  listable : ∀ text, (read text).Listable
  reread_eq : ∀ text bindings again, bindings.Perm (read text).entries → Lists bindings again →
    read again = read text

/-- The maps that are read off listings are those that can be listed. -/
theorem roundTrips_readTunables : RoundTrips readTunables where
  read_eq _ _ _ := Dict.Listable.readTunables_eq
  listable := listable_readTunables
  reread_eq text _ _ := (listable_readTunables text).readTunables_eq

example : (readTunables (tunablesText [("b", "=\r ="), ("a", "")])).entries =
    [("a", ""), ("b", "=\r =")] := by
  decide

end ClusterSurvey
