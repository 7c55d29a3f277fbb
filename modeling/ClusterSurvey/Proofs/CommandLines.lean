import ClusterSurvey.Proofs.Lookup
import ClusterSurvey.Proofs.LowerCase
import ClusterSurvey.Proofs.ProcessArguments
import Mathlib.Data.Finset.Max

/-! Arguments written down and read. Whatever the dashes and the order, and whatever stands between
them without binding anything, arguments are read as the bindings they were written for
(`readArguments_eq_of_commandLine`). What is read off any arguments is a map of such bindings but for
one thing: dashes go before blanks do, so a name keeps a dash that stands behind blanks
(`namesArguments_readArguments`). -/
namespace ClusterSurvey

open Text

namespace Assignment

variable {name value : String} {argument : List Char}

structure FromArgument (name value : String) : Prop where
  name_ne : name ≠ ""
  name_trimmed : trim name.toList = name.toList
  name_lower : toLower name.toList = name.toList
  name_ends : '=' ∉ name.toList
  value_trimmed : trim value.toList = value.toList

/-- A binding that an argument can make behind any number of dashes. -/
structure AsArgument (name value : String) : Prop extends FromArgument name value where
  dashless : name.toList.head? ≠ some '-'

instance (name value : String) : Decidable (FromArgument name value) :=
  decidable_of_iff
    (name ≠ "" ∧ trim name.toList = name.toList ∧ toLower name.toList = name.toList ∧
      '=' ∉ name.toList ∧ trim value.toList = value.toList)
    ⟨fun h => ⟨h.1, h.2.1, h.2.2.1, h.2.2.2.1, h.2.2.2.2⟩,
      fun h => ⟨h.name_ne, h.name_trimmed, h.name_lower, h.name_ends, h.value_trimmed⟩⟩

instance (name value : String) : Decidable (AsArgument name value) :=
  decidable_of_iff (FromArgument name value ∧ name.toList.head? ≠ some '-')
    ⟨fun h => ⟨h.1, h.2⟩, fun h => ⟨h.toFromArgument, h.dashless⟩⟩

theorem ofArgument?_eq_some_iff :
    ofArgument? argument = some (name, value) ↔
      ∃ left right, (trim argument).dropWhile (· = '-') = left ++ '=' :: right ∧ '=' ∉ left ∧
        trim left ≠ [] ∧ toLower (trim left) = name.toList ∧ trim right = value.toList := by
  unfold ofArgument?
  rw [Option.bind_eq_some_iff]
  constructor
  · rintro ⟨⟨left, right⟩, hsplit, hbinds⟩
    obtain ⟨heq, hleft⟩ := splitOnce_eq_some_iff.mp hsplit
    dsimp only at hbinds
    split at hbinds
    · cases hbinds
    · rename_i hname
      cases hbinds
      refine ⟨left, right, heq, hleft, ?_, by simp, by simp⟩
      intro hnil
      rw [hnil] at hname
      exact hname rfl
  · rintro ⟨left, right, heq, hleft, hname, hk, hv⟩
    refine ⟨(left, right), splitOnce_eq_some_iff.mpr ⟨heq, hleft⟩, ?_⟩
    dsimp only
    rw [if_neg (by simpa using toLower_ne_nil hname), hk, hv, String.ofList_toList,
      String.ofList_toList]

theorem fromArgument_of_ofArgument? (h : ofArgument? argument = some (name, value)) :
    FromArgument name value := by
  obtain ⟨left, right, _, hleft, hname, hk, hv⟩ := ofArgument?_eq_some_iff.mp h
  refine {
    name_ne := ?_
    name_trimmed := ?_
    name_lower := ?_
    name_ends := ?_
    value_trimmed := ?_ }
  · rintro rfl
    exact toLower_ne_nil hname hk
  · rw [← hk]
    exact trim_toLower (trim_trim left)
  · rw [← hk, toLower_toLower]
  · rw [← hk]
    intro hmem
    exact hleft ((isInfix_trim left).subset (mem_of_mem_toLower hmem rfl))
  · rw [← hv, trim_trim]

theorem FromArgument.trim_argumentText (h : FromArgument name value) (dashes : Nat) :
    trim (argumentText dashes (name, value)).toList =
      List.replicate dashes '-' ++ name.toList ++ '=' :: trimEnd value.toList := by
  have htext : (argumentText dashes (name, value)).toList =
      List.replicate dashes '-' ++ name.toList ++ '=' :: value.toList := by
    simp [argumentText]
  have hstart : trimStart (List.replicate dashes '-' ++ name.toList) =
      List.replicate dashes '-' ++ name.toList := by
    apply trimStart_eq_self_iff.mpr
    intro c hc
    cases dashes with
    | zero => exact (trim_eq_self_iff.mp h.name_trimmed).1 c (by simpa using hc)
    | succ n =>
      obtain rfl : '-' = c := by simpa [List.replicate_succ] using hc
      rfl
  rw [htext, trim_append_cons rfl, hstart]

theorem FromArgument.dropWhile_argumentText (h : FromArgument name value) (dashes : Nat) :
    (trim (argumentText dashes (name, value)).toList).dropWhile (· = '-') =
      name.toList.dropWhile (· = '-') ++ '=' :: trimEnd value.toList := by
  have hdashes : ∀ c ∈ List.replicate dashes '-', decide (c = '-') = true := fun c hc =>
    decide_eq_true (List.eq_of_mem_replicate hc)
  rw [h.trim_argumentText, List.append_assoc, List.dropWhile_append_of_pos hdashes,
    dropWhile_append_cons (by decide)]

theorem AsArgument.ofArgument?_argumentText (h : AsArgument name value) (dashes : Nat) :
    ofArgument? (argumentText dashes (name, value)).toList = some (name, value) := by
  have hdashless : name.toList.dropWhile (· = '-') = name.toList := by
    have hhead := h.dashless
    rw [List.dropWhile_eq_self_iff]
    cases hname : name.toList <;> simp_all
  refine ofArgument?_eq_some_iff.mpr ⟨name.toList, trimEnd value.toList, ?_, h.name_ends, ?_, ?_, ?_⟩
  · rw [h.dropWhile_argumentText, hdashless]
  · rw [h.name_trimmed]
    simpa using h.name_ne
  · rw [h.name_trimmed, h.name_lower]
  · rw [trim_trimEnd, h.value_trimmed]

/-- An argument in which a dash stands behind blanks behind the leading dashes, in front of an
`=`. -/
def HidesDash (argument : List Char) : Prop :=
  ∃ before dashes gap rest, argument = before ++ '-' :: dashes ++ gap ++ '-' :: rest ∧
    (∀ c ∈ before, isBlank c) ∧ (∀ c ∈ dashes, c = '-') ∧ gap ≠ [] ∧ (∀ c ∈ gap, isBlank c) ∧
      '=' ∈ rest

theorem dropWhile_trim_of_dashes {before dashes gap front back : List Char}
    (hbefore : ∀ c ∈ before, isBlank c) (hdashes : ∀ c ∈ dashes, c = '-') (hgap : gap ≠ [])
    (hblank : ∀ c ∈ gap, isBlank c) :
    (trim (before ++ '-' :: dashes ++ gap ++ '-' :: (front ++ '=' :: back))).dropWhile (· = '-') =
      gap ++ '-' :: front ++ '=' :: trimEnd back := by
  have htrim : trim (before ++ '-' :: dashes ++ gap ++ '-' :: (front ++ '=' :: back)) =
      '-' :: dashes ++ (gap ++ '-' :: front ++ '=' :: trimEnd back) := by
    have hsplit : before ++ '-' :: dashes ++ gap ++ '-' :: (front ++ '=' :: back) =
        before ++ ('-' :: dashes ++ gap ++ '-' :: front) ++ '=' :: back := by simp
    have hstart : trimStart ('-' :: dashes ++ gap ++ '-' :: front) =
        '-' :: dashes ++ gap ++ '-' :: front := rfl
    rw [hsplit, trim_append_cons rfl, trimStart_append hbefore, hstart]
    simp
  have hall : ∀ c ∈ '-' :: dashes, decide (c = '-') = true := by simpa using hdashes
  obtain ⟨blank, gap', rfl⟩ := List.exists_cons_of_ne_nil hgap
  have hne : blank ≠ '-' := by
    rintro rfl
    exact absurd (hblank _ List.mem_cons_self) (by decide)
  rw [htrim, List.dropWhile_append_of_pos hall]
  simp [hne]

theorem HidesDash.exists_dashed (h : HidesDash argument) :
    ∃ name value, ofArgument? argument = some (name, value) ∧ name.toList.head? = some '-' := by
  obtain ⟨before, dashes, gap, rest, rfl, hbefore, hdashes, hgap, hblank, hmem⟩ := h
  obtain ⟨front, back, rfl, hfront⟩ := List.eq_append_cons_of_mem hmem
  have hname : trim (gap ++ '-' :: front) = '-' :: trimEnd front := by
    have hnil : trimStart gap = [] := List.dropWhile_eq_nil_iff.mpr hblank
    rw [trim_append_cons rfl, hnil, List.nil_append]
  have hends : '=' ∉ gap ++ '-' :: front := by
    have hgap' : '=' ∉ gap := fun hmem => absurd (hblank _ hmem) (by decide)
    simp [hgap', hfront]
  refine ⟨String.ofList (toLower ('-' :: trimEnd front)), String.ofList (trim (trimEnd back)), ?_, ?_⟩
  · refine ofArgument?_eq_some_iff.mpr
      ⟨_, _, dropWhile_trim_of_dashes hbefore hdashes hgap hblank, hends, ?_, ?_, ?_⟩
    · simp [hname]
    · rw [hname, String.toList_ofList]
    · rw [String.toList_ofList]
  · have hdash : lowerChar '-' = ['-'] := by decide
    rw [String.toList_ofList, toLower, lowerAfter, if_neg (by decide), hdash]
    rfl

theorem exists_dashes_of_dropWhile_trim {blank : Char} {rest : List Char}
    (hdrop : (trim argument).dropWhile (· = '-') = blank :: rest) (hblank : isBlank blank) :
    ∃ dashes, trim argument = '-' :: dashes ++ blank :: rest ∧ ∀ c ∈ dashes, c = '-' := by
  have hsplit : trim argument = (trim argument).takeWhile (· = '-') ++ blank :: rest := by
    rw [← hdrop, List.takeWhile_append_dropWhile]
  have hall : ∀ c ∈ (trim argument).takeWhile (· = '-'), c = '-' := fun c hc => by
    simpa using List.mem_takeWhile_imp hc
  cases hdashes : (trim argument).takeWhile (· = '-') with
  | nil =>
    have hhead : (trim argument).head? = some blank := by rw [hsplit, hdashes]; rfl
    have hshown := (trim_eq_self_iff.mp (trim_trim argument)).1 blank hhead
    rw [hblank] at hshown
    cases hshown
  | cons dash dashes =>
    rw [hdashes] at hsplit hall
    obtain ⟨rfl, hrest⟩ := List.forall_mem_cons.mp hall
    exact ⟨dashes, hsplit, hrest⟩

theorem hidesDash_of_ofArgument? (h : ofArgument? argument = some (name, value))
    (hdash : name.toList.head? = some '-') : HidesDash argument := by
  obtain ⟨left, right, hdrop, _, _, hk, _⟩ := ofArgument?_eq_some_iff.mp h
  have hhead : (trim left).head? = some '-' := by
    rw [← hk] at hdash
    exact head?_eq_of_head?_toLower hdash rfl
  obtain ⟨gap, front, rfl, hgap⟩ := exists_blanks_of_head?_trim hhead
  cases gap with
  | nil =>
    -- No dash is left where the dashes were dropped.
    have hnot := List.head?_dropWhile_not (fun c => decide (c = '-')) (trim argument)
    rw [hdrop] at hnot
    simp at hnot
  | cons blank gap =>
    obtain ⟨dashes, htrim, hdashes⟩ :=
      exists_dashes_of_dropWhile_trim hdrop (hgap blank List.mem_cons_self)
    obtain ⟨before, after, hargument, hbefore, _⟩ := exists_eq_append_trim_append argument
    refine ⟨before, dashes, blank :: gap, front ++ '=' :: right ++ after, ?_, hbefore, hdashes,
      by simp, hgap, by simp⟩
    calc argument = before ++ trim argument ++ after := hargument
      _ = _ := by rw [htrim]; simp

theorem hidesDash_iff :
    HidesDash argument ↔
      ∃ name value, ofArgument? argument = some (name, value) ∧ name.toList.head? = some '-' := by
  constructor
  · exact HidesDash.exists_dashed
  · rintro ⟨name, value, h, hdash⟩
    exact hidesDash_of_ofArgument? h hdash

theorem FromArgument.length_lt {name' value' : String} (h : FromArgument name value)
    (hdash : name.toList.head? = some '-') {dashes : Nat}
    (hread : ofArgument? (argumentText dashes (name, value)).toList = some (name', value')) :
    name'.toList.length < name.toList.length := by
  obtain ⟨left, right, heq, hleft, _, hk, _⟩ := ofArgument?_eq_some_iff.mp hread
  obtain ⟨rest, hname⟩ := List.head?_eq_some_iff.mp hdash
  have hrest : '=' ∉ name.toList.dropWhile (· = '-') := fun hmem =>
    h.name_ends ((List.dropWhile_suffix _).subset hmem)
  have hleft_eq : left = name.toList.dropWhile (· = '-') := by
    have hsplit := splitOnce_eq_some_iff.mpr ⟨heq, hleft⟩
    rw [h.dropWhile_argumentText, splitOnce_eq_some_iff.mpr ⟨rfl, hrest⟩] at hsplit
    cases hsplit
    rfl
  have hlower : ∀ c ∈ trim left, IsLower c := by
    intro c hc
    have hmem : c ∈ name.toList := by
      rw [hleft_eq] at hc
      exact (List.dropWhile_suffix _).subset ((isInfix_trim _).subset hc)
    rw [← h.name_lower] at hmem
    exact isLower_of_mem_toLower hmem
  calc name'.toList.length = (trim left).length := by rw [← hk, toLower_eq_self hlower]
    _ ≤ left.length := (isInfix_trim left).length_le
    _ = (rest.dropWhile (· = '-')).length := by rw [hleft_eq, hname]; simp
    _ ≤ rest.length := (List.dropWhile_suffix _).length_le
    _ < name.toList.length := by rw [hname]; simp

end Assignment

open Assignment

def Dict.Passable (d : Dict String) : Prop := ∀ b ∈ d.entries, AsArgument b.1 b.2

instance (d : Dict String) : Decidable d.Passable := inferInstanceAs (Decidable (∀ b ∈ d.entries, _))

/-- The arguments of a command line, and the bindings that some of them are written for. -/
inductive CommandLine : List (String × String) → List String → Prop where
  | nil : CommandLine [] []
  | binds (dashes : Nat) (binding : String × String) {bindings : List (String × String)}
      {arguments : List String} (rest : CommandLine bindings arguments) :
      CommandLine (binding :: bindings) (argumentText dashes binding :: arguments)
  | skips (argument : String) {bindings : List (String × String)} {arguments : List String}
      (unbound : '=' ∉ argument.toList) (rest : CommandLine bindings arguments) :
      CommandLine bindings (argument :: arguments)

section CommandLines

variable {d : Dict String} {bindings : List (String × String)} {arguments : List String}

theorem CommandLine.readArguments_eq (h : CommandLine bindings arguments)
    (hbindings : ∀ b ∈ bindings, AsArgument b.1 b.2) :
    readArguments arguments = Dict.ofList bindings := by
  have hread : (arguments.map String.toList).filterMap ofArgument? = bindings := by
    induction h with
    | nil => rfl
    | binds dashes binding rest ih =>
      obtain ⟨hbinding, hrest⟩ := List.forall_mem_cons.mp hbindings
      rw [List.map_cons, List.filterMap_cons_some (hbinding.ofArgument?_argumentText dashes),
        ih hrest]
    | skips argument unbound rest ih =>
      rw [List.map_cons, List.filterMap_cons_none (ofArgument?_eq_none unbound), ih hbindings]
  rw [ClusterSurvey.readArguments_eq, hread]

/-- Arguments are read as the bindings they were written for. -/
theorem readArguments_eq_of_commandLine (hpassable : d.Passable) (horder : bindings.Perm d.entries)
    (hline : CommandLine bindings arguments) : readArguments arguments = d := by
  have hbindings : ∀ b ∈ bindings, AsArgument b.1 b.2 := fun b hb =>
    hpassable b (horder.mem_iff.mp hb)
  rw [hline.readArguments_eq hbindings, Dict.ofList_eq_of_perm horder]

theorem readArguments_of_commandLine_sample :
    (Dict.ofList [("a -b", "=-="), ("größe", "")]).Passable ∧
      [("größe", ""), ("a -b", "=-=")].Perm (Dict.ofList [("a -b", "=-="), ("größe", "")]).entries ∧
      CommandLine [("größe", ""), ("a -b", "=-=")]
        ["scheduler", "größe=", "--", "---a -b==-=", ""] ∧
      readArguments ["scheduler", "größe=", "--", "---a -b==-=", ""] =
        Dict.ofList [("a -b", "=-="), ("größe", "")] := by
  have hpassable : (Dict.ofList [("a -b", "=-="), ("größe", "")]).Passable := by decide
  have horder : [("größe", ""), ("a -b", "=-=")].Perm
      (Dict.ofList [("a -b", "=-="), ("größe", "")]).entries := by decide
  have hline : CommandLine [("größe", ""), ("a -b", "=-=")]
      ["scheduler", "größe=", "--", "---a -b==-=", ""] :=
    .skips _ (by decide) (.binds 0 ("größe", "") (.skips _ (by decide)
      (.binds 3 ("a -b", "=-=") (.skips _ (by decide) .nil))))
  exact ⟨hpassable, horder, hline, readArguments_eq_of_commandLine hpassable horder hline⟩

theorem commandLine_map (dashes : Nat) (bindings : List (String × String)) :
    CommandLine bindings (bindings.map (argumentText dashes)) := by
  induction bindings with
  | nil => exact .nil
  | cons b rest ih => exact .binds dashes b ih

theorem exists_argument_of_get? {name value : String}
    (h : (readArguments arguments).get? name = some value) :
    ∃ a ∈ arguments, ofArgument? a.toList = some (name, value) := by
  rw [readArguments_eq, Dict.get?_ofList_eq_some_iff_last] at h
  obtain ⟨front, back, hsplit, _⟩ := h
  have hmem : (name, value) ∈ (arguments.map String.toList).filterMap ofArgument? := by
    simp [hsplit]
  obtain ⟨text, htext, hread⟩ := List.mem_filterMap.mp hmem
  obtain ⟨a, ha, rfl⟩ := List.mem_map.mp htext
  exact ⟨a, ha, hread⟩

theorem mem_keys_readArguments_iff {name : String} :
    name ∈ (readArguments arguments).keys ↔
      ∃ a ∈ arguments, ∃ value, ofArgument? a.toList = some (name, value) := by
  rw [readArguments_eq, Dict.mem_keys_ofList_iff, List.filterMap_map]
  simp only [List.mem_filterMap, Function.comp_apply]
  constructor
  · rintro ⟨value, a, ha, hread⟩
    exact ⟨a, ha, value, hread⟩
  · rintro ⟨a, ha, value, hread⟩
    exact ⟨value, a, ha, hread⟩

theorem fromArgument_of_get? {name value : String}
    (h : (readArguments arguments).get? name = some value) : FromArgument name value := by
  obtain ⟨a, _, hread⟩ := exists_argument_of_get? h
  exact fromArgument_of_ofArgument? hread

theorem exists_dashed_iff :
    (∃ name ∈ (readArguments arguments).keys, name.toList.head? = some '-') ↔
      ∃ a ∈ arguments, HidesDash a.toList := by
  simp only [mem_keys_readArguments_iff, hidesDash_iff]
  constructor
  · rintro ⟨name, ⟨a, ha, value, hread⟩, hdash⟩
    exact ⟨a, ha, name, value, hread, hdash⟩
  · rintro ⟨a, ha, name, value, hread, hdash⟩
    exact ⟨name, ⟨a, ha, value, hread⟩, hdash⟩

theorem exists_longest_dashed (hdashed : ∃ a ∈ arguments, HidesDash a.toList) :
    ∃ longest ∈ (readArguments arguments).keys, longest.toList.head? = some '-' ∧
      ∀ name ∈ (readArguments arguments).keys, name.toList.head? = some '-' →
        name.toList.length ≤ longest.toList.length := by
  let dashed := (readArguments arguments).keys.toFinset.filter (·.toList.head? = some '-')
  have hmem : ∀ name, name ∈ dashed ↔
      name ∈ (readArguments arguments).keys ∧ name.toList.head? = some '-' := by
    intro name
    rw [Finset.mem_filter, List.mem_toFinset]
  have hnonempty : dashed.Nonempty := by
    obtain ⟨name, hname⟩ := exists_dashed_iff.mpr hdashed
    exact ⟨name, (hmem name).mpr hname⟩
  obtain ⟨longest, hlongest, hmax⟩ := dashed.exists_max_image (·.toList.length) hnonempty
  obtain ⟨hkey, hdash⟩ := (hmem longest).mp hlongest
  exact ⟨longest, hkey, hdash, fun name hname hhead => hmax name ((hmem name).mpr ⟨hname, hhead⟩)⟩

theorem readArguments_map_argumentText_ne (hdashed : ∃ a ∈ arguments, HidesDash a.toList)
    (dashes : Nat) :
    readArguments ((readArguments arguments).entries.map (argumentText dashes)) ≠
      readArguments arguments := by
  intro heq
  obtain ⟨longest, hkey, hdash, hmax⟩ := exists_longest_dashed hdashed
  rw [← heq] at hkey
  obtain ⟨a, ha, value, hread⟩ := mem_keys_readArguments_iff.mp hkey
  obtain ⟨⟨name, value'⟩, hentry, rfl⟩ := List.mem_map.mp ha
  have hget := Dict.get?_eq_some_iff.mpr hentry
  have hfrom := fromArgument_of_get? hget
  by_cases hhead : name.toList.head? = some '-'
  · have hname : name ∈ (readArguments arguments).keys := by
      rw [Dict.mem_keys_iff, hget]
      rfl
    exact absurd (hfrom.length_lt hhead hread) (Nat.not_lt.mpr (hmax name hname hhead))
  · rw [AsArgument.ofArgument?_argumentText ⟨hfrom, hhead⟩] at hread
    cases hread
    exact hhead hdash

theorem passable_of_not_hidesDash (h : ¬ ∃ a ∈ arguments, HidesDash a.toList) :
    (readArguments arguments).Passable := by
  intro b hb
  have hget := Dict.get?_eq_some_iff.mpr hb
  refine ⟨fromArgument_of_get? hget, fun hdash => h (exists_dashed_iff.mp ⟨b.1, ?_, hdash⟩)⟩
  rw [Dict.mem_keys_iff, hget]
  rfl

end CommandLines

/-- What the names and values read off some arguments are like. Only an argument that hides a dash
behind blanks makes a name that begins with one, and without such an argument the map can be written
down, behind any number of dashes, and read again. -/
structure NamesArguments (arguments : List String) (d : Dict String) : Prop where
  fromArgument : ∀ name value, d.get? name = some value → FromArgument name value
  dashed_iff : (∃ name ∈ d.keys, name.toList.head? = some '-') ↔
    ∃ a ∈ arguments, HidesDash a.toList
  reread_iff : ∀ dashes, readArguments (d.entries.map (argumentText dashes)) = d ↔
    ¬ ∃ a ∈ arguments, HidesDash a.toList

theorem namesArguments_readArguments (arguments : List String) :
    NamesArguments arguments (readArguments arguments) where
  fromArgument _ _ := fromArgument_of_get?
  dashed_iff := exists_dashed_iff
  reread_iff := by
    intro dashes
    constructor
    · intro heq hdashed
      exact readArguments_map_argumentText_ne hdashed dashes heq
    · intro hdashless
      rw [(commandLine_map dashes _).readArguments_eq (passable_of_not_hidesDash hdashless),
        Dict.ofList_entries]

/-- A dash behind a blank is left on the name, and is gone once the name is written down and read. -/
theorem readArguments_keeps_hidden_dash :
    (readArguments ["-- -x=1"]).entries = [("-x", "1")] ∧ "-x".toList.head? = some '-' ∧
      readArguments ((readArguments ["-- -x=1"]).entries.map (argumentText 2)) ≠
        readArguments ["-- -x=1"] := by
  decide

end ClusterSurvey
