import ClusterSurvey.Proofs.JsonTokens

/-! JSON text of one line read back. Every reader takes off the front of some bytes what was
written there, whatever stands behind it, so the readers of items and fields find the next one
where they need it; a value that is `Json.Plain` is what its text is read as
(`Json.parse?_compact`). -/
namespace ClusterSurvey.Json

open Text

/-- What is read back from its text: integers of 64 bits, and what is made of these and of texts
by nesting at most so deep. -/
inductive Plain : Nat → Json → Prop
  | null {depth : Nat} : Plain depth .null
  | bool {depth : Nat} (b : Bool) : Plain depth (.bool b)
  | int {depth : Nat} {n : Int} (hlow : -0x8000000000000000 ≤ n) (hhigh : n < UInt64.size) :
      Plain depth (.int n)
  | str {depth : Nat} (s : String) : Plain depth (.str s)
  | arr {depth : Nat} {items : List Json} (h : ∀ j ∈ items, Plain depth j) :
      Plain (depth + 1) (.arr items)
  | obj {depth : Nat} {fields : List (String × Json)} (h : ∀ f ∈ fields, Plain depth f.2) :
      Plain (depth + 1) (.obj fields)

theorem itemsSound_eq (depth : Nat) (items : List Json) :
    itemsSound depth items = items.all (isSound depth) := by
  induction items with
  | nil => rfl
  | cons j rest ih => rw [itemsSound, ih, List.all_cons]

theorem fieldsSound_eq (depth : Nat) (fields : List (String × Json)) :
    fieldsSound depth fields = fields.all fun f => isSound depth f.2 := by
  induction fields with
  | nil => rfl
  | cons f rest ih => rw [fieldsSound, ih, List.all_cons]

theorem Plain.isSound {depth : Nat} {j : Json} (h : Plain depth j) : j.isSound depth := by
  induction h with
  | arr _ ih => simpa [Json.isSound, itemsSound_eq] using ih
  | obj _ ih => simpa [Json.isSound, fieldsSound_eq] using ih
  | _ => rfl

def blanks : List UInt8 := [' ', '\t', '\n', '\r'].map ascii

def openings : List UInt8 := ['"', '[', '\x7b'].map ascii

def initials : List UInt8 := ['n', 't', 'f'].map ascii

section Front

variable {b : UInt8} {mark : Char} (rest : List UInt8)

theorem skipBlank_cons (h : b ∉ blanks) : skipBlank (b :: rest) = b :: rest := by
  simp only [blanks, List.map_cons, List.map_nil, List.mem_cons, List.not_mem_nil, or_false,
    not_or] at h
  simp [skipBlank, h]

theorem afterMark?_self (h : ascii mark ∉ blanks) :
    afterMark? mark (ascii mark :: rest) = some rest := by
  rw [afterMark?, skipBlank_cons rest h]
  exact if_pos rfl

theorem afterMark?_of_ne (h : b ∉ blanks) (hne : b ≠ ascii mark) :
    afterMark? mark (b :: rest) = none := by
  rw [afterMark?, skipBlank_cons rest h]
  exact if_neg hne

theorem readValue_quote (fuel : Nat) :
    readValue (fuel + 1) (ascii '"' :: rest) =
      (readString .empty rest).map fun (s, rest) => (ofText s, rest) := by
  rw [readValue, skipBlank_cons rest (by decide)]
  exact if_pos rfl

def readNested {β : Type} (closing : Char) (readAll : ByteReader (List β)) (whole : List β → Json) :
    ByteReader Json := fun bs =>
  match afterMark? closing bs with
  | some rest => some (whole [], rest)
  | none => (readAll bs).map fun (l, rest) => (whole l, rest)

theorem readValue_bracket (fuel : Nat) :
    readValue (fuel + 1) (ascii '[' :: rest) = readNested ']' (readItems fuel) .arr rest := by
  rw [readValue, skipBlank_cons rest (by decide)]
  rfl

theorem readValue_brace (fuel : Nat) :
    readValue (fuel + 1) (ascii '\x7b' :: rest) =
      readNested '\x7d' (readFields fuel) ofEntries rest := by
  rw [readValue, skipBlank_cons rest (by decide)]
  rfl

theorem readValue_of_notMem (hblank : b ∉ blanks) (hopening : b ∉ openings) (fuel : Nat) :
    readValue (fuel + 1) (b :: rest) =
      (readLiteral (b :: rest)).orElse fun _ => readNumber (b :: rest) := by
  simp only [openings, List.map_cons, List.map_nil, List.mem_cons, List.not_mem_nil, or_false,
    not_or] at hopening
  rw [readValue, skipBlank_cons rest hblank]
  dsimp only
  rw [if_neg hopening.1, if_neg hopening.2.1, if_neg hopening.2.2]

theorem readLiteral_of_notMem (h : b ∉ initials) : readLiteral (b :: rest) = none := by
  have hwords : ∀ l ∈ literals, ∃ c ∈ initials, (l.1.toList.map ascii).head? = some c := by
    decide
  rw [readLiteral, List.findSome?_eq_none_iff]
  intro l hl
  obtain ⟨c, hc, hhead⟩ := hwords l hl
  obtain ⟨tail, htext⟩ := List.head?_eq_some_iff.mp hhead
  have hne : (c == b) = false := by
    rw [beq_eq_false_iff_ne]
    rintro rfl
    exact h hc
  have hnot : (l.1.toList.map ascii).isPrefixOf (b :: rest) = false := by
    rw [htext, List.isPrefixOf_cons_cons, hne, Bool.false_and]
  exact if_neg (by rw [hnot]; decide)

theorem notMem_of_startsNumber (h : startsNumber b) :
    b ∉ blanks ∧ b ∉ openings ∧ b ∉ initials ∧ b ≠ ascii ']' := by
  have hnone : (ascii ']' :: (blanks ++ openings ++ initials)).all fun b => !startsNumber b := by
    decide
  have hnot : b ∉ ascii ']' :: (blanks ++ openings ++ initials) := by
    intro hmem
    have hb := List.all_eq_true.mp hnone b hmem
    simp [h] at hb
  simp only [List.mem_cons, List.mem_append, not_or] at hnot
  exact ⟨hnot.2.1.1, hnot.2.1.2, hnot.2.2, hnot.1⟩

end Front

theorem compactItems_eq (items : List Json) : compactItems items = items.map compact := by
  induction items with
  | nil => rfl
  | cons j rest ih => rw [compactItems, ih, List.map_cons]

def fieldText (f : String × Json) : String := quotedText f.1 ++ ":" ++ f.2.compact

theorem compactFields_eq (fields : List (String × Json)) :
    compactFields fields = fields.map fieldText := by
  induction fields with
  | nil => rfl
  | cons f rest ih =>
    rw [compactFields, ih]
    rfl

def listed (parts : List String) : List UInt8 := bytes (",".intercalate parts)

@[simp] theorem listed_nil : listed [] = [] := by
  rw [listed, String.intercalate_nil, bytes_eq_flatMap]
  rfl

@[simp] theorem listed_singleton (part : String) : listed [part] = bytes part := by
  rw [listed, String.intercalate_singleton]

@[simp] theorem listed_cons_cons (part next : String) (parts : List String) :
    listed (part :: next :: parts) = bytes part ++ ascii ',' :: listed (next :: parts) := by
  rw [listed, String.intercalate_cons_cons, bytes_append, bytes_append,
    bytes_of_ascii (s := ",") (by decide), List.append_assoc]
  rfl

theorem exists_listed_eq_append (part : String) (parts : List String) :
    ∃ tail, listed (part :: parts) = bytes part ++ tail := by
  cases parts with
  | nil => exact ⟨[], by simp⟩
  | cons next parts => exact ⟨_, listed_cons_cons part next parts⟩

theorem bytes_arr (items : List Json) :
    bytes (compact (.arr items)) =
      ascii '[' :: (listed (items.map compact) ++ [ascii ']']) := by
  rw [compact, compactItems_eq, bytes_append, bytes_append, bytes_of_ascii (s := "[") (by decide),
    bytes_of_ascii (s := "]") (by decide), List.append_assoc]
  rfl

theorem bytes_obj (fields : List (String × Json)) :
    bytes (compact (.obj fields)) =
      ascii '\x7b' :: (listed (fields.map fieldText) ++ [ascii '\x7d']) := by
  rw [compact, compactFields_eq, bytes_append, bytes_append,
    bytes_of_ascii (s := "\x7b") (by decide), bytes_of_ascii (s := "\x7d") (by decide),
    List.append_assoc]
  rfl

theorem bytes_fieldText (f : String × Json) :
    bytes (fieldText f) =
      ascii '"' :: (quotedBody f.1 ++ ascii ':' :: bytes f.2.compact) := by
  rw [fieldText, bytes_append, bytes_append, bytes_quotedText,
    bytes_of_ascii (s := ":") (by decide)]
  simp

theorem Plain.exists_bytes_eq_cons {depth : Nat} {j : Json} (h : Plain depth j) :
    ∃ b tail, bytes j.compact = b :: tail ∧ b ∉ blanks ∧ b ≠ ascii ']' := by
  cases h with
  | null => exact ⟨_, _, bytes_of_ascii (s := "null") (by decide), by decide, by decide⟩
  | bool b =>
    cases b with
    | true => exact ⟨_, _, bytes_of_ascii (s := "true") (by decide), by decide, by decide⟩
    | false => exact ⟨_, _, bytes_of_ascii (s := "false") (by decide), by decide, by decide⟩
  | int =>
    obtain ⟨b, tail, hstart, hb⟩ := exists_bytes_intText_eq_cons _
    obtain ⟨hblank, _, _, hclosing⟩ := notMem_of_startsNumber hb
    exact ⟨b, tail, hstart, hblank, hclosing⟩
  | str s => exact ⟨_, _, bytes_quotedText s, by decide, by decide⟩
  | arr => exact ⟨_, _, bytes_arr _, by decide, by decide⟩
  | obj => exact ⟨_, _, bytes_obj _, by decide, by decide⟩

/-- With more steps than it has bytes, the text of a value is read as this value. -/
def ReadFromText (j : Json) : Prop :=
  ∀ fuel rest, (bytes j.compact).length < fuel → Ends rest →
    readValue fuel (bytes j.compact ++ rest) = some (j, rest)

section Listed

variable {α β : Type}

def readOthers (closing : Char) (readAll : ByteReader (List β)) (part : β) :
    ByteReader (List β) := fun rest =>
  match afterMark? ',' rest with
  | some rest => (readAll rest).map fun (l, rest) => (part :: l, rest)
  | none => (afterMark? closing rest).map fun rest => ([part], rest)

/-- A reader takes a part off the front and goes on to the others. -/
def TakesPart (readAll : Nat → ByteReader (List β)) (closing : Char) (text : String) (part : β) :
    Prop :=
  ∀ fuel rest, (bytes text).length < fuel → Ends rest →
    readAll (fuel + 1) (bytes text ++ rest) = readOthers closing (readAll fuel) part rest

variable {readAll : Nat → ByteReader (List β)} {text : α → String} {value : α → β}
  {closing : Char} {parts : List α} {fuel : Nat}

theorem closing_mark (h : closing ∈ [']', '\x7d']) :
    ascii closing ∉ blanks ∧ ascii closing ≠ ascii ',' ∧ closing ∈ [',', ']', '\x7d'] := by
  simp only [List.mem_cons, List.not_mem_nil, or_false] at h
  rcases h with rfl | rfl <;> decide

theorem read_listed (hclosing : closing ∈ [']', '\x7d']) (hne : parts ≠ [])
    (hparts : ∀ part ∈ parts, TakesPart readAll closing (text part) (value part))
    (hfuel : (listed (parts.map text)).length + 1 < fuel) (rest : List UInt8) :
    readAll fuel (listed (parts.map text) ++ ascii closing :: rest) =
      some (parts.map value, rest) := by
  obtain ⟨hblank, hcomma, hmark⟩ := closing_mark hclosing
  induction parts generalizing fuel with
  | nil => exact absurd rfl hne
  | cons part parts ih =>
    obtain _ | fuel := fuel
    · omega
    have hhead := hparts part List.mem_cons_self fuel
    cases parts with
    | nil =>
      rw [List.map_cons, List.map_nil, listed_singleton] at hfuel ⊢
      rw [hhead _ (by omega) (.mark hmark rest), readOthers,
        afterMark?_of_ne rest hblank hcomma, afterMark?_self rest hblank]
      simp
    | cons next parts =>
      rw [List.map_cons, List.map_cons, listed_cons_cons] at hfuel ⊢
      rw [List.length_append, List.length_cons] at hfuel
      have htail := @ih fuel (by simp)
        (fun part hmem => hparts part (List.mem_cons_of_mem _ hmem)) (by rw [List.map_cons]; omega)
      rw [List.map_cons] at htail
      rw [List.append_assoc, List.cons_append, hhead _ (by omega) (.mark (by decide) _),
        readOthers, afterMark?_self _ (by decide)]
      simp [htail]

theorem readNested_listed (hclosing : closing ∈ [']', '\x7d'])
    (hparts : ∀ part ∈ parts, TakesPart readAll closing (text part) (value part))
    (hstart : ∀ part ∈ parts, ∃ b tail, bytes (text part) = b :: tail ∧ b ∉ blanks ∧
      b ≠ ascii closing)
    (hfuel : (listed (parts.map text)).length + 1 < fuel) (whole : List β → Json)
    (rest : List UInt8) :
    readNested closing (readAll fuel) whole (listed (parts.map text) ++ ascii closing :: rest) =
      some (whole (parts.map value), rest) := by
  have hblank := (closing_mark hclosing).1
  unfold readNested
  cases parts with
  | nil =>
    rw [List.map_nil, listed_nil, List.nil_append, afterMark?_self rest hblank]
    rfl
  | cons part parts =>
    have hread := read_listed hclosing (List.cons_ne_nil part parts) hparts hfuel rest
    obtain ⟨b, tail, htext, hb, hne⟩ := hstart part List.mem_cons_self
    obtain ⟨others, hlisted⟩ := exists_listed_eq_append (text part) (parts.map text)
    rw [hread, List.map_cons, hlisted, htext, List.cons_append, List.cons_append,
      afterMark?_of_ne _ hb hne]
    rfl

end Listed

theorem takesPart_compact {j : Json} (h : ReadFromText j) :
    TakesPart readItems ']' j.compact j := by
  intro fuel rest hfuel hrest
  rw [readItems, h fuel rest hfuel hrest]
  rfl

theorem takesPart_fieldText {f : String × Json} (h : ReadFromText f.2) :
    TakesPart readFields '\x7d' (fieldText f) (some f.1, f.2) := by
  intro fuel rest hfuel hrest
  rw [bytes_fieldText, List.length_cons, List.length_append, List.length_cons] at hfuel
  rw [readFields, bytes_fieldText, List.cons_append, List.append_assoc,
    afterMark?_self _ (by decide)]
  dsimp only [bind, Option.bind]
  rw [readString_quotedBody]
  dsimp only [List.cons_append]
  rw [afterMark?_self _ (by decide)]
  dsimp only
  rw [h fuel rest (by omega) hrest]
  rfl

theorem ofEntries_fields (fields : List (String × Json)) :
    ofEntries (fields.map fun f => (some f.1, f.2)) = .obj fields := by
  have hkeys : (fields.map fun f => (some f.1, f.2)).mapM
      (fun e => e.1.map fun key => (key, e.2)) = some fields := by
    induction fields with
    | nil => rfl
    | cons f rest ih => simp [List.mapM_cons, ih]
  rw [ofEntries, hkeys]

theorem readFromText_str (s : String) : ReadFromText (.str s) := by
  intro fuel rest hfuel _
  obtain _ | fuel := fuel
  · omega
  have htext : bytes (compact (.str s)) = ascii '"' :: quotedBody s := bytes_quotedText s
  rw [htext, List.cons_append, readValue_quote, readString_quotedBody]
  rfl

theorem readFromText_int {n : Int} (hlow : -0x8000000000000000 ≤ n) (hhigh : n < UInt64.size) :
    ReadFromText (.int n) := by
  intro fuel rest hfuel hrest
  obtain _ | fuel := fuel
  · omega
  have htext : bytes (compact (.int n)) = bytes (intText n) := rfl
  have hread := readNumber_intText hlow hhigh hrest
  obtain ⟨b, tail, hstart, hb⟩ := exists_bytes_intText_eq_cons n
  obtain ⟨hblank, hopening, hinitial, _⟩ := notMem_of_startsNumber hb
  rw [hstart, List.cons_append] at hread
  rw [htext, hstart, List.cons_append, readValue_of_notMem _ hblank hopening,
    readLiteral_of_notMem _ hinitial, hread]
  rfl

theorem readFromText_word {j : Json} {b : UInt8} {tail : List UInt8}
    (hword : bytes j.compact = b :: tail) (hblank : b ∉ blanks) (hopening : b ∉ openings)
    (hread : ∀ rest, readLiteral (b :: (tail ++ rest)) = some (j, rest)) : ReadFromText j := by
  intro fuel rest hfuel _
  obtain _ | fuel := fuel
  · omega
  rw [hword, List.cons_append, readValue_of_notMem _ hblank hopening, hread]
  rfl

theorem readFromText_arr {depth : Nat} {items : List Json} (hplain : ∀ j ∈ items, Plain depth j)
    (h : ∀ j ∈ items, ReadFromText j) : ReadFromText (.arr items) := by
  intro fuel rest hfuel _
  rw [bytes_arr] at hfuel ⊢
  rw [List.length_cons, List.length_append, List.length_singleton] at hfuel
  obtain _ | fuel := fuel
  · omega
  have hread := readNested_listed (by decide) (fun j hj => takesPart_compact (h j hj))
    (fun j hj => (hplain j hj).exists_bytes_eq_cons) (Nat.lt_of_succ_lt_succ hfuel) .arr rest
  rw [List.cons_append, List.append_assoc, List.singleton_append, readValue_bracket, hread,
    List.map_id']

theorem readFromText_obj {fields : List (String × Json)} (h : ∀ f ∈ fields, ReadFromText f.2) :
    ReadFromText (.obj fields) := by
  intro fuel rest hfuel _
  rw [bytes_obj] at hfuel ⊢
  rw [List.length_cons, List.length_append, List.length_singleton] at hfuel
  obtain _ | fuel := fuel
  · omega
  have hstart : ∀ f ∈ fields, ∃ b tail, bytes (fieldText f) = b :: tail ∧ b ∉ blanks ∧
      b ≠ ascii '\x7d' :=
    fun f _ => ⟨_, _, bytes_fieldText f, by decide, by decide⟩
  have hread := readNested_listed (by decide) (fun f hf => takesPart_fieldText (h f hf))
    hstart (Nat.lt_of_succ_lt_succ hfuel) ofEntries rest
  rw [List.cons_append, List.append_assoc, List.singleton_append, readValue_brace, hread,
    ofEntries_fields]

theorem Plain.readFromText {depth : Nat} {j : Json} (h : Plain depth j) : ReadFromText j := by
  induction h with
  | null =>
    exact readFromText_word (bytes_of_ascii (s := "null") (by decide)) (by decide) (by decide)
      fun _ => rfl
  | bool b =>
    cases b with
    | true =>
      exact readFromText_word (bytes_of_ascii (s := "true") (by decide)) (by decide) (by decide)
        fun _ => rfl
    | false =>
      exact readFromText_word (bytes_of_ascii (s := "false") (by decide)) (by decide) (by decide)
        fun _ => rfl
  | int hlow hhigh => exact readFromText_int hlow hhigh
  | str s => exact readFromText_str s
  | arr h ih => exact readFromText_arr h ih
  | obj _ ih => exact readFromText_obj ih

theorem parse?_compact {j : Json} (h : Plain depthLimit j) : parse? j.compact = some j := by
  have hread := h.readFromText ((bytes j.compact).length + 1) [] (Nat.lt_succ_self _) (.inl rfl)
  have hbytes : ofBytes? (bytes j.compact) = some j := by
    rw [List.append_nil] at hread
    rw [ofBytes?, hread]
    rfl
  have htext : ofText? j.compact = some j := hbytes
  rw [parse?, htext]
  exact Option.filter_some_pos h.isSound

end ClusterSurvey.Json
