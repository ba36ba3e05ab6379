import IssueFilter.Proofs.Query.Words
import Mathlib.Data.List.DropRight

/-! What scanners take off a text. The text after a word is shorter than the text before it, and a name
is a name of the grammar; the text before a keyword begins with the letters of the keyword. -/
namespace IssueFilter

namespace Token

section Lengths

variable {s rest : List Char}

theorem skipGaps_skipGaps (s : List Char) : skipGaps (skipGaps s) = skipGaps s :=
  List.dropWhile_idempotent ..

theorem length_skipGaps (s : List Char) : (skipGaps s).length ≤ s.length :=
  (List.dropWhile_suffix isGap).length_le

theorem length_afterWord {word : List Char} (taken : afterWord word s = some rest) :
    rest.length + word.length = s.length := by
  induction word generalizing s with
  | nil =>
      cases taken
      rfl
  | cons w word ih =>
      cases s with
      | nil => cases taken
      | cons c s =>
          simp only [afterWord] at taken
          split at taken
          · have shorter := ih taken
            simp only [List.length_cons]
            omega
          · cases taken

theorem length_keyword {word : String} (taken : keyword word s = some ((), rest)) :
    rest.length + word.toList.length = s.length := by
  unfold keyword at taken
  split at taken
  · rename_i after found
    split at taken
    · cases taken
      exact length_afterWord found
    · cases taken
  · cases taken

theorem symbol_split {text : String} (taken : symbol text s = some ((), rest)) :
    s = text.toList ++ rest := by
  unfold symbol at taken
  split at taken
  · rename_i begins
    obtain ⟨after, rfl⟩ := List.isPrefixOf_iff_prefix.mp begins
    cases taken
    rw [List.drop_left]
  · cases taken

theorem length_symbol {text : String} (taken : symbol text s = some ((), rest)) :
    rest.length + text.toList.length = s.length := by
  rw [symbol_split taken, List.length_append, Nat.add_comm]

theorem length_run {p : Char → Bool} {text : List Char} (taken : run p s = some (text, rest)) :
    rest.length ≤ s.length := by
  unfold run at taken
  split at taken
  · cases taken
  · cases taken
    exact (List.dropWhile_suffix p).length_le

theorem length_keywords {first second : String} (taken : keywords first second s = some ((), rest)) :
    rest.length ≤ s.length := by
  unfold keywords at taken
  split at taken
  · rename_i gaps between found
    obtain ⟨after, word, gap⟩ := Option.bind_eq_some_iff.mp found
    have lengths := length_afterWord word
    have shorter := length_run gap
    have last := length_keyword taken
    omega
  · cases taken

theorem length_either {f g : List Char → Option (Unit × List Char)} {n : Nat}
    (left : f s = some ((), rest) → rest.length + n ≤ s.length)
    (right : g s = some ((), rest) → rest.length + n ≤ s.length)
    (taken : either f g s = some ((), rest)) : rest.length + n ≤ s.length := by
  unfold either at taken
  cases first : f s with
  | none =>
      rw [first] at taken
      exact right taken
  | some answer =>
      rw [first] at taken
      cases taken
      exact left first

/-- The word NOT takes at least a character. -/
theorem length_notWord (taken : notWord s = some ((), rest)) : rest.length + 1 ≤ s.length := by
  refine length_either (fun word => ?_) (fun sign => ?_) taken
  · have lengths := length_keyword word
    have letters : "not".toList.length = 3 := rfl
    omega
  · exact Nat.le_of_eq (length_symbol sign)

theorem length_decode {quote : Char} {text : List Char}
    (taken : Quoted.decode quote s = some (text, rest)) : rest.length ≤ s.length := by
  fun_induction Quoted.decode quote s generalizing text with
  | case1 => cases taken
  | case2 c s ih =>
      obtain ⟨answer, found, same⟩ := Option.map_eq_some_iff.mp taken
      cases same
      have shorter := ih found
      simp only [List.length_cons]
      omega
  | case3 s _ =>
      cases taken
      exact Nat.le_succ _
  | case4 => cases taken
  | case5 c s _ _ _ ih =>
      obtain ⟨answer, found, same⟩ := Option.map_eq_some_iff.mp taken
      cases same
      have shorter := ih found
      simp only [List.length_cons]
      omega

end Lengths

section Words

variable {s rest : List Char} {text : String} {literal : Literal}

theorem isName_of_name {first other : Char → Bool} (taken : name first other s = some (text, rest)) :
    IsName first other text.toList ∧ rest.length ≤ s.length := by
  unfold name at taken
  split at taken
  · cases taken
  · rename_i c others
    split at taken
    · rename_i start
      cases taken
      refine ⟨⟨c, others.takeWhile other, String.toList_ofList, start, ?_⟩, ?_⟩
      · exact List.all_eq_true.mp (List.all_takeWhile)
      · exact Nat.le_succ_of_le (List.dropWhile_suffix other).length_le
    · cases taken

theorem isFieldName_of_field (taken : field s = some (text, rest)) :
    isFieldName text = true ∧ rest.length ≤ s.length := by
  obtain ⟨⟨c, others, split, start, inside⟩, left⟩ := isName_of_name taken
  refine ⟨?_, left⟩
  rw [isFieldName, split, Bool.and_eq_true, List.all_eq_true]
  exact ⟨start, inside⟩

theorem isCallName_of_callName (taken : callName s = some (text, rest)) :
    isCallName text = true ∧ rest.length ≤ s.length := by
  obtain ⟨⟨c, others, split, start, inside⟩, left⟩ := isName_of_name taken
  refine ⟨?_, left⟩
  rw [isCallName, split, Bool.and_eq_true, List.all_eq_true]
  exact ⟨start, inside⟩

theorem length_string (taken : string s = some (text, rest)) : rest.length ≤ s.length := by
  unfold string at taken
  split at taken
  · obtain ⟨answer, found, same⟩ := Option.map_eq_some_iff.mp taken
    cases same
    exact Nat.le_succ_of_le (length_decode found)
  · obtain ⟨answer, found, same⟩ := Option.map_eq_some_iff.mp taken
    cases same
    exact Nat.le_succ_of_le (length_decode found)
  · cases taken

theorem length_bareArgument (taken : bareArgument s = some (text, rest)) :
    rest.length ≤ s.length := by
  obtain ⟨answer, found, same⟩ := Option.map_eq_some_iff.mp taken
  cases same
  exact length_run found

theorem length_number (taken : number s = some (literal, rest)) : rest.length ≤ s.length := by
  unfold number at taken
  split at taken
  · rename_i found
    split at taken
    · cases taken
      exact length_run found
    · cases taken
  · cases taken

theorem length_word (taken : word s = some (literal, rest)) : rest.length ≤ s.length := by
  obtain ⟨answer, found, same⟩ := Option.map_eq_some_iff.mp taken
  cases same
  exact length_run found

theorem shorter_keyword {word : String} {a : Unit} (taken : keyword word s = some (a, rest)) :
    rest.length ≤ s.length := by
  have lengths := length_keyword taken
  omega

theorem shorter_symbol {text : String} {a : Unit} (taken : symbol text s = some (a, rest)) :
    rest.length ≤ s.length := by
  have lengths := length_symbol taken
  omega

theorem length_emptyWord {a : Unit} (taken : emptyWord s = some (a, rest)) :
    rest.length ≤ s.length :=
  length_either (n := 0) shorter_keyword shorter_keyword taken

theorem length_andWord {a : Unit} (taken : andWord s = some (a, rest)) : rest.length ≤ s.length :=
  length_either (n := 0) shorter_keyword shorter_symbol taken

theorem length_orWord {a : Unit} (taken : orWord s = some (a, rest)) : rest.length ≤ s.length :=
  length_either (n := 0) shorter_keyword shorter_symbol taken

theorem comparison_split {operator : Operator} (taken : comparison s = some (operator, rest)) :
    operator ∈ comparisons ∧ s = operator.symbol.toList ++ rest := by
  obtain ⟨operator', member, found⟩ := List.exists_of_findSome?_eq_some taken
  obtain ⟨answer, symbol, same⟩ := Option.map_eq_some_iff.mp found
  cases same
  exact ⟨member, symbol_split symbol⟩

theorem mem_comparisons {operator : Operator} (taken : comparison s = some (operator, rest)) :
    operator ∈ comparisons ∧ rest.length ≤ s.length := by
  obtain ⟨member, split⟩ := comparison_split taken
  rw [split, List.length_append]
  exact ⟨member, Nat.le_add_left _ _⟩

theorem length_direction {direction : Direction} (taken : Token.direction s = some (direction, rest)) :
    rest.length ≤ s.length := by
  unfold Token.direction at taken
  split at taken
  · rename_i found
    cases taken
    have lengths := length_keyword found
    omega
  · obtain ⟨answer, found, same⟩ := Option.map_eq_some_iff.mp taken
    cases same
    have lengths := length_keyword found
    omega

end Words

end Token

section Letters

theorem isAlpha_of_toLower {c : Char} (lower : c.toLower.isLower = true) : c.isAlpha = true := by
  by_cases upper : c.val ≥ 'A'.val ∧ c.val ≤ 'Z'.val
  · have isUpper : c.isUpper = true := decide_eq_true upper
    exact (Bool.or_eq_true _ _).mpr (.inl isUpper)
  · have same : c.toLower = c := dif_neg upper
    rw [same] at lower
    exact (Bool.or_eq_true _ _).mpr (.inr lower)

namespace Token

variable {s rest : List Char}

theorem afterWord_split {word : List Char} (taken : afterWord word s = some rest) :
    ∃ text, s = text ++ rest ∧ text.map Char.toLower = word := by
  induction word generalizing s with
  | nil =>
      cases taken
      exact ⟨[], rfl, rfl⟩
  | cons w word ih =>
      cases s with
      | nil => cases taken
      | cons c s =>
          simp only [afterWord] at taken
          split at taken
          · rename_i same
            obtain ⟨text, rfl, lowered⟩ := ih taken
            exact ⟨c :: text, rfl, by rw [List.map_cons, same, lowered]⟩
          · cases taken

theorem name_split {first other : Char → Bool} {text : String}
    (taken : name first other s = some (text, rest)) : s = text.toList ++ rest ∧ Stops other rest := by
  unfold name at taken
  split at taken
  · cases taken
  · rename_i c others
    split at taken
    · cases taken
      refine ⟨?_, fun d next => ?_⟩
      · rw [String.toList_ofList, List.cons_append, List.takeWhile_append_dropWhile]
      · have stopped := List.head?_dropWhile_not other others
        rwa [Option.mem_def.mp next] at stopped
    · cases taken

theorem field_split {field : String} (taken : Token.field s = some (field, rest)) :
    s = field.toList ++ rest ∧ Stops isFieldChar rest := name_split taken

/-- A word of letters is a field name wherever a blank follows. -/
theorem field_of_letters {text : List Char} (letters : ∀ c ∈ text, c.toLower.isLower = true)
    (nonempty : text ≠ []) (stops : Stops isFieldChar rest) :
    Token.field (text ++ rest) = some (String.ofList text, rest) := by
  have named : IsName isFieldStart isFieldChar (String.ofList text).toList := by
    obtain ⟨c, others, rfl⟩ := List.exists_cons_of_ne_nil nonempty
    rw [String.toList_ofList]
    have start : ∀ d ∈ c :: others, isFieldStart d = true := fun d member => by
      rw [isFieldStart, isAlpha_of_toLower (letters d member), Bool.true_or]
    exact ⟨c, others, rfl, start c List.mem_cons_self,
      fun d member => isFieldChar_of_isFieldStart (start d (List.mem_cons_of_mem c member))⟩
  have read := named.read stops
  rwa [String.toList_ofList] at read

theorem keyword_split {word : String} (taken : keyword word s = some ((), rest)) :
    ∃ text, s = text ++ rest ∧ text.map Char.toLower = word.toList := by
  unfold keyword at taken
  split at taken
  · rename_i after found
    split at taken
    · cases taken
      exact afterWord_split found
    · cases taken
  · cases taken

theorem isGap_of_run {gaps : List Char} (taken : run isGap s = some (gaps, rest)) :
    skipGaps s = rest ∧ ∃ c others, s = c :: others ∧ isGap c = true := by
  unfold run at taken
  split at taken
  · cases taken
  · rename_i present
    cases taken
    refine ⟨rfl, ?_⟩
    cases s with
    | nil => exact absurd rfl present
    | cons c s =>
        cases gap : isGap c with
        | false => exact absurd (by rw [List.takeWhile_cons, gap, if_neg Bool.false_ne_true]) present
        | true => exact ⟨c, s, rfl, gap⟩

theorem keywords_split {first second : String} (taken : keywords first second s = some ((), rest)) :
    ∃ text c others, s = text ++ c :: others ∧ text.map Char.toLower = first.toList ∧
      isGap c = true ∧ keyword second (skipGaps (c :: others)) = some ((), rest) := by
  unfold keywords at taken
  split at taken
  · rename_i gaps between found
    obtain ⟨after, word, gap⟩ := Option.bind_eq_some_iff.mp found
    obtain ⟨text, rfl, lowered⟩ := afterWord_split word
    obtain ⟨skipped, c, others, rfl, isGap⟩ := isGap_of_run gap
    exact ⟨text, c, others, rfl, lowered, isGap, by rwa [skipped]⟩
  · cases taken

theorem not_isFieldChar_of_isGap {c : Char} (gap : isGap c = true) : isFieldChar c = false := by
  cases field : isFieldChar c with
  | false => rfl
  | true =>
      rw [not_isGap_of_isWordChar (isWordChar_of_isFieldChar field)] at gap
      cases gap

/-- After a name, two words with blanks between them are set off by a blank: a letter would belong to
the name. -/
theorem atWordEnd_of_keywords {first second : String} (letter : ∃ w word, first.toList = w :: word ∧
    w.isLower = true) (stops : Stops isFieldChar s)
    (taken : keywords first second (skipGaps s) = some ((), rest)) : atWordEnd s = true := by
  obtain ⟨w, word, spelled, lower⟩ := letter
  obtain ⟨text, c, others, split, lowered, -, -⟩ := keywords_split taken
  cases s with
  | nil => rfl
  | cons d s =>
      cases gap : isGap d with
      | true =>
          cases isWord : isWordChar d with
          | false => rw [atWordEnd, isWord]; rfl
          | true => rw [not_isGap_of_isWordChar isWord] at gap; cases gap
      | false =>
          have same : skipGaps (d :: s) = d :: s := by
            rw [skipGaps, List.dropWhile_cons, gap, if_neg Bool.false_ne_true]
          rw [same] at split
          rw [spelled] at lowered
          obtain ⟨e, text, rfl, first, -⟩ := List.map_eq_cons_iff.mp lowered
          rw [List.cons_append, List.cons.injEq] at split
          have alpha := isAlpha_of_toLower (c := d) (by rw [split.1, first, lower])
          have field : isFieldChar d = true :=
            isFieldChar_of_isFieldStart (by rw [isFieldStart, alpha, Bool.true_or])
          rw [stops d rfl] at field
          cases field

end Token

end Letters

namespace Token

/-- What a run of characters takes off a text. -/
theorem run_split {p : Char → Bool} {s text rest : List Char} (taken : run p s = some (text, rest)) :
    s = text ++ rest ∧ text ≠ [] ∧ (∀ c ∈ text, p c = true) ∧ Stops p rest := by
  unfold run at taken
  split at taken
  · cases taken
  · rename_i present
    cases taken
    refine ⟨List.takeWhile_append_dropWhile.symm, present, ?_, ?_⟩
    · exact List.all_eq_true.mp List.all_takeWhile
    · intro c next
      have stopped := List.head?_dropWhile_not p s
      rwa [Option.mem_def.mp next] at stopped

/-- The word at the beginning of a text, and what stands behind it. -/
structure FirstWord (s text rest : List Char) : Prop where
  split : s = text ++ rest
  nonempty : text ≠ []
  word : ∀ c ∈ text, isWordChar c = true
  wordEnd : atWordEnd rest = true

theorem atWordEnd_of_stops {rest : List Char} (stops : Stops isWordChar rest) :
    atWordEnd rest = true := by
  cases rest with
  | nil => rfl
  | cons c rest => rw [atWordEnd, stops c rfl]; rfl

namespace FirstWord

variable {s text rest other after : List Char}

theorem unique (h : FirstWord s text rest) (h' : FirstWord s other after) :
    text = other ∧ rest = after := by
  have stops := stops_of_atWordEnd h.wordEnd
  have stops' := stops_of_atWordEnd h'.wordEnd
  have same : text ++ rest = other ++ after := h.split.symm.trans h'.split
  constructor
  · rw [← takeWhile_append h.word stops, same, takeWhile_append h'.word stops']
  · rw [← dropWhile_append h.word stops, same, dropWhile_append h'.word stops']

theorem head (h : FirstWord s text rest) :
    ∃ c others, s = c :: others ∧ isWordChar c = true := by
  obtain ⟨c, others, same⟩ := List.exists_cons_of_ne_nil h.nonempty
  refine ⟨c, others ++ rest, ?_, h.word c (same ▸ List.mem_cons_self)⟩
  rw [h.split, same, List.cons_append]

/-- A keyword is found at the beginning of a text if it is the first word. -/
theorem keyword_eq (h : FirstWord s text rest) {word : String}
    (letters : word.toList.all isWordChar = true) :
    keyword word s = if text.map Char.toLower = word.toList then some ((), rest) else none := by
  rw [h.split]
  exact keyword_append letters h.word h.wordEnd

end FirstWord

/-- A word of letters is the name of a field. -/
theorem FirstWord.field {s text rest : List Char} (h : FirstWord s text rest)
    (letters : (text.map Char.toLower).all Char.isLower = true) :
    Token.field s = some (String.ofList text, rest) := by
  have stops : Stops isFieldChar rest :=
    (stops_of_atWordEnd h.wordEnd).mono fun _ => isWordChar_of_isFieldChar
  rw [h.split]
  apply field_of_letters _ h.nonempty stops
  intro c member
  exact List.all_eq_true.mp letters _ (List.mem_map_of_mem member)

theorem firstWord_of_word {s rest : List Char} {literal : Literal}
    (taken : word s = some (literal, rest)) : ∃ text, FirstWord s text rest := by
  obtain ⟨⟨text, rest⟩, found, same⟩ := Option.map_eq_some_iff.mp taken
  cases same
  obtain ⟨split, nonempty, all, stops⟩ := run_split found
  exact ⟨text, split, nonempty, all, atWordEnd_of_stops stops⟩

theorem firstWord_of_number {s rest : List Char} {literal : Literal}
    (taken : number s = some (literal, rest)) : ∃ text, FirstWord s text rest := by
  unfold number at taken
  split at taken
  · rename_i digits after found
    split at taken
    · rename_i wordEnd
      cases taken
      obtain ⟨split, nonempty, all, -⟩ := run_split found
      exact ⟨digits, split, nonempty, fun c member => isWordChar_of_isDigit (all c member), wordEnd⟩
    · cases taken
  · cases taken

theorem firstWord_of_keyword {word : String} (letters : word.toList.all isWordChar = true)
    (some_letter : word.toList ≠ []) {s rest : List Char} (taken : keyword word s = some ((), rest)) :
    ∃ text, FirstWord s text rest ∧ text.map Char.toLower = word.toList := by
  obtain ⟨text, split, lowered⟩ := keyword_split taken
  refine ⟨text, ⟨split, ?_, ?_, ?_⟩, lowered⟩
  · rintro rfl
    exact some_letter lowered.symm
  · intro c member
    rw [← isWordChar_toLower]
    exact List.all_eq_true.mp letters _ (lowered ▸ List.mem_map_of_mem member)
  · unfold keyword at taken
    split at taken
    · split at taken
      · rename_i wordEnd
        cases taken
        exact wordEnd
      · cases taken
    · cases taken

theorem either_cases {f g : List Char → Option (Unit × List Char)} {s rest : List Char}
    (taken : either f g s = some ((), rest)) : f s = some ((), rest) ∨ g s = some ((), rest) := by
  unfold either at taken
  cases first : f s with
  | none => rw [first] at taken; exact .inr taken
  | some answer => rw [first] at taken; exact .inl taken

theorem firstWord_of_emptyWord {s rest : List Char} (taken : emptyWord s = some ((), rest)) :
    ∃ text, FirstWord s text rest ∧
      (text.map Char.toLower = "empty".toList ∨ text.map Char.toLower = "null".toList) := by
  rcases either_cases taken with word | word
  · obtain ⟨text, first, lowered⟩ := firstWord_of_keyword rfl (by decide) word
    exact ⟨text, first, .inl lowered⟩
  · obtain ⟨text, first, lowered⟩ := firstWord_of_keyword rfl (by decide) word
    exact ⟨text, first, .inr lowered⟩

/-- No two keywords are found at one place. -/
theorem keyword_other {word other : String} (letters : word.toList.all isWordChar = true)
    (otherLetters : other.toList.all isWordChar = true) (some_letter : word.toList ≠ [])
    (differ : word.toList ≠ other.toList) {s rest : List Char}
    (taken : keyword word s = some ((), rest)) : keyword other s = none := by
  obtain ⟨text, first, lowered⟩ := firstWord_of_keyword letters some_letter taken
  rw [first.keyword_eq otherLetters, lowered, if_neg differ]

/-- The first of two words is a keyword of its own, since a blank stands behind it. -/
theorem keyword_of_keywords {first second : String} {s rest : List Char}
    (taken : keywords first second s = some ((), rest)) :
    ∃ after, keyword first s = some ((), after) ∧
      keyword second (skipGaps after) = some ((), rest) := by
  unfold keywords at taken
  split at taken
  · rename_i gaps between found
    obtain ⟨after, word, gap⟩ := Option.bind_eq_some_iff.mp found
    obtain ⟨skipped, c, others, rfl, isGap⟩ := isGap_of_run gap
    have wordEnd : atWordEnd (c :: others) = true := by
      cases isWord : isWordChar c with
      | false => rw [atWordEnd, isWord]; rfl
      | true => rw [not_isGap_of_isWordChar isWord] at isGap; cases isGap
    refine ⟨c :: others, ?_, by rwa [skipped]⟩
    unfold keyword
    rw [word]
    exact if_pos wordEnd
  · cases taken

end Token

end IssueFilter
