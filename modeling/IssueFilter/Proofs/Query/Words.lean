import IssueFilter.Query.Parser
import IssueFilter.Query.WellFormed

/-! Reading words back. A scanner takes a word off a text exactly where the word was printed if the
text after it cannot prolong the word: after names, keywords and bare texts this is a text that
begins with no word character, after quoted texts it is any text. -/
namespace IssueFilter

section Characters

variable {c : Char}

theorem isWordChar_of_isAlphanum (h : c.isAlphanum = true) : isWordChar c = true := by
  rw [isWordChar, h, Bool.true_or]

theorem isWordChar_of_isDigit (h : c.isDigit = true) : isWordChar c = true :=
  isWordChar_of_isAlphanum (by rw [Char.isAlphanum, h, Bool.or_true])

theorem isWordChar_of_isFieldChar (h : Token.isFieldChar c = true) : isWordChar c = true := by
  simp only [Token.isFieldChar, Bool.or_eq_true, decide_eq_true_eq] at h
  rcases h with (alphanumeric | rfl) | rfl
  · exact isWordChar_of_isAlphanum alphanumeric
  · decide
  · decide

theorem isWordChar_of_callNameChar (h : (c.isAlphanum || decide (c = '_')) = true) :
    isWordChar c = true := by
  simp only [Bool.or_eq_true, decide_eq_true_eq] at h
  rcases h with alphanumeric | rfl
  · exact isWordChar_of_isAlphanum alphanumeric
  · decide

theorem isFieldChar_of_isFieldStart (h : Token.isFieldStart c = true) :
    Token.isFieldChar c = true := by
  simp only [Token.isFieldStart, Bool.or_eq_true, decide_eq_true_eq] at h
  rcases h with letter | rfl
  · rw [Token.isFieldChar, Char.isAlphanum, letter]
    rfl
  · decide

theorem not_isGap_of_isWordChar (h : isWordChar c = true) : Token.isGap c = false := by
  cases gap : Token.isGap c with
  | false => rfl
  | true =>
      simp only [Token.isGap, Bool.or_eq_true, decide_eq_true_eq] at gap
      rcases gap with ((rfl | rfl) | rfl) | rfl <;> exact absurd h (by decide)

theorem isBareArgumentChar_of_isWordChar (h : isWordChar c = true) :
    Token.isBareArgumentChar c = true := by
  have other : [',', ')', '(', '"', '\''].contains c = false := by
    cases special : [',', ')', '(', '"', '\''].contains c with
    | false => rfl
    | true =>
        simp only [List.contains_iff_mem, List.mem_cons, List.not_mem_nil, or_false] at special
        rcases special with rfl | rfl | rfl | rfl | rfl <;> exact absurd h (by decide)
  rw [Token.isBareArgumentChar, not_isGap_of_isWordChar h, other]
  rfl

/-- Keywords are compared in lower case, which does not change what a word character is. -/
theorem isWordChar_toLower (c : Char) : isWordChar c.toLower = isWordChar c := by
  by_cases upper : c.val ≥ 'A'.val ∧ c.val ≤ 'Z'.val
  · have isUpper : c.isUpper = true := decide_eq_true upper
    have letter : c.isAlphanum = true := by
      change (c.isUpper || c.isLower || c.isDigit) = true
      rw [isUpper, Bool.true_or, Bool.true_or]
    have lowered : c.toLower = ⟨c.val + ('a'.val - 'A'.val), _⟩ := dif_pos upper
    have isLower : c.toLower.isLower = true := by
      have bounds : c.toLower.val ≥ 'a'.val ∧ c.toLower.val ≤ 'z'.val := by
        rw [lowered]
        grind
      change (decide (c.toLower.val ≥ 'a'.val) && decide (c.toLower.val ≤ 'z'.val)) = true
      rw [decide_eq_true bounds.1, decide_eq_true bounds.2, Bool.and_self]
    have stays : c.toLower.isAlphanum = true := by
      change (c.toLower.isUpper || c.toLower.isLower || c.toLower.isDigit) = true
      rw [isLower, Bool.or_true, Bool.true_or]
    rw [isWordChar_of_isAlphanum letter, isWordChar_of_isAlphanum stays]
  · have same : c.toLower = c := dif_neg upper
    rw [same]

theorem toLower_of_isDigit (h : c.isDigit = true) : c.toLower = c := by
  have notUpper : ¬(c.val ≥ 'A'.val ∧ c.val ≤ 'Z'.val) := by
    simp only [Char.isDigit, Bool.and_eq_true, decide_eq_true_eq] at h
    grind
  exact dif_neg notUpper

end Characters

namespace Token

/-- No character of the kind comes next. -/
def Stops (p : Char → Bool) (rest : List Char) : Prop := ∀ c ∈ rest.head?, p c = false

section

variable {p q : Char → Bool} {text rest : List Char}

theorem Stops.mono (h : Stops q rest) (weaker : ∀ c, p c = true → q c = true) : Stops p rest := by
  intro c next
  cases holds : p c with
  | false => rfl
  | true => rw [← h c next, weaker c holds]

theorem stops_of_atWordEnd (h : atWordEnd rest = true) : Stops isWordChar rest := by
  intro c next
  cases rest with
  | nil => cases next
  | cons d rest =>
      cases next
      simpa [atWordEnd] using h

theorem Stops.takeWhile_eq (h : Stops p rest) : rest.takeWhile p = [] := by
  cases rest with
  | nil => rfl
  | cons c rest => rw [List.takeWhile_cons, h c rfl, if_neg Bool.false_ne_true]

theorem Stops.dropWhile_eq (h : Stops p rest) : rest.dropWhile p = rest := by
  cases rest with
  | nil => rfl
  | cons c rest => rw [List.dropWhile_cons, h c rfl, if_neg Bool.false_ne_true]

theorem takeWhile_append (all : ∀ c ∈ text, p c = true) (stops : Stops p rest) :
    (text ++ rest).takeWhile p = text := by
  rw [List.takeWhile_append_of_pos all, stops.takeWhile_eq, List.append_nil]

theorem dropWhile_append (all : ∀ c ∈ text, p c = true) (stops : Stops p rest) :
    (text ++ rest).dropWhile p = rest := by
  rw [List.dropWhile_append_of_pos all, stops.dropWhile_eq]

theorem run_append (nonempty : text ≠ []) (all : ∀ c ∈ text, p c = true) (stops : Stops p rest) :
    run p (text ++ rest) = some (text, rest) := by
  rw [run, takeWhile_append all stops, dropWhile_append all stops, if_neg nonempty]

theorem skipGaps_word {c : Char} (h : isWordChar c = true) (rest : List Char) :
    skipGaps (c :: rest) = c :: rest :=
  Stops.dropWhile_eq (by rintro d ⟨⟩; exact not_isGap_of_isWordChar h)

theorem skipGaps_append (nonempty : text ≠ []) (all : ∀ c ∈ text, isWordChar c = true)
    (rest : List Char) : skipGaps (text ++ rest) = text ++ rest := by
  cases text with
  | nil => exact absurd rfl nonempty
  | cons c text => exact skipGaps_word (all c List.mem_cons_self) (text ++ rest)

end

section Keywords

variable {text rest : List Char}

/-- Among words a keyword reads itself only, in whatever case. -/
theorem keyword_append {word : String} (letters : word.toList.all isWordChar = true)
    (all : ∀ c ∈ text, isWordChar c = true) (wordEnd : atWordEnd rest = true) :
    keyword word (text ++ rest) =
      if text.map Char.toLower = word.toList then some ((), rest) else none := by
  rw [List.all_eq_true] at letters
  unfold keyword
  generalize word.toList = letters' at letters ⊢
  induction letters' generalizing text with
  | nil =>
      cases text with
      | nil => simp [afterWord, wordEnd]
      | cons c text => simp [afterWord, atWordEnd, all c List.mem_cons_self]
  | cons w word ih =>
      cases text with
      | nil =>
          cases rest with
          | nil => simp [afterWord]
          | cons d rest =>
              have differ : d.toLower ≠ w := by
                rintro rfl
                have isWord := letters _ List.mem_cons_self
                rw [isWordChar_toLower, stops_of_atWordEnd wordEnd d rfl] at isWord
                cases isWord
              simp [afterWord, differ]
      | cons c text =>
          have others := ih (fun d member => all d (List.mem_cons_of_mem c member))
            (fun d member => letters d (List.mem_cons_of_mem w member))
          by_cases same : c.toLower = w
          · simp only [List.cons_append, afterWord, same, if_true, others, List.map_cons,
              List.cons.injEq, true_and]
          · simp [afterWord, same]

end Keywords

section Names

variable {first other : Char → Bool} {rest : List Char}

/-- A character of one kind, then any number of another. -/
def IsName (first other : Char → Bool) (text : List Char) : Prop :=
  ∃ c others, text = c :: others ∧ first c = true ∧ ∀ d ∈ others, other d = true

theorem IsName.read {text : String} (named : IsName first other text.toList)
    (stops : Stops other rest) : name first other (text.toList ++ rest) = some (text, rest) := by
  obtain ⟨c, others, split, start, inside⟩ := named
  rw [split, List.cons_append, name, if_pos start, takeWhile_append inside stops,
    dropWhile_append inside stops, ← split, String.ofList_toList]

theorem IsName.word {text : List Char} (named : IsName first other text)
    (firstWord : ∀ c, first c = true → isWordChar c = true)
    (otherWord : ∀ c, other c = true → isWordChar c = true) :
    text ≠ [] ∧ ∀ c ∈ text, isWordChar c = true := by
  obtain ⟨c, others, rfl, start, inside⟩ := named
  refine ⟨List.cons_ne_nil c others, fun d member => ?_⟩
  rcases List.mem_cons.mp member with rfl | later
  · exact firstWord d start
  · exact otherWord d (inside d later)

theorem isName_of_isFieldName {field : String} (named : isFieldName field = true) :
    IsName isFieldStart isFieldChar field.toList := by
  unfold isFieldName at named
  split at named
  · cases named
  · rename_i c others split
    rw [Bool.and_eq_true, List.all_eq_true] at named
    exact ⟨c, others, split, named⟩

theorem isName_of_isCallName {called : String} (named : isCallName called = true) :
    IsName Char.isAlpha (fun c => c.isAlphanum || c = '_') called.toList := by
  unfold isCallName at named
  split at named
  · cases named
  · rename_i c others split
    rw [Bool.and_eq_true, List.all_eq_true] at named
    exact ⟨c, others, split, named⟩

theorem word_of_isFieldName {field : String} (named : isFieldName field = true) :
    field.toList ≠ [] ∧ ∀ c ∈ field.toList, isWordChar c = true :=
  (isName_of_isFieldName named).word
    (fun _ start => isWordChar_of_isFieldChar (isFieldChar_of_isFieldStart start))
    fun _ => isWordChar_of_isFieldChar

theorem word_of_isCallName {called : String} (named : isCallName called = true) :
    called.toList ≠ [] ∧ ∀ c ∈ called.toList, isWordChar c = true :=
  (isName_of_isCallName named).word
    (fun _ letter => isWordChar_of_isAlphanum (by rw [Char.isAlphanum, letter, Bool.true_or]))
    fun _ => isWordChar_of_callNameChar

theorem field_blank {field : String} (named : isFieldName field = true) (rest : List Char) :
    Token.field (field.toList ++ ' ' :: rest) = some (field, ' ' :: rest) :=
  (isName_of_isFieldName named).read (by rintro _ ⟨⟩; rfl)

theorem callName_open {called : String} (named : isCallName called = true) (rest : List Char) :
    callName (called.toList ++ '(' :: rest) = some (called, '(' :: rest) :=
  (isName_of_isCallName named).read (by rintro _ ⟨⟩; rfl)

end Names

section Texts

variable {text rest : List Char}

/-- Every backslash and every double quote is behind a backslash, so the first quote that is not is
the closing one. -/
theorem decode_encode (text rest : List Char) :
    Quoted.decode '"' (Quoted.encode text ++ '"' :: rest) = some (text, rest) := by
  induction text with
  | nil => rfl
  | cons c text ih =>
      by_cases special : c = '\\' ∨ c = '"'
      · simp [Quoted.encode, special, Quoted.decode, ih]
      · obtain ⟨noSlash, noQuote⟩ := not_or.mp special
        simp [Quoted.encode, Quoted.decode, noSlash, noQuote, ih]

theorem string_quoted (text rest : List Char) :
    string (Quoted.chars text ++ rest) = some (String.ofList text, rest) := by
  rw [Quoted.chars, List.cons_append, List.append_assoc, string, List.singleton_append,
    decode_encode]
  rfl

/-- A text without quotes at its beginning is not a quoted one. -/
theorem string_of_bare {c : Char} (bare : isBareArgumentChar c = true) (rest : List Char) :
    string (c :: rest) = none := by
  unfold string
  split
  · rename_i same
    cases same
    exact absurd bare (by decide)
  · rename_i same
    cases same
    exact absurd bare (by decide)
  · rfl

theorem number_chars (n : UInt64) (wordEnd : atWordEnd rest = true) :
    number (Numeral.chars n ++ rest) = some (.number n, rest) := by
  have digits : ∀ c ∈ Numeral.chars n, c.isDigit = true :=
    fun _ => Numeral.isDigit_of_mem_chars
  have stops : Stops Char.isDigit rest :=
    (stops_of_atWordEnd wordEnd).mono fun _ => isWordChar_of_isDigit
  rw [number, run_append (Numeral.chars_ne_nil n) digits stops]
  simp only [wordEnd, if_true, Numeral.unsigned?_chars]

theorem word_append (nonempty : text ≠ []) (all : ∀ c ∈ text, isWordChar c = true)
    (wordEnd : atWordEnd rest = true) :
    word (text ++ rest) = some (.text (String.ofList text), rest) := by
  rw [word, run_append nonempty all (stops_of_atWordEnd wordEnd)]
  rfl

/-- What is left of a word without some of its characters still begins with a word character. -/
theorem not_atWordEnd_dropWhile {p : Char → Bool} (all : ∀ c ∈ text, isWordChar c = true)
    (some_other : text.all p = false) : atWordEnd ((text ++ rest).dropWhile p) = false := by
  induction text with
  | nil => cases some_other
  | cons c text ih =>
      rw [List.cons_append, List.dropWhile_cons]
      cases holds : p c with
      | false => simp [atWordEnd, all c List.mem_cons_self]
      | true =>
          rw [List.all_cons, holds, Bool.true_and] at some_other
          exact ih (fun d member => all d (List.mem_cons_of_mem c member)) some_other

theorem number_of_word (all : ∀ c ∈ text, isWordChar c = true)
    (not_digits : text.all Char.isDigit = false) : number (text ++ rest) = none := by
  unfold number run
  split
  · rename_i taken
    split at taken
    · cases taken
    · cases taken
      rw [not_atWordEnd_dropWhile all not_digits]
      rfl
  · rfl

theorem emptyWord_of_other (all : ∀ c ∈ text, isWordChar c = true)
    (notEmpty : text.map Char.toLower ≠ "empty".toList)
    (notNull : text.map Char.toLower ≠ "null".toList) (wordEnd : atWordEnd rest = true) :
    emptyWord (text ++ rest) = none := by
  rw [emptyWord, either, keyword_append rfl all wordEnd, if_neg notEmpty,
    keyword_append rfl all wordEnd, if_neg notNull]
  rfl

theorem emptyWord_of_word (all : ∀ c ∈ text, isWordChar c = true)
    (unreserved : text.map Char.toLower ∉ reservedWords) (wordEnd : atWordEnd rest = true) :
    emptyWord (text ++ rest) = none := by
  have other : ∀ word, reservedWords.contains word = true → text.map Char.toLower ≠ word := by
    rintro word reserved rfl
    exact unreserved (List.contains_iff_mem.mp reserved)
  exact emptyWord_of_other all (other _ rfl) (other _ rfl) wordEnd

end Texts

section Calls

variable {text rest : List Char}

/-- No parenthesis comes next, so that a name before it is not the name of a call. -/
def NoCall (rest : List Char) : Prop := (skipGaps rest).head? ≠ some '('

theorem skipGaps_bare {c : Char} (bare : isBareArgumentChar c = true) (rest : List Char) :
    skipGaps (c :: rest) = c :: rest := by
  have noGap : isGap c = false := by
    rw [isBareArgumentChar, Bool.and_eq_true, Bool.not_eq_true'] at bare
    exact bare.1
  exact Stops.dropWhile_eq (by rintro d ⟨⟩; exact noGap)

theorem noCall_append (all : ∀ c ∈ text, isBareArgumentChar c = true) (noCall : NoCall rest) :
    NoCall (text ++ rest) := by
  cases text with
  | nil => exact noCall
  | cons c text =>
      have bare := all c List.mem_cons_self
      rw [NoCall, List.cons_append, skipGaps_bare bare]
      rintro ⟨⟩
      exact absurd bare (by decide)

theorem noCall_dropWhile {p : Char → Bool} (all : ∀ c ∈ text, isBareArgumentChar c = true)
    (stops : Stops p rest) (noCall : NoCall rest) : NoCall ((text ++ rest).dropWhile p) := by
  induction text with
  | nil => rwa [List.nil_append, stops.dropWhile_eq]
  | cons c text ih =>
      rw [List.cons_append, List.dropWhile_cons]
      split
      · exact ih fun d member => all d (List.mem_cons_of_mem c member)
      · exact noCall_append all noCall

end Calls

end Token

end IssueFilter
