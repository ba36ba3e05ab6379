import IssueFilter.Proofs.Parser.Extending
import IssueFilter.Proofs.Query.Scanning

/-! Words in front of a closing parenthesis. No word goes on with a parenthesis, so every scanner
but that for quoted texts is blind to what follows from a closing parenthesis on. A quoted text is
kept: what may change is that a quote that is never closed finds another one behind the parenthesis.
-/
namespace IssueFilter.Token

open IssueFilter.Parser

variable {s rest more : List Char}

section Characters

variable {p : Char → Bool}

theorem takeWhile_close (closes : p ')' = false) (s more : List Char) :
    (s ++ ')' :: more).takeWhile p = s.takeWhile p := by
  induction s with
  | nil => rw [List.nil_append, List.takeWhile_cons, closes, if_neg Bool.false_ne_true]; rfl
  | cons c s ih => rw [List.cons_append, List.takeWhile_cons, List.takeWhile_cons, ih]

theorem dropWhile_close (closes : p ')' = false) (s more : List Char) :
    (s ++ ')' :: more).dropWhile p = s.dropWhile p ++ ')' :: more := by
  induction s with
  | nil => rw [List.nil_append, List.dropWhile_cons, closes, if_neg Bool.false_ne_true]; rfl
  | cons c s ih =>
      rw [List.cons_append, List.dropWhile_cons, List.dropWhile_cons, ih]
      cases p c with
      | true => rfl
      | false => rfl

theorem skipGaps_close (s more : List Char) :
    skipGaps (s ++ ')' :: more) = skipGaps s ++ ')' :: more := dropWhile_close rfl s more

theorem atWordEnd_close (s more : List Char) : atWordEnd (s ++ ')' :: more) = atWordEnd s := by
  cases s with
  | nil => rfl
  | cons c s => rfl

theorem FirstWord.close {text : List Char} (h : FirstWord s text rest) (more : List Char) :
    FirstWord (s ++ ')' :: more) text (rest ++ ')' :: more) where
  split := by rw [h.split, List.append_assoc]
  nonempty := h.nonempty
  word := h.word
  wordEnd := (atWordEnd_close rest more).trans h.wordEnd

theorem blind_run (closes : p ')' = false) : Blind (')' :: more) (run p) := by
  intro s
  unfold run
  rw [takeWhile_close closes, dropWhile_close closes]
  split
  · rfl
  · rfl

theorem blind_name {first other : Char → Bool} (start : first ')' = false)
    (closes : other ')' = false) : Blind (')' :: more) (name first other) := by
  intro s
  cases s with
  | nil => simp only [List.nil_append, name, start, Bool.false_eq_true, if_false, Option.map_none]
  | cons c s =>
      simp only [List.cons_append, name, takeWhile_close closes, dropWhile_close closes]
      split
      · rfl
      · rfl

end Characters

section Keywords

theorem afterWord_close {word : List Char} (letters : ')' ∉ word) (s more : List Char) :
    afterWord word (s ++ ')' :: more) = (afterWord word s).map (· ++ ')' :: more) := by
  induction word generalizing s with
  | nil => rfl
  | cons w word ih =>
      rw [List.mem_cons, not_or] at letters
      cases s with
      | nil =>
          have differ : (')' : Char).toLower ≠ w := letters.1
          simp only [List.nil_append, afterWord, differ, if_false, Option.map_none]
      | cons c s =>
          simp only [List.cons_append, afterWord, ih letters.2]
          split
          · rfl
          · rfl

theorem blind_keyword {word : String} (letters : ')' ∉ word.toList) :
    Blind (')' :: more) (keyword word) := by
  intro s
  unfold keyword
  rw [afterWord_close letters]
  cases afterWord word.toList s with
  | none => rfl
  | some rest =>
      simp only [Option.map_some, atWordEnd_close]
      split
      · rfl
      · rfl

theorem blind_keywords {first second : String} (letters : ')' ∉ first.toList)
    (others : ')' ∉ second.toList) : Blind (')' :: more) (keywords first second) := by
  intro s
  unfold keywords
  rw [afterWord_close letters]
  cases afterWord first.toList s with
  | none => rfl
  | some rest =>
      rw [Option.map_some, Option.bind_some, blind_run rfl rest, Option.bind_some]
      cases run isGap rest with
      | none => rfl
      | some answer => exact blind_keyword others answer.2

theorem blind_symbol {text : String} (signs : ')' ∉ text.toList) :
    Blind (')' :: more) (symbol text) := by
  intro s
  have same : text.toList.isPrefixOf (s ++ ')' :: more) = text.toList.isPrefixOf s := by
    generalize text.toList = text at signs
    induction text generalizing s with
    | nil => simp
    | cons c text ih =>
        rw [List.mem_cons, not_or] at signs
        cases s with
        | nil =>
            have differ : (c == ')') = false := beq_eq_false_iff_ne.mpr (Ne.symm signs.1)
            simp [List.isPrefixOf, differ]
        | cons d s => simp only [List.cons_append, List.isPrefixOf, ih s signs.2]
  unfold symbol
  rw [same]
  split
  · rename_i begins
    have long := (List.isPrefixOf_iff_prefix.mp begins).length_le
    rw [List.drop_append_of_le_length long]
    rfl
  · rfl

theorem blind_either {f g : List Char → Option (Unit × List Char)} (first : Blind (')' :: more) f)
    (second : Blind (')' :: more) g) : Blind (')' :: more) (either f g) := by
  intro s
  unfold either
  rw [first s, second s]
  cases f s with
  | none => rfl
  | some answer => rfl

theorem blind_andWord : Blind (')' :: more) andWord :=
  blind_either (blind_keyword (by decide)) (blind_symbol (by decide))

theorem blind_orWord : Blind (')' :: more) orWord :=
  blind_either (blind_keyword (by decide)) (blind_symbol (by decide))

theorem blind_notWord : Blind (')' :: more) notWord :=
  blind_either (blind_keyword (by decide)) (blind_symbol (by decide))

theorem blind_emptyWord : Blind (')' :: more) emptyWord :=
  blind_either (blind_keyword (by decide)) (blind_keyword (by decide))

theorem blind_comparison : Blind (')' :: more) comparison := by
  have signs : ∀ operator ∈ comparisons, ')' ∉ operator.symbol.toList := by decide
  intro s
  unfold comparison
  generalize comparisons = operators at signs ⊢
  induction operators with
  | nil => rfl
  | cons operator operators ih =>
      rw [List.forall_mem_cons] at signs
      rw [List.findSome?_cons, List.findSome?_cons, blind_symbol signs.1 s]
      cases symbol operator.symbol s with
      | none => exact ih signs.2
      | some answer => rfl

end Keywords

section Texts

theorem blind_field : Blind (')' :: more) field := blind_name rfl rfl

theorem blind_callName : Blind (')' :: more) callName := blind_name rfl rfl

theorem blind_bareArgument : Blind (')' :: more) bareArgument := by
  intro s
  unfold bareArgument
  rw [blind_run rfl s]
  cases run isBareArgumentChar s with
  | none => rfl
  | some answer => rfl

theorem blind_word : Blind (')' :: more) word := by
  intro s
  unfold word
  rw [blind_run rfl s]
  cases run isWordChar s with
  | none => rfl
  | some answer => rfl

theorem blind_number : Blind (')' :: more) number := by
  intro s
  unfold number
  rw [blind_run rfl s]
  cases run Char.isDigit s with
  | none => rfl
  | some answer =>
      simp only [Option.map_some, atWordEnd_close]
      split
      · rfl
      · rfl

theorem decode_cons {quote c : Char} (noSlash : c ≠ '\\') (s : List Char) :
    Quoted.decode quote (c :: s) = if c = quote then some ([], s) else
      (Quoted.decode quote s).map fun answer => (c :: answer.1, answer.2) := by
  rw [Quoted.decode, if_neg noSlash]
  rintro _ _ rfl
  exact absurd rfl noSlash

/-- The closing quote is found before the end of the text. -/
theorem decode_append {quote : Char} (noSlash : quote ≠ '\\') {text : List Char}
    (taken : Quoted.decode quote s = some (text, rest)) (tail : List Char) :
    Quoted.decode quote (s ++ tail) = some (text, rest ++ tail) := by
  fun_induction Quoted.decode quote s generalizing text with
  | case1 => cases taken
  | case2 c s ih =>
      obtain ⟨answer, found, same⟩ := Option.map_eq_some_iff.mp taken
      cases same
      rw [List.cons_append, List.cons_append, Quoted.decode, ih found]
      rfl
  | case3 s _ =>
      cases taken
      rw [List.cons_append, decode_cons noSlash, if_pos rfl]
  | case4 => cases taken
  | case5 c s _ noQuote other ih =>
      obtain ⟨answer, found, same⟩ := Option.map_eq_some_iff.mp taken
      cases same
      rw [List.cons_append, decode_cons other, if_neg noQuote, ih found]
      rfl

theorem keeps_string (tail : List Char) (Q : List Char → Prop) : Keeps tail Q string := by
  intro s a rest taken _
  unfold string at taken
  split at taken
  · obtain ⟨answer, found, same⟩ := Option.map_eq_some_iff.mp taken
    cases same
    rw [List.cons_append, string, decode_append (by decide) found]
    rfl
  · obtain ⟨answer, found, same⟩ := Option.map_eq_some_iff.mp taken
    cases same
    rw [List.cons_append, string, decode_append (by decide) found]
    rfl
  · cases taken

end Texts

end IssueFilter.Token
