import IssueFilter.Proofs.Parser.Parallel
import IssueFilter.Proofs.Query.Conditions
import IssueFilter.Query.Building

/-! The words of the grammar as leaves of a parse tree. The text of a leaf is all that a word is read
from: what the reader takes a word for can be built from its leaf. -/
namespace IssueFilter

namespace Quoted

theorem inside_append (quote : Char) (s : List Char) : (inside quote s).1 ++ (inside quote s).2 = s := by
  fun_induction inside quote s with
  | case1 => rfl
  | case2 c s text after same ih =>
      rw [same] at ih
      rw [List.cons_append, List.cons_append, ih]
  | case3 => rfl
  | case4 c s _ _ text after same ih =>
      rw [same] at ih
      rw [List.cons_append, ih]

theorem unescape_cons {c : Char} (plain : c ≠ '\\') (s : List Char) :
    unescape (c :: s) = c :: unescape s := by
  rw [unescape]
  · exact if_neg plain
  · rintro d rest rfl
    exact absurd rfl plain

/-- A quoted text is what stands inside the quotes, without its backslashes, if the closing quote is
there. -/
theorem decode_eq_inside (quote : Char) (s : List Char) :
    decode quote s = ((Parser.char quote : Parser Rule Unit).read (inside quote s).2).map fun answer =>
      (unescape (inside quote s).1, answer.2) := by
  fun_induction decode quote s with
  | case1 => rfl
  | case2 c s ih =>
      rw [ih, Option.map_map]
      rfl
  | case3 s other =>
      have stops : inside quote (quote :: s) = ([], quote :: s) := by
        rw [inside]
        · exact if_pos (.inl rfl)
        · exact other
      rw [stops, Parser.read_char_self]
      rfl
  | case4 s other elsewhere =>
      have stops : inside quote ('\\' :: s) = ([], '\\' :: s) := by
        rw [inside]
        · exact if_pos (.inr rfl)
        · exact other
      rw [stops, Parser.read_char_other elsewhere]
      rfl
  | case5 c s other elsewhere plain ih =>
      have more : inside quote (c :: s) = (c :: (inside quote s).1, (inside quote s).2) := by
        rw [inside]
        · exact if_neg (not_or.mpr ⟨elsewhere, plain⟩)
        · exact other
      rw [more, ih, Option.map_map, unescape_cons plain]
      rfl

end Quoted

namespace Token

variable {s text rest : List Char}

theorem take_of_split (split : s = text ++ rest) : s.take (s.length - rest.length) = text := by
  rw [split, List.length_append, Nat.add_sub_cancel, List.take_left]

theorem take_of_name {first other : Char → Bool} {read : String}
    (taken : name first other s = some (read, rest)) :
    String.ofList (s.take (s.length - rest.length)) = read := by
  rw [take_of_split (name_split taken).1, String.ofList_toList]

theorem take_of_run {p : Char → Bool} (taken : run p s = some (text, rest)) :
    s.take (s.length - rest.length) = text :=
  take_of_split (run_split taken).1

theorem take_of_bareArgument {read : String} (taken : bareArgument s = some (read, rest)) :
    String.ofList (s.take (s.length - rest.length)) = read := by
  obtain ⟨answer, found, same⟩ := Option.map_eq_some_iff.mp taken
  cases same
  rw [take_of_run found]

theorem take_of_word {read : Literal} (taken : word s = some (read, rest)) :
    Literal.text (String.ofList (s.take (s.length - rest.length))) = read := by
  obtain ⟨answer, found, same⟩ := Option.map_eq_some_iff.mp taken
  cases same
  rw [take_of_run found]

theorem take_of_number {read : Literal} (taken : number s = some (read, rest)) :
    Tree.number ⟨.number, s.take (s.length - rest.length), []⟩ = read := by
  unfold number at taken
  split at taken
  · rename_i found
    split at taken
    · cases taken
      rw [take_of_run found]
      rfl
    · cases taken
  · cases taken

theorem take_of_comparison {read : Operator} (taken : comparison s = some (read, rest)) :
    Tree.operator ⟨.comparison, s.take (s.length - rest.length), []⟩ = .ok read := by
  obtain ⟨compares, split⟩ := comparison_split taken
  have symbols : ∀ operator ∈ comparisons,
      (comparisons.find? fun other => other.symbol = operator.symbol) = some operator := by decide
  simp only [Tree.operator, Tree.string, take_of_split split, String.ofList_toList,
    symbols read compares]

theorem take_of_keyword {word : String} (taken : keyword word s = some ((), rest)) :
    (s.take (s.length - rest.length)).map Char.toLower = word.toList := by
  obtain ⟨text, split, lowered⟩ := keyword_split taken
  rw [take_of_split split, lowered]

theorem take_of_direction {read : Direction} (taken : direction s = some (read, rest)) :
    Tree.direction ⟨.direction, s.take (s.length - rest.length), []⟩ = read := by
  unfold direction at taken
  split at taken
  · rename_i ascending
    cases taken
    rw [Tree.direction, take_of_keyword ascending]
    rfl
  · obtain ⟨answer, descending, same⟩ := Option.map_eq_some_iff.mp taken
    cases same
    rw [Tree.direction, take_of_keyword descending]
    rfl

end Token

namespace TreeGrammar

open IssueFilter.Parser

variable {α β : Type}

/-- One node of the rule, from which the value is built. -/
def Gives (name : Rule) (build : Tree → Except ParseError α) (trees : List Tree) (a : α) : Prop :=
  ∃ text inner, trees = [⟨name, text, inner⟩] ∧ build ⟨name, text, inner⟩ = .ok a

theorem read_node (name : Rule) (inside : Parser Rule (List Tree)) (s : List Char) :
    (node name inside).read s = (inside.read s).map fun answer =>
      ([⟨name, s.take (s.length - answer.2.length), answer.1⟩], answer.2) := by
  change ((inside.read s).map _).bind _ = _
  cases inside.read s with
  | none => rfl
  | some answer => rfl

theorem trace_node (name : Rule) (inside : Parser Rule (List Tree)) (s : List Char) (t : Trace Rule) :
    (node name inside).trace s t = (rule name inside).trace s t := by
  have taken : (spanned (rule name inside)).read s = (inside.read s).map fun answer =>
      ((s.take (s.length - answer.2.length), answer.1), answer.2) := rfl
  rw [node, trace_bind, taken]
  cases inside.read s with
  | none => rfl
  | some answer => rfl

/-- A node goes along with the rule; what is built from it depends on its text and on what is inside. -/
theorem parallel_span {R : List Tree → α → Prop} {name : Rule} {build : Tree → Except ParseError α}
    {inside : Parser Rule (List Tree)} {q : Parser Rule α} (h : Parallel R inside q)
    (builds : ∀ s inner a rest, q.read s = some (a, rest) → R inner a →
      build ⟨name, s.take (s.length - rest.length), inner⟩ = .ok a) :
    Parallel (Gives name build) (node name inside) (rule name q) where
  traces s t := by
    rw [trace_node]
    exact (h.rule name).traces s t
  reads s := by
    rw [read_node, read_rule]
    rcases h.reads s with ⟨left, right⟩ | ⟨inner, a, rest, left, right, related⟩
    · rw [left]
      exact .inl ⟨rfl, right⟩
    · rw [left]
      exact .inr ⟨_, a, rest, rfl, right, _, inner, rfl, builds s inner a rest right related⟩

theorem parallel_node {name : Rule} {build : Tree → Except ParseError α}
    {inside : Parser Rule (List Tree)} {q : Parser Rule α}
    (h : Parallel (fun inner a => ∀ text, build ⟨name, text, inner⟩ = .ok a) inside q) :
    Parallel (Gives name build) (node name inside) (rule name q) :=
  parallel_span h fun _ _ _ _ _ built => built _

theorem parallel_leaf {name : Rule} {scanner : List Char → Option (α × List Char)}
    {build : Tree → Except ParseError α}
    (builds : ∀ {s a rest}, scanner s = some (a, rest) →
      build ⟨name, s.take (s.length - rest.length), []⟩ = .ok a) :
    Parallel (Gives name build) (leaf name scanner) (token name scanner) := by
  have inside : Parallel (fun inner (_ : α) => inner = [])
      (do let _ ← scan scanner; return [] : Parser Rule (List Tree)) (scan scanner) :=
    .map_left (.refl _) fun _ _ _ => rfl
  refine parallel_span inside fun s inner a rest taken nothing => ?_
  rw [nothing]
  exact builds taken

/-- A word that only has to be there. -/
theorem parallel_word {name : Rule} {scanner : List Char → Option (Unit × List Char)} :
    Parallel (Gives name fun _ => .ok ()) (leaf name scanner) (token name scanner) :=
  parallel_leaf fun _ => rfl

theorem trace_bind_of_silent {p : Parser Rule α} {f : α → Parser Rule β}
    (first : ∀ s t, p.trace s t = t) (next : ∀ a s t, (f a).trace s t = t) (s : List Char)
    (t : Trace Rule) : (p >>= f).trace s t = t := by
  rw [trace_bind, first]
  cases p.read s with
  | none => rfl
  | some answer => exact next answer.1 answer.2 t

section Strings

variable (quote : Char) (name : Rule) (s : List Char)

/-- Behind a quote a text is taken by the tree and by the reader, or by neither. -/
theorem reads_quoted (reader : Token.string (quote :: s) = (Quoted.decode quote s).map fun answer =>
      (String.ofList answer.1, answer.2)) :
    ((quoted quote name).read (quote :: s) = none ∧ Token.string (quote :: s) = none) ∨
      ∃ inner text rest, (quoted quote name).read (quote :: s) = some (inner, rest) ∧
        Token.string (quote :: s) = some (text, rest) ∧
        ∀ around, Except.ok (Tree.unquoted ⟨.string, around, inner⟩) =
          (.ok text : Except ParseError _) := by
  have between : (leaf name fun s => some (Quoted.inside quote s)).read s =
      some ([⟨name, (Quoted.inside quote s).1, []⟩], (Quoted.inside quote s).2) := by
    rw [leaf, read_node]
    change some ([(⟨name, _, []⟩ : Tree)], _) = _
    rw [Token.take_of_split (Quoted.inside_append quote s).symm]
  rw [quoted, read_bind, read_char_self, Option.bind_some, read_bind, between, Option.bind_some,
    read_bind, reader, Quoted.decode_eq_inside]
  cases (char quote : Parser Rule Unit).read (Quoted.inside quote s).2 with
  | none => exact .inl ⟨rfl, rfl⟩
  | some answer => exact .inr ⟨_, _, answer.2, rfl, rfl, fun _ => rfl⟩

theorem read_quoted_other {c : Char} (other : c ≠ quote) : (quoted quote name).read (c :: s) = none := by
  rw [quoted, read_bind, read_char_other other, Option.bind_none]

/-- What stands between quotes never fails, and a quote is no rule. -/
theorem trace_quoted (t : Trace Rule) : (quoted quote name).trace s t = t := by
  have char : ∀ s t, (char quote : Parser Rule Unit).trace s t = t := fun _ _ => rfl
  have inner : ∀ s t, (leaf name fun s => some (Quoted.inside quote s)).trace s t = t := by
    intro s t
    rw [leaf, trace_node]
    rfl
  refine trace_bind_of_silent char (fun _ => ?_) s t
  refine trace_bind_of_silent inner fun _ => ?_
  exact trace_bind_of_silent char fun _ _ _ => rfl

theorem parallel_string : Parallel (Gives .string fun tree => .ok tree.unquoted) string
    (token .string Token.string) := by
  refine parallel_node ⟨fun s t => ?_, fun s => ?_⟩
  · change ((quoted '"' _).orElse ((quoted '\'' _).orElse _)).trace s t = t
    rw [trace_orElse, trace_quoted, trace_orElse, trace_quoted]
    cases (quoted '"' .doubleQuoted).read s with
    | none => cases (quoted '\'' .singleQuoted).read s <;> rfl
    | some answer => rfl
  · cases s with
    | nil => exact .inl ⟨rfl, rfl⟩
    | cons c s =>
        rw [read_firstOf_cons, read_firstOf_single]
        by_cases double : c = '"'
        · subst double
          rw [read_quoted_other '\'' _ s (by decide), Option.or_none]
          exact reads_quoted '"' .doubleQuoted s rfl
        · rw [read_quoted_other '"' _ s double, Option.none_or]
          by_cases single : c = '\''
          · subst single
            exact reads_quoted '\'' .singleQuoted s rfl
          · refine .inl ⟨read_quoted_other '\'' _ s single, ?_⟩
            change Token.string (c :: s) = none
            unfold Token.string
            split
            · rename_i same
              exact absurd (List.cons.inj same).1 double
            · rename_i same
              exact absurd (List.cons.inj same).1 single
            · rfl

end Strings

/-- One node, of whatever rule, from which the value is built. -/
def GivesOne (build : Tree → Except ParseError α) (trees : List Tree) (a : α) : Prop :=
  ∃ tree, trees = [tree] ∧ build tree = .ok a

theorem Gives.one {name : Rule} {build : Tree → Except ParseError α} {trees : List Tree} {a : α}
    {build' : Tree → Except ParseError β} {b : β} (given : Gives name build trees a)
    (same : ∀ text inner, build ⟨name, text, inner⟩ = .ok a → build' ⟨name, text, inner⟩ = .ok b) :
    GivesOne build' trees b := by
  obtain ⟨text, inner, rfl, built⟩ := given
  exact ⟨_, rfl, same text inner built⟩

theorem parallel_argument : Parallel (GivesOne Tree.argument) argument Grammar.argument := by
  have bare : Parallel (Gives .bareArgument fun tree => .ok tree.string)
      (leaf .bareArgument Token.bareArgument) (token .bareArgument Token.bareArgument) :=
    parallel_leaf fun taken => congrArg Except.ok (Token.take_of_bareArgument taken)
  refine .firstOf_cons (parallel_string.mono ?_) (.firstOf_cons (bare.mono ?_) .firstOf_nil)
  · exact fun _ _ given => given.one fun _ _ built => built
  · exact fun _ _ given => given.one fun _ _ built => built

end TreeGrammar

end IssueFilter
