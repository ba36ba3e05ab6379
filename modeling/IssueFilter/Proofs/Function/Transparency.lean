import IssueFilter.Proofs.Function.ProjectArgument
import IssueFilter.Proofs.Function.Sanitising
import IssueFilter.Proofs.Message.Channels
import IssueFilter.Proofs.Runner.OneFunction

/-! What sanitising leaves as it is. As long as no key of a project reads as a number, the argument
that is shown means the project that was meant, or none if none was. So a call is judged in the same
way before and after; and its sub-query, which is all that evaluation looks at, is not touched. -/
namespace IssueFilter

theorem Numeral.isDigit_of_digits? {s : List Char} {n : Nat} (read : digits? s = some n) :
    ∀ c ∈ s, c.isDigit = true := by
  unfold digits? at read
  split at read
  · rename_i digits
    exact List.all_eq_true.mp (Bool.and_eq_true_iff.mp digits).2
  · cases read

/-- A numeral has no letters: it reads as a number in upper case as well. -/
theorem Numeral.upper_of_ofText? {text : String} {id : UInt64} (read : ofText? text = some id) :
    Ascii.upper text = text := by
  have same : ∀ c ∈ text.toList, c.toUpper = c := by
    unfold ofText? unsigned? at read
    intro c member
    split at read
    · rename_i rest plus
      obtain ⟨n, digits, -⟩ := Option.bind_eq_some_iff.mp read
      rw [plus, List.mem_cons] at member
      rcases member with rfl | inside
      · rfl
      · exact Ascii.toUpper_of_isDigit (isDigit_of_digits? digits c inside)
    · obtain ⟨n, digits, -⟩ := Option.bind_eq_some_iff.mp read
      exact Ascii.toUpper_of_isDigit (isDigit_of_digits? digits c member)
  rw [Ascii.upper, List.map_congr_left same, List.map_id', String.ofList_toList]

theorem Numeral.ofText?_text (n : UInt64) : ofText? (text n) = some n := by
  rw [ofText?, text, String.toList_ofList, unsigned?_chars]

namespace Index

/-- No key of a stored project reads as a number. -/
def KeysAreNoNumerals (index : Index) : Prop :=
  ∀ id project, index.projects.get? id = some project → Numeral.ofText? project.key = none

section Arguments

variable {m : Type → Type} [Monad m] (loggedIn : m Viewer) (catalog : Catalog) {index : Index}
  (h : index.Consistent) (keys : index.KeysAreNoNumerals)
include h keys

theorem Consistent.ofText?_of_key {argument : String} {project : Project}
    (named : index.projectByKey? argument = some project) : Numeral.ofText? argument = none := by
  obtain ⟨stored, key⟩ := (h.projectByKey?_iff argument project).mp named
  cases read : Numeral.ofText? argument with
  | none => rfl
  | some id =>
      have numeral := keys project.id project stored
      rw [key, Numeral.upper_of_ofText? read, read] at numeral
      cases numeral

/-- The argument that is shown means the same project, whoever it is shown to. -/
theorem Consistent.resolveProject_shownArgument (viewer : Viewer) (argument : String) :
    SubQuery.resolveProject (index.host loggedIn catalog) (index.shownArgument viewer argument) =
      SubQuery.resolveProject (index.host loggedIn catalog) argument := by
  rcases index.shownArgument_cases viewer argument with shown | ⟨project, named, hidden⟩
  · rw [shownArgument_shown shown]
  · have stored := ((h.projectByKey?_iff argument project).mp named).1
    rw [shownArgument_hidden named hidden, SubQuery.resolveProject, SubQuery.resolveProject,
      Numeral.ofText?_text, h.ofText?_of_key keys named]
    exact stored.trans named.symm

end Arguments

end Index

namespace SubQuery

section Messages

variable {m : Type → Type} {host : Host m} {config : FunctionConfig} {viewer : Viewer}

theorem checkArgument_ok_congr {s t : String} (same : resolveProject host s = resolveProject host t)
    (project : Project) :
    checkArgument host viewer s = .ok project ↔ checkArgument host viewer t = .ok project := by
  unfold checkArgument
  rw [same]
  cases resolveProject host t with
  | none => simp
  | some found => by_cases may : host.canBrowse viewer found = true <;> simp [may]

/-- What an argument adds depends on the project that it means, up to the wording. -/
theorem noteArgument_sameChannels {a b : MessageSet} (h : a.SameChannels b) {s t : String}
    (same : resolveProject host s = resolveProject host t) :
    (noteArgument host config viewer a s).SameChannels (noteArgument host config viewer b t) := by
  have alike : ∀ project, checkArgument host viewer s = .ok project ↔
      checkArgument host viewer t = .ok project := checkArgument_ok_congr same
  unfold noteArgument
  cases checked : checkArgument host viewer s with
  | ok project =>
      rw [(alike project).mp checked]
      exact h
  | error e =>
      cases again : checkArgument host viewer t with
      | ok project =>
          rw [(alike project).mpr again] at checked
          cases checked
      | error f =>
          cases config.projectArguments with
          | ignore => exact h
          | warn => exact h.addWarning _ _
          | strict => exact h.addError _ _

theorem foldl_noteArgument_sameChannels {a b : MessageSet} (h : a.SameChannels b)
    {f : String → String} (same : ∀ s, resolveProject host (f s) = resolveProject host s)
    (arguments : List String) :
    ((arguments.map f).foldl (noteArgument host config viewer) a).SameChannels
      (arguments.foldl (noteArgument host config viewer) b) := by
  induction arguments generalizing a b with
  | nil => exact h
  | cons argument arguments ih => exact ih (noteArgument_sameChannels h (same argument))

end Messages

section Values

variable {m : Type → Type} [Monad m] [LawfulMonad m] {host : Host m} {config : FunctionConfig}

/-- A call stands for the values that its sub-query has, whatever its other arguments are. -/
theorem values_congr {call other : Call}
    (same : ∀ query, other.Asks host.parse query ↔ call.Asks host.parse query) (viewer : Viewer) :
    List.map CallValue.value <$> values host config viewer other =
      List.map CallValue.value <$> values host config viewer call := by
  cases compiled : compile host call with
  | ok query =>
      have asks := (same query).mpr ((compile_ok_iff host call query).mp compiled)
      have again : compile host other = .ok query := (compile_ok_iff host other query).mpr asks
      simp only [values, tryValues, compiled, again, map_bind, bind_assoc]
      congr 1
      funext user
      congr 1
      funext answer
      cases answer with
      | ok results => simp only [pure_bind, map_pure, List.map_map, Function.comp_def]
      | error e => simp only [pure_bind]
  | error e =>
      cases again : compile host other with
      | ok query =>
          have asks := (same query).mp ((compile_ok_iff host other query).mp again)
          rw [(compile_ok_iff host call query).mpr asks] at compiled
          cases compiled
      | error e => simp only [values, tryValues, compiled, again, pure_bind]

end Values

end SubQuery

namespace Index

theorem asks_shownArguments (index : Index) (viewer : Viewer) (call : Call) (parse : QueryParser)
    (query : Query) : (call.withArgs (index.shownArguments viewer call.args)).Asks parse query ↔
      call.Asks parse query := by
  obtain ⟨name, args⟩ := call
  cases args with
  | nil => rfl
  | cons text arguments =>
      unfold Call.Asks
      constructor
      · rintro ⟨_, _, ⟨⟩, read⟩
        exact ⟨text, arguments, rfl, read⟩
      · rintro ⟨_, _, ⟨⟩, read⟩
        exact ⟨text, _, rfl, read⟩

section Calls

variable {m : Type → Type} [Monad m] (loggedIn : m Viewer) (catalog : Catalog) {index : Index}
  (h : index.Consistent) (keys : index.KeysAreNoNumerals) (config : FunctionConfig)
include h keys

theorem Consistent.check_shownArguments (viewer : Viewer) (call : Call) :
    (SubQuery.check (index.host loggedIn catalog) config viewer
      (call.withArgs (index.shownArguments viewer call.args))).SameChannels
        (SubQuery.check (index.host loggedIn catalog) config viewer call) := by
  obtain ⟨name, args⟩ := call
  cases args with
  | nil => exact .refl _
  | cons text arguments =>
      unfold SubQuery.check SubQuery.compile
      cases read : (index.host loggedIn catalog).parse text with
      | error e =>
          simp only [Call.withArgs, shownArguments, read]
          exact .refl _
      | ok query =>
          simp only [Call.withArgs, shownArguments, read]
          exact SubQuery.foldl_noteArgument_sameChannels (.refl _)
            (h.resolveProject_shownArgument loggedIn catalog keys viewer) arguments

end Calls

end Index

end IssueFilter
