import IssueFilter.Proofs.Function.Transparency
import IssueFilter.Proofs.Search.Arrangement
import IssueFilter.Session

/-! What a call of the sub-query function stands for. The sub-query is searched on behalf of one user, and the
values are the ids of what is found. Issues are found once each, and only where that user may browse;
so it is with the values. Who the user is depends on the session or on the viewer of the filter, as
configured, and never on both. -/
namespace IssueFilter.SubQuery

/-- What the call stands for when the sub-query is searched on behalf of the user. -/
def answerAs (index : Index) (query : Query) (call : Call) (user : Viewer) :
    Except FunctionError (List CallValue) :=
  match index.search user query .unlimited with
  | .error e => .error (.execution e)
  | .ok results => .ok (results.issues.map fun issue => ⟨call, .number issue.id⟩)

/-- An answer that failed gives no values. -/
def valuesIn : Except FunctionError (List CallValue) → List CallValue
  | .ok values => values
  | .error _ => []

theorem valuesIn_eq_nil_iff (answer : Except FunctionError (List CallValue)) :
    valuesIn answer = [] ↔ (∃ e, answer = .error e) ∨ answer = .ok [] := by
  cases answer with
  | error e => simp [valuesIn]
  | ok values => simp [valuesIn]

section Evaluating

variable {m : Type → Type} [Monad m] {config : FunctionConfig} {call : Call}

variable [LawfulMonad m]

theorem values_eq_valuesIn (host : Host m) (viewer : Viewer) :
    values host config viewer call = valuesIn <$> tryValues host config viewer call := by
  rw [values, map_eq_pure_bind]
  congr 1
  funext answer
  cases answer <;> rfl

variable {index : Index} {loggedIn : m Viewer} {catalog : Catalog} {query : Query}

theorem tryValues_of_ok (compiled : compile (index.host loggedIn catalog) call = .ok query)
    (viewer : Viewer) : tryValues (index.host loggedIn catalog) config viewer call =
      answerAs index query call <$>
        runtimeIdentity (index.host loggedIn catalog) config viewer := by
  rw [tryValues, compiled, map_eq_pure_bind]
  simp only [Index.host, pure_bind]
  congr 1
  funext user
  unfold answerAs
  cases index.search user query .unlimited <;> rfl

end Evaluating

/-- How the values of a call relate to the search of its sub-query on behalf of a user. -/
structure Sound (index : Index) (query : Query) (call : Call) (user : Viewer)
    (answer : Except FunctionError (List CallValue)) (values : List CallValue) : Prop where
  distinct : (values.map CallValue.value).Nodup
  browsable : ∀ value ∈ values, value.source = call ∧ ∃ issue ∈ index.issues,
    value.value = .number issue.id ∧ index.canBrowse user issue.projectId = true
  /-- The ids come in the order of the search. -/
  ranked : ∀ results, index.search user query .unlimited = .ok results →
    values.map CallValue.value = results.issues.map fun issue => .number issue.id
  eq_nil_iff : values = [] ↔ (∃ e, answer = .error e) ∨ answer = .ok []

section

variable {index : Index} {query : Query} {call : Call} {user : Viewer}

theorem Sound.ofError {e : SearchError} (failed : index.search user query .unlimited = .error e) :
    Sound index query call user (.error (.execution e)) [] where
  distinct := .nil
  browsable := by simp
  ranked results found := by
    rw [failed] at found
    cases found
  eq_nil_iff := valuesIn_eq_nil_iff (.error (.execution e))

theorem Sound.ofResults (h : index.Consistent) {results : SearchResults}
    (found : index.search user query .unlimited = .ok results) :
    let values := results.issues.map fun issue => (⟨call, .number issue.id⟩ : CallValue)
    Sound index query call user (.ok values) values := by
  intro values
  obtain ⟨distinct, shown⟩ := h.issues_found found
  have literals : values.map CallValue.value = (results.issues.map Issue.id).map .number := by
    simp only [values, List.map_map, Function.comp_def]
  constructor
  case distinct =>
    rw [literals]
    exact distinct.map fun _ _ same => Literal.number.inj same
  case browsable =>
    intro value member
    obtain ⟨issue, inResults, rfl⟩ := List.mem_map.mp member
    exact ⟨rfl, issue, (shown issue inResults).1, rfl, (shown issue inResults).2⟩
  case ranked =>
    intro others again
    rw [found] at again
    cases again
    rw [literals, List.map_map]
    rfl
  case eq_nil_iff => exact valuesIn_eq_nil_iff (.ok values)

end

end IssueFilter.SubQuery
