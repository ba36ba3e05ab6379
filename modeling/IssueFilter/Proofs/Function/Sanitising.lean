import IssueFilter.Function.SubQuery
import IssueFilter.Proofs.Index.Consistency
import IssueFilter.Proofs.Query.Replacing
import IssueFilter.Text.Lowercase

/-! What sanitising does to an argument, a call and a query. It takes a hidden key for the id of the
project, and an id is not taken for anything else. So what is shown names no hidden project, and is
shown as it is the next time, as long as no id of a hidden project is the key of one. -/
namespace IssueFilter

theorem Ascii.upper_numeral (n : UInt64) : Ascii.upper (Numeral.text n) = Numeral.text n := by
  have digits : ∀ c ∈ Numeral.chars n, c.toUpper = c := fun _ member =>
    toUpper_of_isDigit (Numeral.isDigit_of_mem_chars member)
  rw [Ascii.upper, Numeral.text, String.toList_ofList, List.map_congr_left digits, List.map_id']

theorem Numeral.text_injective {m n : UInt64} (same : Numeral.text m = Numeral.text n) : m = n := by
  have chars := String.ofList_inj.mp same
  have values := congrArg Numeral.unsigned? chars
  rw [Numeral.unsigned?_chars, Numeral.unsigned?_chars] at values
  exact Option.some.inj values

namespace Index

/-- A stored project that the viewer may not browse. -/
structure Hides (index : Index) (viewer : Viewer) (project : Project) : Prop where
  stored : index.projects.get? project.id = some project
  hidden : index.canBrowse viewer project.id = false

/-- The argument with which a viewer is shown the argument of a call. -/
def shownArgument (index : Index) (viewer : Viewer) (argument : String) : String :=
  match index.projectByKey? argument with
  | some project =>
    if index.canBrowse viewer project.id then argument else Numeral.text project.id
  | none => argument

def shownArguments (index : Index) (viewer : Viewer) : List String → List String
  | [] => []
  | text :: arguments => text :: arguments.map (index.shownArgument viewer)

/-- The call as it is shown if the sub-query function has the given configuration. -/
def shownCall (index : Index) (config : FunctionConfig) (viewer : Viewer) (call : Call) : Call :=
  if Lowercase.text call.name = Lowercase.text config.name then
    call.withArgs (index.shownArguments viewer call.args)
  else call

def shownQuery (index : Index) (config : FunctionConfig) (viewer : Viewer) : Query → Query :=
  Query.mapCalls (index.shownCall config viewer)

section Arguments

variable {index : Index} {viewer : Viewer} {argument : String} {project : Project}

theorem shownArgument_hidden (named : index.projectByKey? argument = some project)
    (hidden : index.canBrowse viewer project.id = false) :
    index.shownArgument viewer argument = Numeral.text project.id := by
  simp only [shownArgument, named, hidden, Bool.false_eq_true, if_false]

theorem shownArgument_shown (shown : ∀ project, index.projectByKey? argument = some project →
    index.canBrowse viewer project.id = true) : index.shownArgument viewer argument = argument := by
  unfold shownArgument
  split
  · rename_i project named
    rw [if_pos (shown project named)]
  · rfl

/-- An argument is shown as it is, or it is the key of a hidden project. -/
theorem shownArgument_cases (index : Index) (viewer : Viewer) (argument : String) :
    (∀ project, index.projectByKey? argument = some project →
      index.canBrowse viewer project.id = true) ∨
    ∃ project, index.projectByKey? argument = some project ∧
      index.canBrowse viewer project.id = false := by
  cases named : index.projectByKey? argument with
  | none => exact .inl (by simp)
  | some project =>
      cases may : index.canBrowse viewer project.id with
      | true => exact .inl (by rintro _ ⟨⟩; exact may)
      | false => exact .inr ⟨project, rfl, may⟩

variable (h : index.Consistent)
include h

theorem Consistent.projectByKey?_key (stored : index.projects.get? project.id = some project) :
    index.projectByKey? project.key = some project := by
  have key := (h.key_iff project.key project.id).mpr ⟨project, stored, rfl⟩
  exact (h.projectByKey?_iff project.key project).mpr ⟨stored, (h.key_upper _ _ key).symm⟩

theorem Consistent.projectByKey?_numeral (id : UInt64) (project : Project) :
    index.projectByKey? (Numeral.text id) = some project ↔
      index.projects.get? project.id = some project ∧ project.key = Numeral.text id := by
  rw [h.projectByKey?_iff, Ascii.upper_numeral]

theorem Consistent.hides_of_key (named : index.projectByKey? argument = some project)
    (hidden : index.canBrowse viewer project.id = false) : index.Hides viewer project :=
  ⟨((h.projectByKey?_iff argument project).mp named).1, hidden⟩

/-- What is shown names no hidden project, just if no id of one is a key of one. -/
theorem Consistent.shown_iff (viewer : Viewer) :
    (∀ argument project, index.projectByKey? (index.shownArgument viewer argument) = some project →
      index.canBrowse viewer project.id = true) ↔
    ∀ p, index.Hides viewer p → ∀ q, index.Hides viewer q → q.key ≠ Numeral.text p.id := by
  constructor
  · intro shown p hidesP q hidesQ key
    have named := h.projectByKey?_key hidesP.stored
    have again := (h.projectByKey?_numeral p.id q).mpr ⟨hidesQ.stored, key⟩
    have may := shown p.key q (by rw [shownArgument_hidden named hidesP.hidden]; exact again)
    rw [hidesQ.hidden] at may
    cases may
  · intro apart argument project named
    rcases index.shownArgument_cases viewer argument with shown | ⟨p, hiddenKey, hidden⟩
    · rw [shownArgument_shown shown] at named
      exact shown project named
    · rw [shownArgument_hidden hiddenKey hidden] at named
      obtain ⟨stored, key⟩ := (h.projectByKey?_numeral p.id project).mp named
      cases may : index.canBrowse viewer project.id with
      | true => rfl
      | false => exact absurd key (apart p (h.hides_of_key hiddenKey hidden) project ⟨stored, may⟩)

/-- What is shown is shown as it is, just if no id of a hidden project is a key of another one. -/
theorem Consistent.shown_stable_iff (viewer : Viewer) :
    (∀ argument, index.shownArgument viewer (index.shownArgument viewer argument) =
      index.shownArgument viewer argument) ↔
    ∀ p, index.Hides viewer p → ∀ q, index.Hides viewer q → q.key = Numeral.text p.id → q = p := by
  constructor
  · intro stable p hidesP q hidesQ key
    have named := h.projectByKey?_key hidesP.stored
    have again := (h.projectByKey?_numeral p.id q).mpr ⟨hidesQ.stored, key⟩
    have same := stable p.key
    rw [shownArgument_hidden named hidesP.hidden, shownArgument_hidden again hidesQ.hidden] at same
    have stored := hidesQ.stored
    rw [Numeral.text_injective same, hidesP.stored] at stored
    exact (Option.some.inj stored).symm
  · intro apart argument
    rcases index.shownArgument_cases viewer argument with shown | ⟨p, hiddenKey, hidden⟩
    · rw [shownArgument_shown shown, shownArgument_shown shown]
    · rw [shownArgument_hidden hiddenKey hidden]
      rcases index.shownArgument_cases viewer (Numeral.text p.id) with shown | ⟨q, again, hiddenToo⟩
      · exact shownArgument_shown shown
      · have key := ((h.projectByKey?_numeral p.id q).mp again).2
        rw [shownArgument_hidden again hiddenToo, apart p (h.hides_of_key hiddenKey hidden) q
          (h.hides_of_key again hiddenToo) key]

end Arguments

section Calls

variable (index : Index) (config : FunctionConfig) (viewer : Viewer)

@[simp] theorem shownCall_name (call : Call) :
    (index.shownCall config viewer call).name = call.name := by
  unfold shownCall
  split <;> rfl

theorem drop_shownArguments (arguments : List String) :
    (index.shownArguments viewer arguments).drop 1 =
      (arguments.drop 1).map (index.shownArgument viewer) := by
  cases arguments <;> rfl

theorem args_shownCall {call : Call} (known : Lowercase.text call.name = Lowercase.text config.name) :
    (index.shownCall config viewer call).args = index.shownArguments viewer call.args := by
  rw [shownCall, if_pos known]
  rfl

theorem shownCall_eq_self_iff {call : Call}
    (known : Lowercase.text call.name = Lowercase.text config.name) :
    index.shownCall config viewer call = call ↔
      ∀ argument ∈ call.args.drop 1, index.shownArgument viewer argument = argument := by
  obtain ⟨name, args⟩ := call
  rw [shownCall, if_pos known]
  cases args with
  | nil => simp [Call.withArgs, shownArguments]
  | cons text arguments =>
      simp only [Call.withArgs, shownArguments, Call.mk.injEq, List.cons.injEq, true_and,
        List.drop_succ_cons, List.drop_zero]
      have each : arguments.map (index.shownArgument viewer) = arguments.map id ↔
          ∀ argument ∈ arguments, index.shownArgument viewer argument = argument :=
        List.map_inj_left
      rwa [List.map_id] at each

/-- A query that consists in a call of the function with a project argument. -/
def argumentQuery (argument : String) : Query :=
  ⟨some (.condition ⟨"issue", .isIn, .call ⟨config.name, ["status = Open", argument]⟩⟩), []⟩

theorem shownQuery_argumentQuery (argument : String) :
    index.shownQuery config viewer (argumentQuery config argument) =
      argumentQuery config (index.shownArgument viewer argument) := by
  have shown : index.shownCall config viewer ⟨config.name, ["status = Open", argument]⟩ =
    ⟨config.name, ["status = Open", index.shownArgument viewer argument]⟩ := if_pos rfl
  simp only [argumentQuery, shownQuery, Query.mapCalls, Query.expand, Option.map_some,
    Clause.expand, Condition.mapCalls, Condition.withOperand, Operand.mapCalls, shown]

end Calls

section Function

variable {m : Type → Type} [Monad m] (index : Index) (loggedIn : m Viewer) (catalog : Catalog)
  (viewer : Viewer)

theorem getD_sanitiseArgument (argument : String) :
    (SubQuery.sanitiseArgument (index.host loggedIn catalog) viewer argument).getD argument =
      index.shownArgument viewer argument := by
  change (match index.projectByKey? argument with
    | some project =>
      if index.canBrowse viewer project.id then none else some (Numeral.text project.id)
    | none => none).getD argument = _
  unfold shownArgument
  cases index.projectByKey? argument with
  | none => rfl
  | some project =>
      simp only
      split <;> rfl

/-- The function answers only where something has to be replaced; where it does not answer, all
arguments are shown as they are. -/
theorem getD_sanitise (call : Call) :
    (SubQuery.sanitise (index.host loggedIn catalog) viewer call).getD call =
      call.withArgs (index.shownArguments viewer call.args) := by
  obtain ⟨name, args⟩ := call
  unfold SubQuery.sanitise
  cases args with
  | nil => rfl
  | cons text arguments =>
      have replaced : arguments.zipWith (fun argument replacement => replacement.getD argument)
          (arguments.map (SubQuery.sanitiseArgument (index.host loggedIn catalog) viewer)) =
            arguments.map (index.shownArgument viewer) := by
        rw [List.zipWith_map_right, List.zipWith_self]
        exact List.map_congr_left fun argument _ =>
          index.getD_sanitiseArgument loggedIn catalog viewer argument
      simp only [replaced]
      split
      · rfl
      · rename_i unchanged
        have same : arguments.map (index.shownArgument viewer) = arguments.map id := by
          refine List.map_congr_left fun argument member => ?_
          have none : SubQuery.sanitiseArgument (index.host loggedIn catalog) viewer argument =
              none := by
            refine Option.not_isSome_iff_eq_none.mp fun present => unchanged ?_
            exact List.any_eq_true.mpr ⟨_, List.mem_map_of_mem member, present⟩
          rw [← index.getD_sanitiseArgument loggedIn catalog viewer argument, none]
          rfl
        rw [Option.getD_none, Call.withArgs, shownArguments, same, List.map_id]

end Function

section Queries

variable {index : Index} (h : index.Consistent) (config : FunctionConfig) (viewer : Viewer)
include h

/-- The arguments of one call are any arguments, so what holds in all queries holds of all arguments. -/
theorem Consistent.shownQuery_iff :
    (∀ query, ∀ placed ∈ (index.shownQuery config viewer query).calls,
      Lowercase.text placed.2.name = Lowercase.text config.name →
      ∀ argument ∈ placed.2.args.drop 1, ∀ project, index.projectByKey? argument = some project →
        index.canBrowse viewer project.id = true) ↔
    ∀ p, index.Hides viewer p → ∀ q, index.Hides viewer q → q.key ≠ Numeral.text p.id := by
  rw [← h.shown_iff viewer]
  constructor
  · intro shown argument project named
    have all := shown (argumentQuery config argument)
    rw [shownQuery_argumentQuery] at all
    exact all (_, _) List.mem_cons_self rfl _ List.mem_cons_self project named
  · intro shown query placed member known argument among project named
    rw [shownQuery, Query.calls_mapCalls, List.mem_map] at member
    obtain ⟨before, -, rfl⟩ := member
    rw [shownCall_name] at known
    rw [args_shownCall index config viewer known, drop_shownArguments, List.mem_map] at among
    obtain ⟨original, -, rfl⟩ := among
    exact shown original project named

theorem Consistent.shownQuery_stable_iff :
    (∀ query, index.shownQuery config viewer (index.shownQuery config viewer query) =
      index.shownQuery config viewer query) ↔
    ∀ p, index.Hides viewer p → ∀ q, index.Hides viewer q → q.key = Numeral.text p.id → q = p := by
  rw [← h.shown_stable_iff viewer]
  constructor
  · intro stable argument
    have same := stable (argumentQuery config argument)
    rw [shownQuery_argumentQuery, shownQuery_argumentQuery] at same
    simpa [argumentQuery] using same
  · intro stable query
    refine (Query.mapCalls_eq_self_iff _ _).mpr fun placed member => ?_
    rw [shownQuery, Query.calls_mapCalls, List.mem_map] at member
    obtain ⟨before, -, rfl⟩ := member
    by_cases known : Lowercase.text before.2.name = Lowercase.text config.name
    · refine (index.shownCall_eq_self_iff config viewer (by rw [shownCall_name]; exact known)).mpr ?_
      intro argument among
      rw [args_shownCall index config viewer known, drop_shownArguments, List.mem_map] at among
      obtain ⟨original, -, rfl⟩ := among
      exact stable original
    · have kept : ∀ call : Call, Lowercase.text call.name ≠ Lowercase.text config.name →
          index.shownCall config viewer call = call := fun call other => if_neg other
      change index.shownCall config viewer (index.shownCall config viewer before.2) =
        index.shownCall config viewer before.2
      rw [kept _ known, kept _ known]

end Queries

end Index

end IssueFilter
