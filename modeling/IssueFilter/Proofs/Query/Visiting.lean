import IssueFilter.Proofs.Effect.Basic
import IssueFilter.Proofs.Query.Exchanging
import IssueFilter.Proofs.Query.Places
import IssueFilter.Proofs.Query.Replacing

/-! Visitors. A replacing walk shows its visitor what the collecting walk lists, each item once and in that
order, and puts the results back where the items were; so a check of the listed items misses none that a
replacement could meet. -/
namespace IssueFilter

/-- One condition in the place of another. -/
inductive Clause.ConditionReplaced : Clause → Clause → Prop
  | condition (before after : Condition) :
      ConditionReplaced (.condition before) (.condition after)

section Effects

variable {m : Type → Type} [Monad m] [LawfulMonad m]

section Conditions

variable (visit : Condition → m Condition)

mutual

theorem Clause.conditions_mapConditionsM : ∀ clause : Clause,
    conditions <$> clause.mapConditionsM visit = clause.conditions.mapM visit
  | .and children | .or children => by
      rw [mapConditionsM, conditions, ← Clause.conditionsOfList_mapConditionsListM children]
      simp only [map_eq_pure_bind, bind_assoc, pure_bind, conditions]
  | .not child => by
      rw [mapConditionsM, conditions, ← Clause.conditions_mapConditionsM child]
      simp only [map_eq_pure_bind, bind_assoc, pure_bind, conditions]
  | .condition c => by
      rw [mapConditionsM, conditions, List.mapM_cons, List.mapM_nil]
      simp only [map_bind, map_pure, pure_bind, conditions]

theorem Clause.conditionsOfList_mapConditionsListM : ∀ children : List Clause,
    conditionsOfList <$> mapConditionsListM visit children =
      (conditionsOfList children).mapM visit
  | [] => by rw [mapConditionsListM, conditionsOfList, map_pure, conditionsOfList, List.mapM_nil]
  | child :: children => by
      rw [mapConditionsListM, conditionsOfList, List.mapM_append,
        ← Clause.conditions_mapConditionsM child,
        ← Clause.conditionsOfList_mapConditionsListM children]
      simp only [map_bind, map_pure, bind_map_left, conditionsOfList]

end

/-- To walk over a query and to list the conditions after that is to visit the listed conditions. -/
theorem Query.conditions_mapConditionsM (query : Query) :
    conditions <$> query.mapConditionsM visit = query.conditions.mapM visit := by
  obtain ⟨clause, orderBy⟩ := query
  cases clause with
  | none =>
      rw [mapConditionsM, conditions, map_pure, List.mapM_nil]
      rfl
  | some clause =>
      rw [mapConditionsM, conditions, ← clause.conditions_mapConditionsM visit]
      simp only [map_eq_pure_bind, bind_assoc, pure_bind, conditions]

mutual

theorem Clause.mapConditionsM_ensures : ∀ clause : Clause,
    Ensures (clause.mapConditionsM visit) (clause.Exchanged ConditionReplaced)
  | .and children => (Clause.mapConditionsListM_ensures children).bind fun _ each => .pure (.and each)
  | .or children => (Clause.mapConditionsListM_ensures children).bind fun _ each => .pure (.or each)
  | .not child => (Clause.mapConditionsM_ensures child).bind fun _ inside => .pure (.not inside)
  | .condition c => (Ensures.trivial (visit c)).bind fun after _ => .pure (.part (.condition c after))

theorem Clause.mapConditionsListM_ensures : ∀ children : List Clause,
    Ensures (mapConditionsListM visit children)
      (List.Forall₂ (Clause.Exchanged ConditionReplaced) children)
  | [] => .pure .nil
  | child :: children => (Clause.mapConditionsM_ensures child).bind fun _ first =>
      (Clause.mapConditionsListM_ensures children).bind fun _ others => .pure (.cons first others)

end

theorem Query.mapConditionsM_ensures (query : Query) :
    Ensures (query.mapConditionsM visit) (query.Exchanged Clause.ConditionReplaced) := by
  obtain ⟨clause, orderBy⟩ := query
  cases clause with
  | none => exact .pure ⟨.none, rfl⟩
  | some clause =>
      exact (clause.mapConditionsM_ensures visit).bind fun _ inside => .pure ⟨.some inside, rfl⟩

end Conditions

theorem Query.mapConditionsM_pure_self (query : Query) :
    query.mapConditionsM (m := m) pure = pure query := by
  have kept : (query.expand fun c => .condition (id c)) = query :=
    (query.expand_eq_self_iff _).mpr fun _ _ => rfl
  exact (query.mapConditionsM_pure id).trans (congrArg pure kept)

/-- A visitor without effects may go together with the visitor after it. -/
theorem Query.mapConditionsM_joined (f : Condition → Condition) (visit : Condition → m Condition)
    (query : Query) : (do (← query.mapConditionsM fun c => pure (f c)).mapConditionsM visit) =
      query.mapConditionsM fun c => visit (f c) := by
  rw [mapConditionsM_pure, pure_bind, mapConditionsM_expand]

/-- There is a result for each item. -/
theorem mapM_ensures_length {α β : Type} (visit : α → m β) (items : List α) :
    Ensures (items.mapM visit) (·.length = items.length) := by
  induction items with
  | nil =>
      rw [List.mapM_nil]
      exact .pure rfl
  | cons item items ih =>
      rw [List.mapM_cons]
      exact (Ensures.trivial (visit item)).bind fun _ _ => ih.bind fun _ same =>
        .pure (congrArg Nat.succ same)

/-- To walk over an operand is to visit the listed calls and to refill it with the answers. -/
theorem Operand.mapCallsM_eq_refill (visit : Call → m Operand) (operand : Operand) :
    operand.mapCallsM visit =
      (fun answers => (operand.refill answers).1) <$> operand.calls.mapM visit := by
  have refilled := congrArg (fun x => (fun place : List Operand → Operand × List Operand =>
    (place []).1) <$> x) (operand.refills visit)
  simp only [Functor.map_map, List.append_nil, id_map'] at refilled
  exact refilled.symm

theorem Operand.mapCallsM_pure_self (operand : Operand) :
    operand.mapCallsM (m := m) (fun call => pure (.call call)) = pure operand := by
  have kept : operand.mapCalls id = operand := (operand.mapCalls_eq_self_iff id).mpr fun _ _ => rfl
  exact (operand.mapCallsM_pure id).trans (congrArg pure kept)

theorem Operand.mapCallsM_joined (f : Call → Call) (visit : Call → m Operand) (operand : Operand) :
    (do (← operand.mapCallsM fun call => pure (.call (f call))).mapCallsM visit) =
      operand.mapCallsM fun call => visit (f call) := by
  rw [mapCallsM_pure, pure_bind, mapCallsM_mapCalls]

end Effects

/-- Whatever the state is and whatever the visitors make of it, the replacing walks and the collecting walks
see the same items in the same order. A walk over a query shows the visitor its conditions one by one, each
from the state that the one before it left, and ends in a query whose conditions are the results and which
is otherwise the same. A walk over an operand shows the visitor its calls in this way, and ends in the
operand with the answers in the places of the calls and nothing else changed. A visitor that gives back what
it is shown changes nothing, and a visitor without effects that answers with conditions, or with calls, may
be joined with any visitor that comes after it. -/
theorem replacing_visits_collected (σ : Type) :
    (∀ (visit : Condition → StateM σ Condition) (query : Query) (state : σ), ∃ walked after,
      (query.mapConditionsM visit).run state = (walked, after) ∧
      (query.conditions.mapM visit).run state = (walked.conditions, after) ∧
      query.Exchanged Clause.ConditionReplaced walked) ∧
    (∀ operand : Operand, ∃ places, operand.CallsAt places ∧
      ∀ (visit : Call → StateM σ Operand) (state : σ), ∃ answers walked after,
        (operand.calls.mapM visit).run state = (answers, after) ∧
        (operand.mapCallsM visit).run state = (walked, after) ∧
        walked = operand.putAll (places.zip answers) ∧
        places.map walked.atPlace = answers.map some) ∧
    (∀ query : Query, query.mapConditionsM (m := StateM σ) pure = pure query) ∧
    (∀ operand : Operand,
      operand.mapCallsM (m := StateM σ) (fun call => pure (.call call)) = pure operand) ∧
    (∀ (f : Condition → Condition) (visit : Condition → StateM σ Condition) (query : Query),
      (do (← query.mapConditionsM fun c => pure (f c)).mapConditionsM visit) =
        query.mapConditionsM fun c => visit (f c)) ∧
    ∀ (f : Call → Call) (visit : Call → StateM σ Operand) (operand : Operand),
      (do (← operand.mapCallsM fun call => pure (.call (f call))).mapCallsM visit) =
        operand.mapCallsM fun call => visit (f call) := by
  refine ⟨fun visit query state => ?_, fun operand => ?_, ?_, ?_, ?_, ?_⟩
  · refine ⟨_, _, rfl, ?_, (query.mapConditionsM_ensures visit).run state⟩
    rw [← query.conditions_mapConditionsM visit]
    rfl
  · refine ⟨_, operand.callsAt_located, fun visit state => ?_⟩
    have each : ((operand.calls.mapM visit).run state).1.length = operand.calls.length :=
      (mapM_ensures_length visit operand.calls).run state
    have stands := operand.atPlace_refill _ each.ge
    rw [List.take_of_length_le each.le] at stands
    refine ⟨_, _, _, rfl, ?_, operand.fst_refill _, ?_⟩
    · rw [operand.mapCallsM_eq_refill visit]
      rfl
    · rw [List.map_map]
      exact stands
  · exact Query.mapConditionsM_pure_self
  · exact Operand.mapCallsM_pure_self
  · exact Query.mapConditionsM_joined
  · exact Operand.mapCallsM_joined

/-- A visitor that writes down the names of the calls and numbers its answers. -/
example :
    let visit : Call → StateM (List String) Operand := fun call names =>
      (.single (.number (.ofNat names.length)), names ++ [call.name])
    let operand := Operand.list
      [.call ⟨"f", ["x"]⟩, .list [.empty, .call ⟨"g", []⟩], .call ⟨"f", []⟩]
    (operand.mapCallsM visit).run [] =
      (.list [.single (.number 0), .list [.empty, .single (.number 1)], .single (.number 2)],
        ["f", "g", "f"]) := rfl

end IssueFilter
