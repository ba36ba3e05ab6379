import IssueFilter.Query.Traversal

/-! Replacing calls in three steps. The calls of a query are listed, an answer is got for each of
them from left to right, and the answers are put into their places. That a walk does the same with
effects in any monad says in which order the effects come, and that there is one for each call. -/
namespace IssueFilter

mutual

/-- The operand with answers in the places of its calls, and the answers that are left over. -/
def Operand.refill : Operand → List Operand → Operand × List Operand
  | .single value, answers => (.single value, answers)
  | .list items, answers =>
    let (items, left) := Operand.refillList items answers
    (.list items, left)
  | .call c, [] => (.call c, [])
  | .call _, answer :: answers => (answer, answers)
  | .empty, answers => (.empty, answers)

def Operand.refillList : List Operand → List Operand → List Operand × List Operand
  | [], answers => ([], answers)
  | item :: items, answers =>
    let (item, left) := item.refill answers
    let (items, left) := Operand.refillList items left
    (item :: items, left)

end

def Condition.refill (condition : Condition) (answers : List Operand) : Condition × List Operand :=
  let (operand, left) := condition.operand.refill answers
  (condition.withOperand operand, left)

mutual

def Clause.refill : Clause → List Operand → Clause × List Operand
  | .and children, answers =>
    let (children, left) := Clause.refillList children answers
    (.and children, left)
  | .or children, answers =>
    let (children, left) := Clause.refillList children answers
    (.or children, left)
  | .not child, answers =>
    let (child, left) := child.refill answers
    (.not child, left)
  | .condition c, answers =>
    let (c, left) := c.refill answers
    (.condition c, left)

def Clause.refillList : List Clause → List Operand → List Clause × List Operand
  | [], answers => ([], answers)
  | child :: children, answers =>
    let (child, left) := child.refill answers
    let (children, left) := Clause.refillList children left
    (child :: children, left)

end

/-- The query with the answers in the places of its calls, from left to right. -/
def Query.refill (query : Query) (answers : List Operand) : Query where
  clause := query.clause.map fun clause => (clause.refill answers).1
  orderBy := query.orderBy

/-- The calls of the condition, each with the condition. -/
def Condition.placedCalls (condition : Condition) : List (Condition × Call) :=
  condition.operand.calls.map (condition, ·)

variable {m : Type → Type} [Monad m] [LawfulMonad m] {α β γ : Type}

/-- To walk is to get the answers and to put them into their places, whatever answers come after. -/
def Refills (answers : m (List Operand)) (refill : List Operand → α × List Operand) (walk : m α) :
    Prop :=
  (fun given rest => refill (given ++ rest)) <$> answers = (fun a rest => (a, rest)) <$> walk

namespace Refills

variable {answers others : m (List Operand)} {refill : List Operand → α × List Operand}
  {refillOther : List Operand → β × List Operand} {walk : m α} {walkOther : m β}

theorem pure (a : α) : Refills (m := m) (Pure.pure []) (fun given => (a, given)) (Pure.pure a) := by
  rw [Refills, map_pure, map_pure]
  rfl

theorem map (h : Refills answers refill walk) (f : α → β) :
    Refills answers (fun given => (f (refill given).1, (refill given).2)) (f <$> walk) := by
  unfold Refills at h ⊢
  have mapped := congrArg (fun x => (fun (place : List Operand → α × List Operand) rest =>
    (f (place rest).1, (place rest).2)) <$> x) h
  simpa only [Functor.map_map] using mapped

/-- What is left over by the first part is for the second part. -/
theorem both (first : Refills answers refill walk) (second : Refills others refillOther walkOther)
    (join : α → β → γ) :
    Refills (do return (← answers) ++ (← others))
      (fun given =>
        let (a, left) := refill given
        let (b, left) := refillOther left
        (join a b, left))
      (do return join (← walk) (← walkOther)) := by
  unfold Refills at first second ⊢
  calc (fun given rest =>
        let (a, left) := refill (given ++ rest)
        let (b, left) := refillOther left
        (join a b, left)) <$> (do return (← answers) ++ (← others))
    _ = ((fun given rest => refill (given ++ rest)) <$> answers) >>= fun place => do
          let given ← others
          return fun rest =>
            let (a, left) := place (given ++ rest)
            let (b, left) := refillOther left
            (join a b, left) := by
        simp only [map_bind, map_pure, bind_map_left, List.append_assoc]
    _ = walk >>= fun a =>
          ((fun given rest => refillOther (given ++ rest)) <$> others) >>= fun place =>
            Pure.pure fun rest => (join a (place rest).1, (place rest).2) := by
        rw [first]
        simp only [bind_map_left]
    _ = (fun c rest => (c, rest)) <$> (do return join (← walk) (← walkOther)) := by
        rw [second]
        simp only [map_bind, map_pure, bind_map_left]

end Refills

section Walks

mutual

theorem Operand.refills (f : Call → m Operand) : ∀ operand : Operand,
    Refills (operand.calls.mapM f) operand.refill (operand.mapCallsM f)
  | .single value => .pure _
  | .empty => .pure _
  | .list items => by
      have inside := (Operand.refills_list f items).map Operand.list
      rw [map_eq_pure_bind] at inside
      exact inside
  | .call c => by
      rw [Refills, calls, List.mapM_cons, mapCallsM]
      simp only [List.mapM_nil, map_eq_pure_bind, bind_assoc, pure_bind]
      rfl

theorem Operand.refills_list (f : Call → m Operand) : ∀ items : List Operand,
    Refills ((Operand.callsOfList items).mapM f) (Operand.refillList items)
      (Operand.mapCallsListM f items)
  | [] => .pure _
  | item :: items => by
      rw [Operand.callsOfList, List.mapM_append]
      exact (Operand.refills f item).both (Operand.refills_list f items) List.cons

end

/-- The calls are answered with regard to the conditions in which they are placed. -/
theorem Condition.refills (f : Condition → Call → m Operand) (condition : Condition) :
    Refills (condition.placedCalls.mapM fun placed => f placed.1 placed.2) condition.refill
      (do return condition.withOperand (← condition.operand.mapCallsM (f condition))) := by
  have inside := ((condition.operand).refills (f condition)).map condition.withOperand
  rw [map_eq_pure_bind] at inside
  rw [placedCalls, List.mapM_map]
  exact inside

mutual

theorem Clause.refills {f : Condition → m Condition} {answers : Condition × Call → m Operand}
    (each : ∀ c : Condition, Refills (c.placedCalls.mapM answers) c.refill (f c)) :
    ∀ clause : Clause, Refills ((clause.conditions.flatMap Condition.placedCalls).mapM answers)
      clause.refill (clause.mapConditionsM f)
  | .and children => by
      have inside := (Clause.refills_list each children).map Clause.and
      rw [map_eq_pure_bind] at inside
      exact inside
  | .or children => by
      have inside := (Clause.refills_list each children).map Clause.or
      rw [map_eq_pure_bind] at inside
      exact inside
  | .not child => by
      have inside := (Clause.refills each child).map Clause.not
      rw [map_eq_pure_bind] at inside
      exact inside
  | .condition c => by
      have inside := (each c).map Clause.condition
      rw [map_eq_pure_bind] at inside
      rw [conditions, List.flatMap_singleton]
      exact inside

theorem Clause.refills_list {f : Condition → m Condition} {answers : Condition × Call → m Operand}
    (each : ∀ c : Condition, Refills (c.placedCalls.mapM answers) c.refill (f c)) :
    ∀ children : List Clause,
      Refills (((Clause.conditionsOfList children).flatMap Condition.placedCalls).mapM answers)
        (Clause.refillList children) (Clause.mapConditionsListM f children)
  | [] => .pure _
  | child :: children => by
      rw [Clause.conditionsOfList, List.flatMap_append, List.mapM_append]
      exact (Clause.refills each child).both (Clause.refills_list each children) List.cons

end

/-- A walk with effects answers the calls of the query one by one in the order of the text. Answers
that no call is left for do not matter. -/
theorem Query.mapCallsM_eq_refill_append (f : Condition → Call → m Operand) (query : Query)
    (rest : List Operand) : query.mapCallsM f =
      (fun given => query.refill (given ++ rest)) <$>
        query.calls.mapM fun placed => f placed.1 placed.2 := by
  obtain ⟨clause, orderBy⟩ := query
  cases clause with
  | none =>
      have none : (⟨none, orderBy⟩ : Query).calls = [] := rfl
      rw [none, List.mapM_nil, map_pure]
      rfl
  | some clause =>
      have refills := Clause.refills (fun c => c.refills f) clause
      have whole := congrArg (fun x => (fun (place : List Operand → Clause × List Operand) =>
        (⟨some (place rest).1, orderBy⟩ : Query)) <$> x) refills
      simp only [Functor.map_map] at whole
      rw [mapCallsM, mapConditionsM]
      exact (map_eq_pure_bind _ _).symm.trans whole.symm

theorem Query.mapCallsM_eq_refill (f : Condition → Call → m Operand) (query : Query) :
    query.mapCallsM f = query.refill <$> query.calls.mapM fun placed => f placed.1 placed.2 := by
  simpa only [List.append_nil] using query.mapCallsM_eq_refill_append f []

end Walks

end IssueFilter
