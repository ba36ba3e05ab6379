import IssueFilter.Proofs.Effect.Basic
import IssueFilter.Runner

/-! Comparing runners. Two computations, perhaps with different effects, may be related; if the
relation respects sequencing, then runners whose searches and calls are related do related things
with every filter. -/
namespace IssueFilter

variable {m n : Type → Type} [Monad m] [Monad n] (R : EffectRelation m n)

section Traversal

mutual

theorem Operand.mapCallsM_rel {f : Call → m Operand} {g : Call → n Operand}
    (h : ∀ call, R.rel (f call) (g call)) :
    ∀ operand : Operand, R.rel (operand.mapCallsM f) (operand.mapCallsM g)
  | .single _ | .empty => R.rel_pure _
  | .list items => R.rel_bind (Operand.mapCallsListM_rel h items) fun _ => R.rel_pure _
  | .call c => h c

theorem Operand.mapCallsListM_rel {f : Call → m Operand} {g : Call → n Operand}
    (h : ∀ call, R.rel (f call) (g call)) :
    ∀ items : List Operand, R.rel (Operand.mapCallsListM f items) (Operand.mapCallsListM g items)
  | [] => R.rel_pure _
  | item :: items =>
      R.rel_bind (Operand.mapCallsM_rel h item) fun _ =>
        R.rel_bind (Operand.mapCallsListM_rel h items) fun _ => R.rel_pure _

end

mutual

theorem Clause.mapConditionsM_rel {f : Condition → m Condition} {g : Condition → n Condition}
    (h : ∀ condition, R.rel (f condition) (g condition)) :
    ∀ clause : Clause, R.rel (clause.mapConditionsM f) (clause.mapConditionsM g)
  | .and children | .or children =>
      R.rel_bind (Clause.mapConditionsListM_rel h children) fun _ => R.rel_pure _
  | .not child => R.rel_bind (Clause.mapConditionsM_rel h child) fun _ => R.rel_pure _
  | .condition c => R.rel_bind (h c) fun _ => R.rel_pure _

theorem Clause.mapConditionsListM_rel {f : Condition → m Condition} {g : Condition → n Condition}
    (h : ∀ condition, R.rel (f condition) (g condition)) :
    ∀ children : List Clause,
      R.rel (Clause.mapConditionsListM f children) (Clause.mapConditionsListM g children)
  | [] => R.rel_pure _
  | child :: children =>
      R.rel_bind (Clause.mapConditionsM_rel h child) fun _ =>
        R.rel_bind (Clause.mapConditionsListM_rel h children) fun _ => R.rel_pure _

end

theorem Query.mapCallsM_rel {f : Condition → Call → m Operand} {g : Condition → Call → n Operand}
    (h : ∀ condition call, R.rel (f condition call) (g condition call)) (query : Query) :
    R.rel (query.mapCallsM f) (query.mapCallsM g) := by
  have conditions : ∀ condition : Condition,
      R.rel (do return condition.withOperand (← condition.operand.mapCallsM (f condition)))
        (do return condition.withOperand (← condition.operand.mapCallsM (g condition))) :=
    fun condition => R.rel_bind (Operand.mapCallsM_rel R (h condition) _) fun _ => R.rel_pure _
  unfold Query.mapCallsM Query.mapConditionsM
  cases query.clause with
  | none => exact R.rel_pure _
  | some clause =>
      exact R.rel_bind (Clause.mapConditionsM_rel R conditions clause) fun _ => R.rel_pure _

end Traversal

namespace Runner

/-- Runners that read texts alike and do related things on behalf of a viewer. -/
structure Related (viewer : Viewer) (r : Runner m) (s : Runner n) : Prop where
  parse : r.parse = s.parse
  search : ∀ query page, R.rel (r.search viewer query page) (s.search viewer query page)
  validates : ∀ condition call,
    R.rel (r.validateCall viewer condition call) (s.validateCall viewer condition call)
  values : ∀ condition call,
    R.rel (r.valuesOf viewer condition call) (s.valuesOf viewer condition call)

variable {R} {viewer : Viewer} {r : Runner m} {s : Runner n} (related : Related R viewer r s)
include related

theorem Related.validate (query : Query) :
    R.rel (r.validate viewer query) (s.validate viewer query) := by
  unfold Runner.validate
  generalize MessageSet.empty = messages
  induction query.calls generalizing messages with
  | nil => exact R.rel_pure _
  | cons first rest ih =>
      simp only [List.foldlM_cons]
      refine R.rel_bind ?_ ih
      exact R.rel_bind (related.validates first.1 first.2) fun _ => R.rel_pure _

theorem Related.resolve (query : Query) :
    R.rel (r.resolve viewer query) (s.resolve viewer query) :=
  Query.mapCallsM_rel R
    (fun condition call => R.rel_bind (related.values condition call) fun _ => R.rel_pure _) query

theorem Related.run (text : String) (page : Page) :
    R.rel (r.run viewer text page) (s.run viewer text page) := by
  unfold Runner.run
  rw [related.parse]
  cases s.parse text with
  | error e => exact R.rel_pure _
  | ok query =>
      refine R.rel_bind (related.validate query) fun messages => ?_
      cases messages.hasErrors with
      | true => exact R.rel_pure _
      | false =>
          refine R.rel_bind (related.resolve query) fun resolved => ?_
          refine R.rel_bind (related.search resolved page) fun answer => ?_
          cases answer <;> exact R.rel_pure _

end Runner

end IssueFilter
