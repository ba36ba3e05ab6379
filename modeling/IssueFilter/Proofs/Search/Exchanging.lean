import IssueFilter.Proofs.Effect.Basic
import IssueFilter.Proofs.Query.Exchanging
import IssueFilter.Proofs.Search.Evaluating
import IssueFilter.Proofs.Search.Ordering

/-! Searching before and after an exchange. AND, OR and NOT pass on how the outcomes of their parts are
related, and so do the walk through the issues and the ordering of the hits. Where the outcomes are equal
nothing changes, however many exchanges are made and in whichever direction; and only the issues that the
viewer may see have to be asked. -/
namespace IssueFilter.Index

variable {R : EffectOrder (Except SearchError)} {index : Index} {rule : Clause → Clause → Prop}

section Related

variable {issue : Issue}

mutual

theorem satisfies_exchanged
    (related : ∀ a b, rule a b → R.rel (index.satisfies issue a) (index.satisfies issue b))
    {a b : Clause} :
    a.Exchanged rule b → R.rel (index.satisfies issue a) (index.satisfies issue b)
  | .part ruled => related a b ruled
  | .same a => R.rel_refl _
  | .not inside => R.rel_bind (satisfies_exchanged related inside) fun _ => R.rel_pure _
  | .and each => satisfiesAll_exchanged related each
  | .or each => satisfiesAny_exchanged related each

theorem satisfiesAll_exchanged
    (related : ∀ a b, rule a b → R.rel (index.satisfies issue a) (index.satisfies issue b))
    {as bs : List Clause} : List.Forall₂ (Clause.Exchanged rule) as bs →
      R.rel (index.satisfiesAll issue as) (index.satisfiesAll issue bs)
  | .nil => R.rel_refl _
  | .cons first others => by
      refine R.rel_bind (satisfies_exchanged related first) fun holds => ?_
      cases holds with
      | true => exact satisfiesAll_exchanged related others
      | false => exact R.rel_pure _

theorem satisfiesAny_exchanged
    (related : ∀ a b, rule a b → R.rel (index.satisfies issue a) (index.satisfies issue b))
    {as bs : List Clause} : List.Forall₂ (Clause.Exchanged rule) as bs →
      R.rel (index.satisfiesAny issue as) (index.satisfiesAny issue bs)
  | .nil => R.rel_refl _
  | .cons first others => by
      refine R.rel_bind (satisfies_exchanged related first) fun holds => ?_
      cases holds with
      | true => exact R.rel_pure _
      | false => exact satisfiesAny_exchanged related others

end

variable {p q : Query}

theorem selects_exchanged
    (related : ∀ a b, rule a b → R.rel (index.satisfies issue a) (index.satisfies issue b))
    (exchanged : p.Exchanged rule q) : R.rel (index.selects p issue) (index.selects q issue) := by
  obtain ⟨before, keys⟩ := p
  obtain ⟨after, others⟩ := q
  obtain ⟨clauses, -⟩ := exchanged
  change Option.Rel _ before after at clauses
  cases clauses with
  | none => exact R.rel_refl _
  | some parts => exact satisfies_exchanged related parts

variable (related : ∀ issue a b, rule a b →
    R.rel (index.satisfies issue a) (index.satisfies issue b)) (exchanged : p.Exchanged rule q)
include related exchanged

theorem hits_exchanged (issues : List Issue) : R.rel (index.hits p issues) (index.hits q issues) := by
  induction issues with
  | nil =>
      rw [hits_nil, hits_nil]
      exact R.rel_refl _
  | cons issue issues ih =>
      rw [hits_cons, hits_cons]
      refine R.rel_bind (selects_exchanged (related issue) exchanged) fun hit => ?_
      exact R.rel_bind ih fun others => R.rel_refl _

theorem search_exchanged (viewer : Viewer) (page : Page) :
    R.rel (index.search viewer p page) (index.search viewer q page) := by
  rw [search_eq, search_eq, exchanged.orderBy]
  exact R.rel_bind (hits_exchanged related exchanged _) fun hits => R.rel_refl _

end Related

section Equal

section OneIssue

variable {issue : Issue}
  (sound : ∀ a b, rule a b → index.satisfies issue a = index.satisfies issue b)
include sound

theorem satisfies_rewritten_at {a b : Clause} (rewritten : a.Rewritten rule b) :
    index.satisfies issue a = index.satisfies issue b := by
  induction rewritten with
  | rel a b exchanged => exact satisfies_exchanged (R := .equality _) sound exchanged
  | refl a => rfl
  | symm a b _ ih => exact ih.symm
  | trans a b c _ _ first second => exact first.trans second

theorem selects_rewritten_at {p q : Query} (rewritten : p.Rewritten rule q) :
    index.selects p issue = index.selects q issue := by
  induction rewritten with
  | rel p q exchanged => exact selects_exchanged (R := .equality _) sound exchanged
  | refl p => rfl
  | symm p q _ ih => exact ih.symm
  | trans p q r _ _ first second => exact first.trans second

end OneIssue

theorem orderBy_rewritten {p q : Query} (rewritten : p.Rewritten rule q) : p.orderBy = q.orderBy := by
  induction rewritten with
  | rel p q exchanged => exact exchanged.orderBy
  | refl p => rfl
  | symm p q _ ih => exact ih.symm
  | trans p q r _ _ first second => exact first.trans second

/-- What is hidden from the viewer does not have to be kept by the rule. -/
theorem search_rewritten_visible {viewer : Viewer}
    (sound : ∀ issue ∈ index.visibleIssues viewer, ∀ a b, rule a b →
      index.satisfies issue a = index.satisfies issue b)
    {p q : Query} (rewritten : p.Rewritten rule q) (page : Page) :
    index.search viewer p page = index.search viewer q page := by
  apply search_same (orderBy_rewritten rewritten)
  intro issue visible
  exact selects_rewritten_at (sound issue visible) rewritten

variable (sound : ∀ issue a b, rule a b → index.satisfies issue a = index.satisfies issue b)
include sound

theorem satisfies_rewritten {a b : Clause} (rewritten : a.Rewritten rule b) (issue : Issue) :
    index.satisfies issue a = index.satisfies issue b :=
  satisfies_rewritten_at (sound issue) rewritten

theorem search_rewritten {p q : Query} (rewritten : p.Rewritten rule q) (viewer : Viewer)
    (page : Page) : index.search viewer p page = index.search viewer q page :=
  search_rewritten_visible (fun issue _ => sound issue) rewritten page

end Equal

end IssueFilter.Index
