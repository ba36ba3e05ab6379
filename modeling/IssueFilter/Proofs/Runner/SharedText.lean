import IssueFilter.Proofs.Query.Printed
import IssueFilter.Query.Equality
import IssueFilter.Proofs.Runner.Sanitising
import IssueFilter.Proofs.Search.Regrouping

/-! The text of a sanitised query as a key. Users may write different filters and be shown different ids
in them; where the texts of the sanitised queries are one, the queries differ in regroupings only. These
matter neither to a search nor to the calls, which are replaced one by one in the order of the text. -/
namespace IssueFilter

namespace Runner

variable {m : Type → Type} [Monad m] [LawfulMonad m] {runner : Runner m} {index : Index}
  {loggedIn : m Viewer} {catalog : Catalog} {config : FunctionConfig}

/-- A regrouping does not change which calls are replaced, nor their order, and the replacements are
regrouped in the same way. -/
theorem resolve_flattened (runner : Runner m) (context : Viewer) (query : Query) :
    runner.resolve context query.flattened = Query.flattened <$> runner.resolve context query :=
  query.mapConditionsM_flattened _

theorem answers_resolve_congr {p q : Query} (same : p.flattened = q.flattened) (context : Viewer) :
    index.answers <$> runner.resolve context p = index.answers <$> runner.resolve context q := by
  have regrouped : ∀ query, index.answers <$> runner.resolve context query.flattened =
      index.answers <$> runner.resolve context query := by
    intro query
    rw [resolve_flattened, Functor.map_map]
    congr 1
    funext resolved
    exact index.answers_flattened resolved
  rw [← regrouped p, same, regrouped q]

/-- If the sanitised forms of two filters have the same text, then nobody can tell them apart, neither
by searching for them nor by searching for what they are resolved to in some context. -/
theorem sanitised_text_tells (serves : runner.Serves index loggedIn catalog config)
    {text₁ text₂ : String} {query₁ query₂ : Query} (accepted₁ : Query.parse text₁ = .ok query₁)
    (accepted₂ : Query.parse text₂ = .ok query₂) (viewer₁ viewer₂ : Viewer) :
    let shown₁ := index.shownQuery config viewer₁ query₁
    let shown₂ := index.shownQuery config viewer₂ query₂
    runner.sanitise viewer₁ query₁ = pure shown₁ ∧ runner.sanitise viewer₂ query₂ = pure shown₂ ∧
      (shown₁.text = shown₂.text →
        (∀ viewer page, index.search viewer shown₁ page = index.search viewer shown₂ page) ∧
        ∀ context, index.answers <$> runner.resolve context shown₁ =
          index.answers <$> runner.resolve context shown₂) := by
  intro shown₁ shown₂
  refine ⟨serves.sanitise viewer₁ query₁, serves.sanitise viewer₂ query₂, ?_⟩
  intro sameText
  have parsed₁ : shown₁.Parsed :=
    (Query.parsed_of_ofChars accepted₁).mapCalls (index.shownCall_name config viewer₁)
  have parsed₂ : shown₂.Parsed :=
    (Query.parsed_of_ofChars accepted₂).mapCalls (index.shownCall_name config viewer₂)
  have same := parsed₁.flattened_eq_of_chars parsed₂ (String.ofList_inj.mp sameText)
  constructor
  · intro viewer page
    exact congrFun (congrFun (index.answers_congr same) viewer) page
  · intro context
    exact answers_resolve_congr same context

/-- Anonymous viewers are shown the id for the key of a hidden project, and bob writes the id himself
and groups the conditions in another way. -/
theorem sanitised_text_tells_hiddenProject :
    let index := Index.empty.run hiddenProjectChanges
    let runner := ofIndex {} index
    let call (argument : String) : Clause :=
      .condition ⟨"issue", .isIn, .call ⟨"issuesInQuery", ["status = Open", argument]⟩⟩
    let isOpen : Clause := .condition ⟨"status", .equals, .single (.text "Open")⟩
    let named : Clause := .condition ⟨"summary", .like, .single (.text "x")⟩
    let inner : Query := ⟨some (.and [isOpen, .and [named, call "5"]]), []⟩
    let outer : Query := ⟨some (.and [.and [isOpen, named], call "5"]), []⟩
    inner ≠ outer ∧
      runner.sanitise .anonymous ⟨some (.and [isOpen, .and [named, call "Sec"]]), []⟩ = pure inner ∧
      runner.sanitise (.user "bob") outer = pure outer ∧
      index.search .anonymous inner .unlimited = index.search .anonymous outer .unlimited ∧
      index.answers <$> runner.resolve .anonymous inner =
        index.answers <$> runner.resolve .anonymous outer := by
  intro index runner call isOpen named inner outer
  have accepted₁ : Query.parse
      "status = Open and (summary ~ x and issue in issuesInQuery('status = Open', Sec))" =
        .ok ⟨some (.and [isOpen, .and [named, call "Sec"]]), []⟩ := rfl
  have accepted₂ : Query.parse
      "(status = Open and summary ~ x) and issue in issuesInQuery(\"status = Open\", 5)" =
        .ok outer := rfl
  have shown₁ : index.shownQuery {} .anonymous ⟨some (.and [isOpen, .and [named, call "Sec"]]), []⟩ =
      inner := by decide +kernel
  have shown₂ : index.shownQuery {} (.user "bob") outer = outer := by decide +kernel
  have tells := sanitised_text_tells (serves_ofIndex {} index) accepted₁ accepted₂ .anonymous
    (.user "bob")
  simp only [shown₁, shown₂] at tells
  obtain ⟨sanitised₁, sanitised₂, alike⟩ := tells
  have sameText : inner.text = outer.text := by decide +kernel
  obtain ⟨searched, resolved⟩ := alike sameText
  exact ⟨by decide, sanitised₁, sanitised₂, searched _ _, resolved _⟩

end Runner

end IssueFilter
