import IssueFilter.Proofs.Search.Arrangement

/-! Pages of a result. The search that a page is asked from does not depend on the page, so it fails or
succeeds for all pages alike; a page has the issues at its positions in the whole result, and pages of one
size, put one after the other, are the whole result again. -/
namespace IssueFilter

namespace Page

/-- The position behind the last one of the page, if there are so many hits on all pages. -/
def stop (page : Page) (total : Nat) : Nat :=
  match page.max with
  | none => total
  | some max => min (page.start + max) total

/-- How the pages of a whole lie in it. -/
structure Tiles {α : Type} (whole : List α) (part : Page → List α) : Prop where
  length : ∀ page, (part page).length = page.stop whole.length - page.start
  position : ∀ page i, page.start + i < page.stop whole.length →
    (part page)[i]? = whole[page.start + i]?
  /-- Enough pages of one size are the whole, which a page size above zero makes possible. -/
  joined : ∀ size, 0 < size → ∀ count, whole.length ≤ count * size →
    ((List.range count).flatMap fun i => part ⟨i * size, some size⟩) = whole

section

variable {α : Type} (whole : List α)

theorem length_select (page : Page) :
    (page.select whole).length = page.stop whole.length - page.start := by
  unfold select stop
  cases page.max with
  | none => exact List.length_drop
  | some max =>
      simp only [List.length_take, List.length_drop]
      omega

theorem getElem?_select {page : Page} {i : Nat} (inside : page.start + i < page.stop whole.length) :
    (page.select whole)[i]? = whole[page.start + i]? := by
  unfold select
  unfold stop at inside
  cases limit : page.max with
  | none => exact List.getElem?_drop
  | some max =>
      simp only [limit] at inside
      have small : i < max := by omega
      rw [List.getElem?_take_of_lt small, List.getElem?_drop]

/-- Any number of pages are a first part of the whole. -/
theorem flatMap_select (size count : Nat) :
    ((List.range count).flatMap fun i => select ⟨i * size, some size⟩ whole) =
      whole.take (count * size) := by
  induction count with
  | zero => rw [Nat.zero_mul, List.take_zero]; rfl
  | succ count ih =>
      rw [List.range_succ, List.flatMap_append, ih, Nat.succ_mul, List.take_add,
        List.flatMap_singleton]
      rfl

theorem tiles_select : Tiles whole fun page => page.select whole where
  length := length_select whole
  position _ _ := getElem?_select whole
  joined size _ count enough := by rw [flatMap_select, List.take_of_length_le enough]

end

end Page

/-- The outcomes for all pages fit together: none of them succeeds without the others, and the pages tile
the unlimited result. -/
def PagesTile {ε : Type} (outcome : Page → Except ε SearchResults) : Prop :=
  match outcome .unlimited with
  | .error e => ∀ page, outcome page = .error e
  | .ok whole => whole.total = whole.issues.length ∧ (whole.issues.map Issue.id).Nodup ∧
    ∃ part, Page.Tiles whole.issues part ∧ ∀ page, outcome page = .ok ⟨part page, whole.total⟩

namespace PagesTile

variable {ε δ : Type}

theorem ofError (e : ε) : PagesTile fun _ => (.error e : Except ε SearchResults) := fun _ => rfl

theorem ofResults {whole : List Issue} (distinct : (whole.map Issue.id).Nodup) :
    PagesTile fun page => (.ok ⟨page.select whole, whole.length⟩ : Except ε SearchResults) :=
  ⟨rfl, distinct, fun page => page.select whole, Page.tiles_select whole, fun _ => rfl⟩

/-- An error may be reported as one of another kind. -/
theorem mapError {outcome : Page → Except ε SearchResults} (tile : PagesTile outcome) (f : ε → δ) :
    PagesTile fun page => (outcome page).mapError f := by
  unfold PagesTile at tile
  cases whole : outcome .unlimited with
  | error e =>
      rw [whole] at tile
      have failed : (fun page => (outcome page).mapError f) = fun _ => .error (f e) := by
        funext page
        rw [tile page]
        rfl
      rw [failed]
      exact ofError (f e)
  | ok results =>
      rw [whole] at tile
      obtain ⟨total, distinct, part, tiles, pages⟩ := tile
      unfold PagesTile
      simp only [whole, Except.mapError]
      exact ⟨total, distinct, part, tiles, fun page => by rw [pages page]⟩

end PagesTile

namespace Index

/-- The page is cut out last. -/
theorem search_cases (index : Index) (viewer : Viewer) (query : Query) :
    (∃ e, ∀ page, index.search viewer query page = .error e) ∨
      ∃ whole, ∀ page, index.search viewer query page = .ok ⟨page.select whole, whole.length⟩ := by
  cases searched : index.hits query (index.visibleIssues viewer) with
  | error e =>
      refine .inl ⟨e, fun page => ?_⟩
      rw [search_eq]
      exact bind_eq_error_iff.mpr (.inl searched)
  | ok hits =>
      cases arranged : index.arranged query.orderBy hits with
      | error e =>
          refine .inl ⟨e, fun page => ?_⟩
          rw [search_eq]
          exact bind_eq_error_iff.mpr (.inr ⟨hits, searched, bind_eq_error_iff.mpr (.inl arranged)⟩)
      | ok sorted =>
          exact .inr ⟨sorted, fun page =>
            search_eq_ok_iff.mpr ⟨hits, sorted, searched, arranged, rfl⟩⟩

theorem Consistent.pagesTile_search {index : Index} (h : index.Consistent) (viewer : Viewer)
    (query : Query) : PagesTile (index.search viewer query) := by
  rcases index.search_cases viewer query with ⟨e, failed⟩ | ⟨whole, found⟩
  · rw [funext failed]
    exact .ofError e
  · rw [funext found]
    exact .ofResults (h.issues_found (found .unlimited)).1

end Index

end IssueFilter
