/-! Finite tables: a value for each of finitely many keys, in the order in which the keys came. No
key comes twice, so an entry is in a table exactly when looking its key up finds its value. -/
namespace IssueFilter

structure Table (κ ν : Type) where
  entries : List (κ × ν)
  distinct : (entries.map Prod.fst).Nodup
  deriving Repr, DecidableEq

namespace Table

variable {κ ν : Type} [DecidableEq κ]

def empty : Table κ ν := ⟨[], List.nodup_nil⟩

def get? (t : Table κ ν) (k : κ) : Option ν := t.entries.lookup k

def contains (t : Table κ ν) (k : κ) : Bool := (t.get? k).isSome

/-- Puts a value into a list of entries, in the place of the former value if there is one. -/
def put (k : κ) (v : ν) : List (κ × ν) → List (κ × ν)
  | [] => [(k, v)]
  | (j, w) :: rest => if j = k then (k, v) :: rest else (j, w) :: put k v rest

theorem mem_keys_put {k j : κ} {v : ν} {entries : List (κ × ν)}
    (h : j ∈ (put k v entries).map Prod.fst) : j = k ∨ j ∈ entries.map Prod.fst := by
  induction entries with
  | nil => simpa [put] using h
  | cons entry rest ih =>
      unfold put at h
      split at h
      · simp_all
      · simp only [List.map_cons, List.mem_cons] at h ⊢
        rcases h with h | h
        · exact .inr (.inl h)
        · exact (ih h).imp_right .inr

theorem nodup_put (k : κ) (v : ν) {entries : List (κ × ν)}
    (h : (entries.map Prod.fst).Nodup) : ((put k v entries).map Prod.fst).Nodup := by
  induction entries with
  | nil => simp [put]
  | cons entry rest ih =>
      simp only [List.map_cons, List.nodup_cons] at h
      unfold put
      split
      · rename_i same
        simpa [← same] using h
      · rename_i other
        simp only [List.map_cons, List.nodup_cons]
        refine ⟨fun again => ?_, ih h.2⟩
        rcases mem_keys_put again with same | before
        · exact other same
        · exact h.1 before

def insert (t : Table κ ν) (k : κ) (v : ν) : Table κ ν :=
  ⟨put k v t.entries, nodup_put k v t.distinct⟩

theorem lookup_cons_eq (j i : κ) (w : ν) (rest : List (κ × ν)) :
    ((i, w) :: rest).lookup j = if j = i then some w else rest.lookup j := by
  by_cases h : j = i
  · simp [h]
  · have differ : (j == i) = false := by simpa using h
    simp [List.lookup_cons, differ, h]

theorem lookup_put (k j : κ) (v : ν) (entries : List (κ × ν)) :
    (put k v entries).lookup j = if j = k then some v else entries.lookup j := by
  induction entries with
  | nil => simp [put, lookup_cons_eq]
  | cons entry rest ih =>
      obtain ⟨i, w⟩ := entry
      by_cases same : i = k
      · simp only [put, same, if_true, lookup_cons_eq]
        split <;> rfl
      · by_cases h : j = i
        · simp [put, same, h]
        · simp [put, same, lookup_cons_eq, h, ih]

@[simp] theorem get?_empty (k : κ) : (empty : Table κ ν).get? k = none := rfl

@[simp] theorem get?_insert (t : Table κ ν) (k j : κ) (v : ν) :
    (t.insert k v).get? j = if j = k then some v else t.get? j := lookup_put k j v t.entries

theorem contains_insert (t : Table κ ν) (k j : κ) (v : ν) :
    (t.insert k v).contains j = (decide (j = k) || t.contains j) := by
  simp only [contains, get?_insert]
  split <;> simp_all

theorem contains_of_get? {t : Table κ ν} {k : κ} {v : ν} (h : t.get? k = some v) :
    t.contains k = true := by rw [contains, h, Option.isSome_some]

theorem mem_iff_lookup {entries : List (κ × ν)} (h : (entries.map Prod.fst).Nodup) (k : κ) (v : ν) :
    (k, v) ∈ entries ↔ entries.lookup k = some v := by
  induction entries with
  | nil => simp
  | cons entry rest ih =>
      obtain ⟨i, w⟩ := entry
      simp only [List.map_cons, List.nodup_cons] at h
      by_cases same : k = i
      · subst same
        have fresh : (k, v) ∉ rest := fun later => h.1 (List.mem_map_of_mem (f := Prod.fst) later)
        simp [fresh, eq_comm]
      · simp [lookup_cons_eq, same, ih h.2]

theorem mem_entries (t : Table κ ν) (k : κ) (v : ν) : (k, v) ∈ t.entries ↔ t.get? k = some v :=
  mem_iff_lookup t.distinct k v

theorem mem_keys_of_get? {t : Table κ ν} {k : κ} {v : ν} (h : t.get? k = some v) :
    k ∈ t.entries.map Prod.fst := List.mem_map_of_mem (f := Prod.fst) ((t.mem_entries k v).mpr h)

end Table

end IssueFilter
