import IssueFilter.Proofs.Query.Filling

/-! Places inside an operand. A place says which item of the list to take, which item of that one, and so
on inwards; the operand itself is at the empty place. To refill an operand is to put the answers into the
places of its calls, from left to right. -/
namespace IssueFilter

/-- The first list takes from the others what it has partners for. -/
theorem zip_append_left {α β : Type} (first second : List α) (others : List β) :
    (first ++ second).zip others = first.zip others ++ second.zip (others.drop first.length) := by
  induction first generalizing others with
  | nil => rfl
  | cons a first ih =>
      cases others with
      | nil => simp
      | cons other others => exact congrArg ((a, other) :: ·) (ih others)

namespace Operand

/-- What stands at the place, if the operand goes that deep. -/
def atPlace : Operand → List Nat → Option Operand
  | operand, [] => some operand
  | .list items, index :: inner => items[index]?.bind (·.atPlace inner)
  | _, _ :: _ => none

/-- The operand with an answer instead of what stands at the place. -/
def put : Operand → List Nat → Operand → Operand
  | _, [], answer => answer
  | .list items, index :: inner, answer => .list (items.modify index (·.put inner answer))
  | operand, _ :: _, _ => operand

def putAll (operand : Operand) (placed : List (List Nat × Operand)) : Operand :=
  placed.foldl (fun operand located => operand.put located.1 located.2) operand

mutual

/-- The calls of the operand from left to right, each with its place. -/
def locatedCalls : Operand → List (List Nat × Call)
  | .single _ | .empty => []
  | .list items => locatedCallsFrom 0 items
  | .call c => [([], c)]

/-- The items are counted from the number on. -/
def locatedCallsFrom (start : Nat) : List Operand → List (List Nat × Call)
  | [] => []
  | item :: items =>
    item.locatedCalls.map (Prod.map (start :: ·) id) ++ locatedCallsFrom (start + 1) items

end

/-- The places are those of the calls, in the order in which the calls are listed and from left to right. -/
structure CallsAt (operand : Operand) (places : List (List Nat)) : Prop where
  listed : places.map operand.atPlace = operand.calls.map fun call => some (.call call)
  all : ∀ place call, operand.atPlace place = some (.call call) → place ∈ places
  ordered : places.Pairwise (· < ·)

section Locating

mutual

theorem calls_located : ∀ operand : Operand, operand.locatedCalls.map Prod.snd = operand.calls
  | .single _ | .empty | .call _ => rfl
  | .list items => callsOfList_located 0 items

theorem callsOfList_located : ∀ (start : Nat) (items : List Operand),
    (locatedCallsFrom start items).map Prod.snd = callsOfList items
  | _, [] => rfl
  | start, item :: items => by
      rw [locatedCallsFrom, callsOfList, List.map_append, List.map_map, ← item.calls_located,
        callsOfList_located (start + 1) items]
      rfl

end

theorem length_locatedCalls (operand : Operand) :
    operand.locatedCalls.length = operand.calls.length := by
  rw [← operand.calls_located, List.length_map]

theorem mem_locatedCallsFrom {start : Nat} {items : List Operand} {place : List Nat} {call : Call} :
    (place, call) ∈ locatedCallsFrom start items ↔ ∃ index item inner,
      place = (start + index) :: inner ∧ items[index]? = some item ∧
        (inner, call) ∈ item.locatedCalls := by
  induction items generalizing start with
  | nil => simp [locatedCallsFrom]
  | cons first items ih =>
      rw [locatedCallsFrom, List.mem_append, List.mem_map, ih]
      constructor
      · rintro (⟨⟨inner, other⟩, member, same⟩ | ⟨index, item, inner, rfl, found, member⟩)
        · cases same
          exact ⟨0, first, inner, rfl, rfl, member⟩
        · refine ⟨index + 1, item, inner, ?_, found, member⟩
          rw [Nat.add_right_comm, Nat.add_assoc]
      · rintro ⟨index, item, inner, rfl, found, member⟩
        cases index with
        | zero =>
            cases found
            exact .inl ⟨(inner, call), member, rfl⟩
        | succ index =>
            refine .inr ⟨index, item, inner, ?_, found, member⟩
            rw [Nat.add_right_comm, Nat.add_assoc]

/-- Every call is located, however deep it is, and nothing else is. -/
theorem mem_locatedCalls {operand : Operand} {place : List Nat} {call : Call} :
    (place, call) ∈ operand.locatedCalls ↔ operand.atPlace place = some (.call call) := by
  -- along the place, which leads through the lists of the operand
  induction place generalizing operand with
  | nil => cases operand <;> simp [locatedCalls, atPlace, mem_locatedCallsFrom, eq_comm]
  | cons index inner ih =>
      cases operand with
      | list items =>
          rw [locatedCalls, mem_locatedCallsFrom, atPlace, Option.bind_eq_some_iff]
          constructor
          · rintro ⟨index, item, inner, same, found, member⟩
            obtain ⟨rfl, rfl⟩ := List.cons.inj same
            exact ⟨item, by rwa [Nat.zero_add], ih.mp member⟩
          · rintro ⟨item, found, stands⟩
            exact ⟨index, item, inner, by rw [Nat.zero_add], found, ih.mpr stands⟩
      | single value => simp [locatedCalls, atPlace]
      | call c => simp [locatedCalls, atPlace]
      | empty => simp [locatedCalls, atPlace]

mutual

/-- No place is listed twice, and what is further to the left is listed first. -/
theorem ordered_locatedCalls : ∀ operand : Operand,
    operand.locatedCalls.Pairwise (·.1 < ·.1)
  | .single _ | .empty => .nil
  | .list items => ordered_locatedCallsFrom 0 items
  | .call _ => List.pairwise_singleton _ _

theorem ordered_locatedCallsFrom : ∀ (start : Nat) (items : List Operand),
    (locatedCallsFrom start items).Pairwise (·.1 < ·.1)
  | _, [] => .nil
  | start, item :: items => by
      rw [locatedCallsFrom, List.pairwise_append, List.pairwise_map]
      refine ⟨?_, ordered_locatedCallsFrom (start + 1) items, ?_⟩
      · exact item.ordered_locatedCalls.imp fun before =>
          List.cons_lt_cons_iff.mpr (.inr ⟨rfl, before⟩)
      · rintro first member ⟨place, call⟩ later
        obtain ⟨located, -, rfl⟩ := List.mem_map.mp member
        obtain ⟨index, -, inner, rfl, -⟩ := mem_locatedCallsFrom.mp later
        exact List.cons_lt_cons_iff.mpr (.inl (by omega))

end

theorem callsAt_located (operand : Operand) : operand.CallsAt (operand.locatedCalls.map Prod.fst) where
  listed := by
    rw [← operand.calls_located, List.map_map, List.map_map]
    exact List.map_congr_left fun _ member => mem_locatedCalls.mp member
  all place call stands := List.mem_map.mpr ⟨(place, call), mem_locatedCalls.mpr stands, rfl⟩
  ordered := List.pairwise_map.mpr operand.ordered_locatedCalls

end Locating

section Putting

theorem put_item (before after : List Operand) (item answer : Operand) (inner : List Nat) :
    (Operand.list (before ++ item :: after)).put (before.length :: inner) answer =
      .list (before ++ item.put inner answer :: after) := by
  have modified := List.modifyTailIdx_add (List.modifyHead fun item : Operand => item.put inner answer)
    0 before (item :: after)
  exact congrArg Operand.list modified

/-- What is put into one item leaves the others alone. -/
theorem putAll_item (before after : List Operand) (item : Operand)
    (placed : List (List Nat × Operand)) :
    (Operand.list (before ++ item :: after)).putAll
        (placed.map (Prod.map (before.length :: ·) id)) =
      .list (before ++ item.putAll placed :: after) := by
  induction placed generalizing item with
  | nil => rfl
  | cons first placed ih =>
      calc (Operand.list (before ++ item :: after)).putAll
            ((first :: placed).map (Prod.map (before.length :: ·) id))
        _ = ((Operand.list (before ++ item :: after)).put (before.length :: first.1) first.2).putAll
              (placed.map (Prod.map (before.length :: ·) id)) := rfl
        _ = .list (before ++ (item.put first.1 first.2).putAll placed :: after) := by
            rw [put_item, ih]

theorem atPlace_item (before after : List Operand) (item : Operand) (inner : List Nat) :
    (Operand.list (before ++ item :: after)).atPlace (before.length :: inner) =
      item.atPlace inner := by
  rw [atPlace, List.getElem?_append_right (Nat.le_refl _), Nat.sub_self, List.getElem?_cons_zero,
    Option.bind_some]

end Putting

section Refilling

/-- The first answers are for the first item. -/
theorem refillList_cons (item : Operand) (items answers : List Operand) :
    (refillList (item :: items) answers).1 =
      (item.refill answers).1 :: (refillList items (answers.drop item.calls.length)).1 := by
  rw [← left_refill]
  rfl

mutual

/-- Refilling puts the answers into the places of the calls, as far as there are answers. -/
theorem fst_refill : ∀ (operand : Operand) (answers : List Operand),
    (operand.refill answers).1 = operand.putAll ((operand.locatedCalls.map Prod.fst).zip answers)
  | .single _, _ | .empty, _ => rfl
  | .list items, answers => fst_refillList [] items answers
  | .call _, [] => rfl
  | .call _, _ :: _ => by
      rw [locatedCalls, List.map_singleton, List.zip_cons_cons]
      rfl

theorem fst_refillList : ∀ (before items answers : List Operand),
    Operand.list (before ++ (refillList items answers).1) =
      (Operand.list (before ++ items)).putAll
        (((locatedCallsFrom before.length items).map Prod.fst).zip answers)
  | _, [], _ => rfl
  | before, item :: items, answers => by
      -- once the item here has its answers, it is one of those before
      let here := (item.locatedCalls.map Prod.fst).zip answers
      let there := ((locatedCallsFrom (before.length + 1) items).map Prod.fst).zip
        (answers.drop item.calls.length)
      have split : ((locatedCallsFrom before.length (item :: items)).map Prod.fst).zip answers =
          here.map (Prod.map (before.length :: ·) id) ++ there := by
        rw [locatedCallsFrom, List.map_append, zip_append_left, List.length_map, List.length_map,
          length_locatedCalls, ← List.zip_map_left, List.map_map, List.map_map]
        rfl
      calc Operand.list (before ++ (refillList (item :: items) answers).1)
        _ = .list ((before ++ [(item.refill answers).1]) ++
              (refillList items (answers.drop item.calls.length)).1) := by
            rw [refillList_cons, List.append_assoc, List.singleton_append]
        _ = (Operand.list (before ++ item.putAll here :: items)).putAll there := by
            rw [fst_refillList _ items, fst_refill item answers, List.length_append,
              List.append_assoc, List.singleton_append]
            rfl
        _ = ((Operand.list (before ++ item :: items)).putAll
              (here.map (Prod.map (before.length :: ·) id))).putAll there := by
            rw [putAll_item]
        _ = (Operand.list (before ++ item :: items)).putAll
              (here.map (Prod.map (before.length :: ·) id) ++ there) := List.foldl_append.symm
        _ = _ := by rw [split]

end

mutual

/-- After refilling, an answer stands where its call stood. -/
theorem atPlace_refill : ∀ (operand : Operand) (answers : List Operand),
    operand.calls.length ≤ answers.length →
      operand.locatedCalls.map (fun located => (operand.refill answers).1.atPlace located.1) =
        (answers.take operand.calls.length).map some
  | .single _, _, _ | .empty, _, _ => rfl
  | .list items, answers, enough => atPlace_refillList [] items answers enough
  | .call _, [], enough => absurd enough (Nat.not_succ_le_zero 0)
  | .call _, _ :: _, _ => rfl

theorem atPlace_refillList : ∀ before items answers : List Operand,
    (callsOfList items).length ≤ answers.length →
      (locatedCallsFrom before.length items).map (fun located =>
          (Operand.list (before ++ (refillList items answers).1)).atPlace located.1) =
        (answers.take (callsOfList items).length).map some
  | _, [], _, _ => rfl
  | before, item :: items, answers, enough => by
      rw [callsOfList, List.length_append] at enough
      have first : (item.locatedCalls.map fun located =>
          (Operand.list (before ++ (refillList (item :: items) answers).1)).atPlace
            (before.length :: located.1)) = (answers.take item.calls.length).map some :=
        (List.map_congr_left fun located _ =>
          atPlace_item before _ (item.refill answers).1 located.1).trans
            (item.atPlace_refill answers (by omega))
      have others := atPlace_refillList (before ++ [(item.refill answers).1]) items
        (answers.drop item.calls.length) (by rw [List.length_drop]; omega)
      rw [List.length_append, List.append_assoc, List.singleton_append, ← refillList_cons] at others
      rw [locatedCallsFrom, callsOfList, List.length_append, List.take_add, List.map_append,
        List.map_append, List.map_map, ← first, ← others]
      rfl

end

end Refilling

end Operand

end IssueFilter
