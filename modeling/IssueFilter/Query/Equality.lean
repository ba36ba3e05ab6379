import IssueFilter.Query.Basic

/-! Equality of queries is decidable: operands and clauses are finite trees, compared node by
node. -/
namespace IssueFilter

mutual

def Operand.decEq : (a b : Operand) → Decidable (a = b)
  | .single v, .single w => if h : v = w then .isTrue (h ▸ rfl) else .isFalse (by simp [h])
  | .list xs, .list ys =>
    match Operand.decEqList xs ys with
    | .isTrue h => .isTrue (h ▸ rfl)
    | .isFalse h => .isFalse (by simp [h])
  | .call f, .call g => if h : f = g then .isTrue (h ▸ rfl) else .isFalse (by simp [h])
  | .empty, .empty => .isTrue rfl
  | .single _, .list _ | .single _, .call _ | .single _, .empty
  | .list _, .single _ | .list _, .call _ | .list _, .empty
  | .call _, .single _ | .call _, .list _ | .call _, .empty
  | .empty, .single _ | .empty, .list _ | .empty, .call _ => .isFalse (by simp)

def Operand.decEqList : (xs ys : List Operand) → Decidable (xs = ys)
  | [], [] => .isTrue rfl
  | [], _ :: _ | _ :: _, [] => .isFalse (by simp)
  | x :: xs, y :: ys =>
    match Operand.decEq x y, Operand.decEqList xs ys with
    | .isTrue h, .isTrue t => .isTrue (by simp [h, t])
    | .isFalse h, _ => .isFalse (by simp [h])
    | _, .isFalse t => .isFalse (by simp [t])

end

instance : DecidableEq Operand := Operand.decEq

deriving instance DecidableEq for Condition

mutual

def Clause.decEq : (a b : Clause) → Decidable (a = b)
  | .and xs, .and ys | .or xs, .or ys =>
    match Clause.decEqList xs ys with
    | .isTrue h => .isTrue (h ▸ rfl)
    | .isFalse h => .isFalse (by simp [h])
  | .not a, .not b =>
    match Clause.decEq a b with
    | .isTrue h => .isTrue (h ▸ rfl)
    | .isFalse h => .isFalse (by simp [h])
  | .condition c, .condition d => if h : c = d then .isTrue (h ▸ rfl) else .isFalse (by simp [h])
  | .and _, .or _ | .and _, .not _ | .and _, .condition _
  | .or _, .and _ | .or _, .not _ | .or _, .condition _
  | .not _, .and _ | .not _, .or _ | .not _, .condition _
  | .condition _, .and _ | .condition _, .or _ | .condition _, .not _ => .isFalse (by simp)

def Clause.decEqList : (xs ys : List Clause) → Decidable (xs = ys)
  | [], [] => .isTrue rfl
  | [], _ :: _ | _ :: _, [] => .isFalse (by simp)
  | x :: xs, y :: ys =>
    match Clause.decEq x y, Clause.decEqList xs ys with
    | .isTrue h, .isTrue t => .isTrue (by simp [h, t])
    | .isFalse h, _ => .isFalse (by simp [h])
    | _, .isFalse t => .isFalse (by simp [t])

end

instance : DecidableEq Clause := Clause.decEq

deriving instance DecidableEq for Query

end IssueFilter
