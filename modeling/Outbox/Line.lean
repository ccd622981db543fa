/-! A line is a list that grows at either end at no cost, however long it is, and that knows how
    long it is. It holds its first items in order and the others in reverse, so that both ends are
    at hand. What it holds is read as one list, and each operation says what it does to that
    list. -/

namespace Outbox

structure Line (α : Type) where
  front : List α
  /-- The items after `front`, the last one first. -/
  back : List α
  size : Nat
  size_eq : size = front.length + back.length

namespace Line

variable {α : Type}

def ofList (xs : List α) : Line α := ⟨xs, [], xs.length, rfl⟩

def empty : Line α := ofList []

instance : Inhabited (Line α) := ⟨empty⟩

def toList (l : Line α) : List α := l.front ++ l.back.reverse

def isEmpty (l : Line α) : Bool := l.size == 0

def pushBack (l : Line α) (x : α) : Line α :=
  ⟨l.front, x :: l.back, l.size + 1, by rw [l.size_eq, List.length_cons, Nat.add_assoc]⟩

def pushFront (l : Line α) (x : α) : Line α :=
  ⟨x :: l.front, l.back, l.size + 1, by rw [l.size_eq, List.length_cons, Nat.add_right_comm]⟩

/-- The line behind `xs`. -/
def behind (l : Line α) (xs : List α) : Line α :=
  ⟨xs ++ l.front, l.back, xs.length + l.size, by
    rw [l.size_eq, List.length_append, Nat.add_assoc]⟩

/-- The item at place `i`. -/
def get? (l : Line α) (i : Nat) : Option α :=
  match l.front[i]? with
  | some x => some x
  | none => if i < l.size then l.back[l.size - 1 - i]? else none

/-- What comes after the first `n` items. -/
def drop (l : Line α) (n : Nat) : List α :=
  if l.front.length ≤ n then (l.back.take (l.size - n)).reverse else l.toList.drop n

@[simp] theorem toList_ofList (xs : List α) : (ofList xs).toList = xs := by
  simp [ofList, toList]

@[simp] theorem toList_empty : (empty : Line α).toList = [] := rfl

@[simp] theorem toList_pushBack (l : Line α) (x : α) :
    (l.pushBack x).toList = l.toList ++ [x] := by
  simp [pushBack, toList]

@[simp] theorem toList_pushFront (l : Line α) (x : α) :
    (l.pushFront x).toList = x :: l.toList := rfl

@[simp] theorem toList_behind (l : Line α) (xs : List α) :
    (l.behind xs).toList = xs ++ l.toList := by
  simp [behind, toList]

@[simp] theorem length_toList (l : Line α) : l.toList.length = l.size := by
  simp [toList, l.size_eq]

theorem get?_eq (l : Line α) (i : Nat) : l.get? i = l.toList[i]? := by
  unfold get? toList
  cases h : l.front[i]? with
  | some x => rw [List.getElem?_append_left (List.getElem?_eq_some_iff.mp h).1, h]
  | none =>
    have hi := List.getElem?_eq_none_iff.mp h
    rw [List.getElem?_append_right hi]
    by_cases hs : i < l.size
    · have hb : i - l.front.length < l.back.length := by have := l.size_eq; omega
      have he : l.size - 1 - i = l.back.length - 1 - (i - l.front.length) := by
        have := l.size_eq
        omega
      rw [if_pos hs, List.getElem?_reverse hb, he]
    · have hb : l.back.length ≤ i - l.front.length := by have := l.size_eq; omega
      rw [if_neg hs, List.getElem?_eq_none (by rwa [List.length_reverse])]

theorem drop_eq (l : Line α) (n : Nat) : l.drop n = l.toList.drop n := by
  unfold drop
  split
  · next h =>
    rw [toList, List.drop_append, List.drop_eq_nil_of_le h, List.nil_append, List.drop_reverse,
      Nat.sub_sub_right _ h, l.size_eq, Nat.add_comm]
  · rfl

theorem isEmpty_iff {l : Line α} : l.isEmpty = true ↔ l.toList = [] := by
  rw [isEmpty, beq_iff_eq, ← length_toList, List.length_eq_zero_iff]

end Line

end Outbox
