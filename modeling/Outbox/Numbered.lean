import Std.Data.TreeMap

/-! Things that are numbered from zero in the order in which they come. A thing is found and changed
    by its number, and keeps it. -/

namespace Outbox

structure Numbered (α : Type) where
  entries : Std.TreeMap Nat α
  size : Nat
  mem_iff : ∀ n, n ∈ entries ↔ n < size

namespace Numbered

variable {α : Type}

def empty : Numbered α := ⟨∅, 0, fun n => by simp⟩

instance : Inhabited (Numbered α) := ⟨empty⟩

def get? (t : Numbered α) (n : Nat) : Option α := t.entries[n]?

/-- All the things in the order of their numbers. -/
def toList (t : Numbered α) : List α := t.entries.values

/-- Give the next number to `x`. -/
def push (t : Numbered α) (x : α) : Numbered α :=
  ⟨t.entries.insert t.size x, t.size + 1, fun n => by
    rw [Std.TreeMap.mem_insert, t.mem_iff, Nat.compare_eq_eq]
    omega⟩

/-- Change the thing with number `n`, if there is one. -/
def modify (t : Numbered α) (n : Nat) (f : α → α) : Numbered α :=
  ⟨t.entries.modify n f, t.size, fun k => by rw [Std.TreeMap.mem_modify, t.mem_iff]⟩

@[simp] theorem get?_empty (n : Nat) : (empty : Numbered α).get? n = none := by
  simp [empty, get?]

theorem isSome_get? (t : Numbered α) (n : Nat) : (t.get? n).isSome = true ↔ n < t.size := by
  rw [get?, Std.TreeMap.isSome_getElem?_iff_mem, t.mem_iff]

@[simp] theorem size_push (t : Numbered α) (x : α) : (t.push x).size = t.size + 1 := rfl

@[simp] theorem size_modify (t : Numbered α) (n : Nat) (f : α → α) :
    (t.modify n f).size = t.size := rfl

theorem get?_push (t : Numbered α) (x : α) (n : Nat) :
    (t.push x).get? n = if n = t.size then some x else t.get? n := by
  simp only [push, get?, Std.TreeMap.getElem?_insert, Nat.compare_eq_eq, @eq_comm _ n]

theorem get?_modify (t : Numbered α) (k : Nat) (f : α → α) (n : Nat) :
    (t.modify k f).get? n = if n = k then (t.get? n).map f else t.get? n := by
  by_cases h : n = k
  · simp [modify, get?, h]
  · simp [modify, get?, Std.TreeMap.getElem?_modify, h, Ne.symm h]

@[simp] theorem get?_push_size (t : Numbered α) (x : α) : (t.push x).get? t.size = some x := by
  rw [get?_push, if_pos rfl]

end Numbered

end Outbox
