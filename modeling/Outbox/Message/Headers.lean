/-! The headers of a message: names with byte values, each name at most once. They are kept sorted
    by name, so two headers with the same bindings are the same value whatever order they were
    written in, and listing them is already in the order of the names. -/

namespace Outbox

namespace Headers

/-- Bind `name` to `value` in a sorted list of bindings, in place of an older binding. -/
def insertSorted (name : String) (value : ByteArray) :
    List (String × ByteArray) → List (String × ByteArray)
  | [] => [(name, value)]
  | (n, v) :: rest =>
    if name < n then (name, value) :: (n, v) :: rest
    else if n < name then (n, v) :: insertSorted name value rest
    else (n, value) :: rest

theorem mem_insertSorted {name : String} {value : ByteArray} {b : String × ByteArray} :
    ∀ {l : List (String × ByteArray)}, b ∈ insertSorted name value l →
      b.1 = name ∨ ∃ c ∈ l, c.1 = b.1
  | [], h => by
    rw [insertSorted, List.mem_singleton] at h
    exact .inl (h ▸ rfl)
  | (n, v) :: rest, h => by
    unfold insertSorted at h
    split at h
    · rcases List.mem_cons.mp h with rfl | h
      · exact .inl rfl
      · exact .inr ⟨b, h, rfl⟩
    · split at h
      · rcases List.mem_cons.mp h with rfl | h
        · exact .inr ⟨(n, v), List.mem_cons_self, rfl⟩
        · rcases mem_insertSorted h with h | ⟨c, hc, he⟩
          · exact .inl h
          · exact .inr ⟨c, List.mem_cons_of_mem _ hc, he⟩
      · rcases List.mem_cons.mp h with rfl | h
        · exact .inr ⟨(n, v), List.mem_cons_self, rfl⟩
        · exact .inr ⟨b, List.mem_cons_of_mem _ h, rfl⟩

theorem pairwise_insertSorted {name : String} {value : ByteArray} :
    ∀ {l : List (String × ByteArray)}, l.Pairwise (·.1 < ·.1) →
      (insertSorted name value l).Pairwise (·.1 < ·.1)
  | [], _ => by simp [insertSorted]
  | (n, v) :: rest, h => by
    obtain ⟨hn, hr⟩ := List.pairwise_cons.mp h
    unfold insertSorted
    split
    · next hlt =>
      refine List.pairwise_cons.mpr ⟨fun b hb => ?_, h⟩
      rcases List.mem_cons.mp hb with rfl | hb
      · exact hlt
      · exact String.lt_trans hlt (hn b hb)
    · split
      · next hlt =>
        refine List.pairwise_cons.mpr ⟨fun b hb => ?_, pairwise_insertSorted hr⟩
        rcases mem_insertSorted hb with he | ⟨c, hc, he⟩
        · exact he ▸ hlt
        · exact he ▸ hn c hc
      · exact List.pairwise_cons.mpr ⟨hn, hr⟩

end Headers

/-- Bytes are compared as the core library compares them. -/
instance decidableEqBytes : DecidableEq ByteArray := ByteArray.instDecidableEq

structure Headers where
  bindings : List (String × ByteArray)
  sorted : bindings.Pairwise (·.1 < ·.1)
  deriving DecidableEq

namespace Headers

def empty : Headers := ⟨[], .nil⟩

instance : Inhabited Headers := ⟨empty⟩

/-- Bind `name` to `value`; the last binding of a name wins. -/
def insert (h : Headers) (name : String) (value : ByteArray) : Headers :=
  ⟨insertSorted name value h.bindings, pairwise_insertSorted h.sorted⟩

/-- Bind each pair in turn. -/
def ofList (l : List (String × ByteArray)) : Headers :=
  l.foldl (fun h b => h.insert b.1 b.2) empty

def contains (h : Headers) (name : String) : Bool := h.bindings.any (·.1 == name)

end Headers

end Outbox
