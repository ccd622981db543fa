import Outbox.Settings.Path

/-! A store is a table that is filled by putting values where paths lead. What is in the way of a
    path gives way to the table or list that the path asks for. A table that is put at an entry
    where there is a table goes into it entry by entry; any other value takes the place of what was
    there, and at a place of a list every value does. A list grows up to the place that is asked
    for, but not at its start: a place before the first item is out of reach. -/

namespace Outbox

namespace RawValue

/-- The entries of a table. Nothing else has any. -/
def entries : RawValue → List (String × RawValue)
  | table es => es
  | _ => []

def entry? (v : RawValue) (name : String) : Option RawValue := v.entries.lookup name

/-- The table with one entry set. -/
def setEntry (v : RawValue) (name : String) (x : RawValue) : RawValue :=
  table ((name, x) :: v.entries.filter (·.1 ≠ name))

mutual

/-- Put a value where `old` is. -/
def replace (old : Option RawValue) : RawValue → RawValue
  | table es => (old.getD (table [])).absorb es
  | v => v

/-- Put entries into a table, under names in lower case. -/
def absorb (t : RawValue) : List (String × RawValue) → RawValue
  | [] => t
  | (name, x) :: es =>
    let name := lowered name
    (t.setEntry name (replace (t.entry? name) x)).absorb es

end

/-- The items of a list. Nothing else has any. -/
def items : RawValue → List RawValue
  | list xs => xs
  | _ => []

/-- The list with one item set, and with nulls up to it if it was shorter. -/
def setItem (v : RawValue) (n : Nat) (x : RawValue) : RawValue :=
  list ((v.items.rightpad (n + 1) null).set n x)

/-- Lists do not grow beyond this. -/
def longestList : Nat := 1 <<< 24

/-- Where a place is in a list of some length, if it is in reach. A negative place counts from the
    end. -/
def seat? (length : Nat) (place : Int) : Option Nat :=
  let n := if place < 0 then length + place else place
  if 0 ≤ n ∧ n < longestList then some n.toNat else none

/-- Put `x` where a path leads from `old`, if all its places are in reach. -/
def put (x : RawValue) (old : Option RawValue) : KeyPath → Option RawValue
  | [] => some x
  | [.entry name] =>
    let t := old.getD (table [])
    some (t.setEntry name (replace (t.entry? name) x))
  | .entry name :: path => do
    let t := old.getD (table [])
    return t.setEntry name (← put x (t.entry? name) path)
  | .place i :: path => do
    let l := old.getD (list [])
    let n ← seat? l.items.length i
    return l.setItem n (← put x l.items[n]? path)

/-- The store into which values were put one after the other, if all were in reach. -/
def store (puts : List (KeyPath × RawValue)) : Option RawValue :=
  puts.foldlM (fun t (path, x) => put x (some t) path) (table [])

end RawValue

end Outbox
