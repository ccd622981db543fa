import Outbox.Settings.Value

/-! A key may be a path that leads through tables and lists: the name of an entry, and then, as
    often as it goes on, either a point and the name of an entry of the table found there, or a
    place of the list found there, in brackets. Names are made of ASCII letters, digits, blanks,
    underscores and hyphens. A path keeps the case in which it is written; entries are found under
    its names in lower case. -/

namespace Outbox

inductive PathStep where
  | entry (name : String)
  | place (i : Int)
  deriving DecidableEq

abbrev KeyPath := List PathStep

namespace KeyPath

def isNameChar (c : Char) : Bool := c.isAlphanum || c = ' ' || c = '_' || c = '-'

/-- The entry that the text names at its start. -/
def entry? (cs : List Char) : Option PathStep :=
  let name := cs.takeWhile isNameChar
  if name.isEmpty then none else some (.entry (String.ofList name))

def isBlank (c : Char) : Bool := c = ' ' || c = '\t'

/-- The place that is written between brackets. Negative places count from the end. -/
def place? (cs : List Char) : Option PathStep :=
  let number := ((cs.dropWhile isBlank).reverse.dropWhile isBlank).reverse
  let n : Option Int :=
    match number with
    | '-' :: digits => (RawValue.digits? digits).map fun n => -n
    | digits => (RawValue.digits? digits).map fun n => n
  (n.bind IntegerRange.signed.check).map .place

/-- The steps that follow the first. -/
def steps? : List Char → Option KeyPath
  | [] => some []
  | '.' :: cs => do
    let step ← entry? cs
    return step :: (← steps? (cs.dropWhile isNameChar))
  | '[' :: cs => do
    unless ']' ∈ cs do none
    let step ← place? (cs.takeWhile (· ≠ ']'))
    return step :: (← steps? (cs.dropWhile (· ≠ ']')).tail)
  | _ => none
termination_by cs => cs.length
decreasing_by
  · exact Nat.lt_succ_of_le (List.dropWhile_suffix isNameChar).length_le
  · have := (List.dropWhile_suffix (l := cs) (· ≠ ']')).length_le
    simp only [List.length_tail, List.length_cons]
    omega

/-- Read a path, if the text is one. -/
def ofText? (s : String) : Option KeyPath := do
  let cs := s.toList
  let step ← entry? cs
  return step :: (← steps? (cs.dropWhile isNameChar))

/-- The path in lower case, which leads where every spelling of it does. -/
def lowered (path : KeyPath) : KeyPath :=
  path.map fun
    | .entry name => .entry (Outbox.lowered name)
    | .place i => .place i

end KeyPath

end Outbox
