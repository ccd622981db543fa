import Outbox.Settings

/-! Values as a source gives them, and how fields are read from them. A typed document says exactly
    what it means, so reading it converts nothing. A settings store and the environment are written
    by people and by shells, so numbers may come as text, as fractions or as switches, and names in
    any case. -/

namespace Outbox

/-- A value as a source gives it. -/
inductive RawValue where
  | null
  | switch (on : Bool)
  | integer (n : Int)
  | fraction (x : Float)
  | text (s : String)
  | list (items : List RawValue)
  | table (entries : List (String × RawValue))
  deriving Inhabited

/-- The integers a field can hold. -/
structure IntegerRange where
  least : Int
  greatest : Int

namespace IntegerRange

def signed : IntegerRange := ⟨Int64.minValue.toInt, Int64.maxValue.toInt⟩

def unsigned : IntegerRange := ⟨0, UInt64.size - 1⟩

def holds (r : IntegerRange) (n : Int) : Bool := r.least ≤ n && n ≤ r.greatest

/-- The integer itself, if it is in the range. -/
def check (r : IntegerRange) (n : Int) : Option Int := if r.holds n then some n else none

/-- The integer in the range that is nearest to `n`. -/
def clamp (r : IntegerRange) (n : Int) : Int := max r.least (min r.greatest n)

end IntegerRange

/-- Lower case, as far as it can lead to an ASCII name: besides the ASCII capitals only the Kelvin
    sign has an ASCII letter as its lower case. -/
def lowered (s : String) : String := s.map fun c => if c = '\u212a' then 'k' else c.toLower

namespace RawValue

/-- The integer nearest to a finite `x`, a half going away from zero, as far as 64 bits reach. -/
def roundFraction (x : Float) : Int :=
  if x < 0 then -(Float.round (-x)).toUInt64.toNat else (Float.round x).toUInt64.toNat

/-- Decimal digits, at least one, and nothing else. -/
def digits? (cs : List Char) : Option Nat :=
  if cs ≠ [] ∧ cs.all (·.isDigit) then
    some (cs.foldl (fun n c => 10 * n + (c.toNat - 48)) 0)
  else none

/-- An integer in text: a sign, if any, and digits. Where no number is negative, a minus sign is
    no part of a number, not even of zero. -/
def integerText? (r : IntegerRange) (s : String) : Option Int :=
  match s.toList with
  | '+' :: cs => (digits? cs).bind fun n => r.check n
  | '-' :: cs => if r.least < 0 then (digits? cs).bind fun n => r.check (-n) else none
  | cs => (digits? cs).bind fun n => r.check n

/-- Words that stand for one and for zero. -/
def switchText? (s : String) : Option Int :=
  let word := lowered s
  if word ∈ ["true", "on", "yes"] then some 1
  else if word ∈ ["false", "off", "no"] then some 0
  else none

/-- Read an integer from whatever resembles one. -/
def integerLike? (r : IntegerRange) : RawValue → Option Int
  | integer n => r.check n
  | switch b => some (if b then 1 else 0)
  | fraction x => some (r.clamp (roundFraction x))
  | text s => (switchText? s).orElse fun _ => integerText? r s
  | null | list _ | table _ => none

/-- Read an integer only from an integer. -/
def integerOnly? (r : IntegerRange) : RawValue → Option Int
  | integer n => r.check n
  | _ => none

/-- Read one of the choices from its name in any case, or from a table with that one key. -/
def choiceLike? {α : Type} (choices : List α) (name : α → String) : RawValue → Option α
  | text s | table [(s, _)] => choices.find? fun a => name a == lowered s
  | _ => none

/-- Read one of the choices from exactly its name, or from a table that binds it to nothing. -/
def choiceOnly? {α : Type} (choices : List α) (name : α → String) : RawValue → Option α
  | text s | table [(s, null)] => choices.find? fun a => name a == s
  | _ => none

end RawValue

end Outbox
