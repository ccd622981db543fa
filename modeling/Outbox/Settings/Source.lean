import Outbox.Settings.Store

/-! Settings are read from three kinds of source: a typed document, a settings store, and the
    environment. A field that the source does not mention keeps its default, and one that is not a
    field is ignored. Reading comes before validation: a value of the wrong form is reported
    first. -/

namespace Outbox

/-- How the values of a source are read. -/
structure ValueReader where
  integer? : IntegerRange → RawValue → Option Int
  choice? : {α : Type} → List α → (α → String) → RawValue → Option α

namespace ValueReader

/-- Convert nothing. -/
def exact : ValueReader := ⟨RawValue.integerOnly?, RawValue.choiceOnly?⟩

/-- Convert what resembles the value that is asked for. -/
def lenient : ValueReader := ⟨RawValue.integerLike?, RawValue.choiceLike?⟩

/-- Read one field: its default if there is no entry, nothing if the entry has the wrong form. -/
def field {α : Type} (entries : List (String × RawValue)) (key : String)
    (read : RawValue → Option α) (default : α) : Option α :=
  match entries.lookup key with
  | none => some default
  | some v => read v

/-- Read settings from entries with distinct keys. -/
def settings? (r : ValueReader) (entries : List (String × RawValue)) : Option Settings := do
  let d : Settings := {}
  let count (v : RawValue) : Option Nat := (r.integer? .unsigned v).map Int.toNat
  return {
    bufferLimit := ← field entries "max_buffer_size" (r.integer? .signed) d.bufferLimit
    flushMode := ← field entries "flush_method"
      (r.choice? FlushMode.all FlushMode.name) d.flushMode
    retryBudget := ← field entries "max_number_retries" count d.retryBudget
    fullQueueNotice := ← field entries "queue_full_notification"
      (r.choice? FullQueueNotice.all FullQueueNotice.name) d.fullQueueNotice
    pollMillis := ← field entries "ack_poll_interval_ms" count d.pollMillis
    capacityHint := ← field entries "queue_capacity_hint" count d.capacityHint }

end ValueReader

namespace Settings

/-- What is wrong with a source: a key that is no path, a path that leads out of a list, a value of
    the wrong form, or settings that are not valid. -/
inductive SourceError where
  | unreadableKey (key : String)
  | outOfReach
  | malformed
  | invalid (e : ProducerError)
  deriving DecidableEq

/-- Read and validate. -/
def ofEntries (r : ValueReader) (entries : List (String × RawValue)) :
    Except SourceError Settings :=
  match r.settings? entries with
  | none => .error .malformed
  | some s => s.validated.mapError .invalid

/-- From a typed document. -/
def ofDocument : List (String × RawValue) → Except SourceError Settings := ofEntries .exact

/-- Of several bindings of one key, the last. -/
def lastOfEach {κ α : Type} [DecidableEq κ] : List (κ × α) → List (κ × α)
  | [] => []
  | b :: bs => if bs.any (·.1 = b.1) then lastOfEach bs else b :: lastOfEach bs

/-- From a store into which values are put one after the other. -/
def ofPuts (puts : List (KeyPath × RawValue)) : Except SourceError Settings :=
  match RawValue.store puts with
  | none => .error .outOfReach
  | some t => ofEntries .lenient t.entries

/-- The path that a key stands for. -/
def storePath (key : String) : Except SourceError KeyPath :=
  match KeyPath.ofText? key with
  | some path => .ok path
  | none => .error (.unreadableKey key)

/-- From a store that was filled entry by entry, each under a path. A path that was used again
    counts as it was used last. Paths that differ in case alone are different ones that lead to the
    same place, so what they put there meets. -/
def ofStore (entries : List (String × RawValue)) : Except SourceError Settings := do
  let puts ← entries.mapM fun (key, x) => return (← storePath key, x)
  ofPuts ((lastOfEach puts).map fun (path, x) => (path.lowered, x))

/-- Set a variable. One that is set again keeps its place. -/
def setVariable (env : List (String × String)) (v : String × String) : List (String × String) :=
  if env.any (·.1 = v.1) then env.map fun w => if w.1 = v.1 then v else w else env ++ [v]

/-- The key that a variable of the environment sets, if its name has the lead `relaybuf_`. -/
def variableKey? (name : String) : Option String :=
  let lower := (lowered name).toList
  let lead := "relaybuf_".toList
  if lead.isPrefixOf lower then some (String.ofList (lower.drop lead.length)) else none

/-- From the variables of an environment, where every value is text. Names that differ in case
    alone set one key, and the last of them counts. A key that is no path is the name of an
    entry. -/
def ofEnvironment (vars : List (String × String)) : Except SourceError Settings :=
  let bound := (vars.foldl setVariable []).filterMap fun (name, text) =>
    (variableKey? name).map fun key => (key, text)
  ofPuts <| (lastOfEach bound).map fun (key, text) =>
    ((KeyPath.ofText? key).getD [.entry key], RawValue.text text)

end Settings

end Outbox
