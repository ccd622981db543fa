import Outbox.Hook
import Outbox.Numbered

/-! A session with a registry of hooks. Its hooks are scripted: at its `n`-th call a hook does the
    `n`-th of its prepared pieces of work on the registry and gives the `n`-th of its prepared
    answers. A hook that is being run keeps running when another takes its place. -/

namespace Outbox

/-- What can be done to the registry. A hook carries a `tag` by which its calls are told apart. -/
inductive HookOp (τ : Type) where
  | set (kind : HookKind) (tag : τ) (answers : List Bool) (work : List (List (HookOp τ)))
  | unset (kind : HookKind)
  | call (kind : HookKind) (m : Message) (error : BrokerError)
  | print
  | unknown (label : String)
  deriving Inhabited

/-- A registered hook and how often it was called. -/
structure ScriptedHook (τ : Type) where
  tag : τ
  answers : List Bool
  work : List (List (HookOp τ))
  calls : Nat := 0

inductive HookReply where
  | done
  | verdict (v : Bool)
  | nothing
  | text (s : String)
  | unknown
  deriving DecidableEq

inductive HookNote (τ : Type) where
  | called (kind : HookKind) (tag : τ) (m : Message) (error : Option BrokerError) (n : Nat)
  | did (op : HookOp τ) (reply : HookReply)

/-- The registry, every hook ever registered, and what happened, newest first. -/
structure HookSession (τ : Type) where
  registry : Hooks Nat := {}
  hooks : Numbered (ScriptedHook τ) := .empty
  notes : List (HookNote τ) := []

namespace HookOp

variable {τ : Type}

mutual

/-- How many operations an operation contains, itself included. -/
def weight : HookOp τ → Nat
  | set _ _ _ work => 1 + weightWork work
  | unset _ | call .. | print | unknown _ => 1

def weightList : List (HookOp τ) → Nat
  | [] => 0
  | op :: ops => op.weight + weightList ops

def weightWork : List (List (HookOp τ)) → Nat
  | [] => 0
  | ops :: work => weightList ops + weightWork work

end

end HookOp

namespace HookSession

variable {τ : Type}

def note (s : HookSession τ) (n : HookNote τ) : HookSession τ := { s with notes := n :: s.notes }

/-- Do the operations of a hook's work in turn, noting each with its reply. -/
def work (perform : HookSession τ → HookOp τ → HookReply × HookSession τ) (s : HookSession τ)
    (ops : List (HookOp τ)) : HookSession τ :=
  ops.foldl (fun s op => let (reply, s) := perform s op; s.note (.did op reply)) s

/-- Do one operation. Each call of a hook uses up one of its pieces of work, so `depth` is enough
    once it exceeds the number of operations there are. -/
def perform : Nat → HookSession τ → HookOp τ → HookReply × HookSession τ
  | _, s, .set kind tag answers work =>
    (.done,
      { s with
        registry := s.registry.set kind (some s.hooks.size),
        hooks := s.hooks.push { tag := tag, answers := answers, work := work } })
  | _, s, .unset kind => (.done, { s with registry := s.registry.set kind none })
  | _, s, .print => (.text s.registry.text, s)
  | _, s, .unknown _ => (.unknown, s)
  | depth, s, .call kind m error =>
    match (s.registry.find? kind).bind fun i => (s.hooks.get? i).map (i, ·) with
    | none => (if kind.isAsked then .nothing else .done, s)
    | some (i, hook) =>
      let told := if kind.isToldError then some error else none
      let s := { s with hooks := s.hooks.modify i fun h => { h with calls := h.calls + 1 } }
      let s := s.note (.called kind hook.tag m told hook.calls)
      let ops := (hook.work[hook.calls]?).getD []
      let s :=
        match depth with
        | 0 => s
        | d + 1 => work (perform d) s ops
      (if kind.isAsked then .verdict (preparedAnswer hook.answers hook.calls) else .done, s)

/-- What the operations bring, step by step: each reply with what happened during it. -/
def run (ops : List (HookOp τ)) : List (HookReply × List (HookNote τ)) :=
  let depth := HookOp.weightList ops
  let go (acc : List (HookReply × List (HookNote τ)) × HookSession τ) (op : HookOp τ) :=
    let (reply, s) := perform depth acc.2 op
    ((reply, s.notes.reverse) :: acc.1, { s with notes := [] })
  (ops.foldl go ([], {})).1.reverse

end HookSession

end Outbox
