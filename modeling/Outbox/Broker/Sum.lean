import Outbox.Broker.Client

/-! Brokers of two kinds under one client: whoever holds either may treat it as one thing. A task is
    begun before it is known which kind of broker it is for, and turns into a task of that kind at
    its first step. A task of the other kind is over at once; none is ever begun. -/

namespace Outbox

inductive SumTask (τ υ : Type) where
  | poll
  | flush (timeout : Span)
  | left (t : τ)
  | right (u : υ)

namespace TaskStep

variable {τ υ : Type}

def map (f : τ → υ) : TaskStep τ → TaskStep υ
  | .report r next => .report r (f next)
  | .more next => .more (f next)
  | .finished answer => .finished answer

end TaskStep

namespace Client

variable {β γ : Type}

def sum (c : Client β) (d : Client γ) : Client (β ⊕ γ) where
  Task := SumTask c.Task d.Task
  send
    | m, .inl b => (c.send m b).map id .inl
    | m, .inr b => (d.send m b).map id .inr
  poll := .poll
  flush := .flush
  step
    | .poll, .inl b, clock => (.more (.left c.poll), .inl b, clock)
    | .poll, .inr b, clock => (.more (.right d.poll), .inr b, clock)
    | .flush t, .inl b, clock => (.more (.left (c.flush t)), .inl b, clock)
    | .flush t, .inr b, clock => (.more (.right (d.flush t)), .inr b, clock)
    | .left t, .inl b, clock =>
      let (s, b, clock) := c.step t b clock
      (s.map .left, .inl b, clock)
    | .right t, .inr b, clock =>
      let (s, b, clock) := d.step t b clock
      (s.map .right, .inr b, clock)
    | .left _, .inr b, clock => (.finished (.ok ()), .inr b, clock)
    | .right _, .inl b, clock => (.finished (.ok ()), .inl b, clock)

end Client

end Outbox
