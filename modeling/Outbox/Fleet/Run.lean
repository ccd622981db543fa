import Outbox.Fleet

/-! Carrying out commands. A hook that a command sets off may have commands of its own, and those
    may set off hooks in turn, so carrying out is defined over the depth to which hooks are nested.
    Each call of a hook uses up one of its prepared pieces of work, and no piece of work is ever
    done twice; so the depth is bounded by the number of commands that were written down. -/

namespace Outbox

namespace Fleet

/-- The item at place `i` of a line that starts over at its end. -/
def wrapped {α : Type} (l : Line α) (i : Nat) : Option α := l.get? (i % l.size)

/-- The accepted or delivered messages of producer `p`. -/
def logOf (p : Nat) (log : AnyBroker → Line Message) : FleetWork (Line Message) := do
  if (← state).isOpen p then visit p (return log (← get).broker) else return .empty

/-- The message that is meant. -/
def resolve (current : Option Message) : MessageRef → FleetWork (Option Message)
  | .literal m => return some m
  | .current => return current
  | .heard i => return wrapped (← state).heard i
  | .sent p i => return wrapped (← logOf p AnyBroker.sent) i
  | .delivered p i => return wrapped (← logOf p AnyBroker.delivered) i

/-- Buffer the messages of a series, until there is an error. -/
def addSeries (env : Surroundings AnyBroker Nat Fleet) (topic template : String) :
    List Nat → FleetWork (Except ProducerError Unit)
  | [] => return .ok ()
  | i :: rest => do
    let payload := (numberedPayload template i).toUTF8
    match ← env.add { topic := topic, payload := payload } with
    | .ok () => addSeries env topic template rest
    | .error e => return .error e

/-- Register a hook with the producer at the site. -/
def register (kind : HookKind) (hook : FleetHook) : FleetWork Unit := do
  let number := (← state).hooks.size
  change fun f => { f with hooks := f.hooks.push hook }
  Work.modifyProducer (·.setHook kind number)

/-- Carry out an order to the producer at the site, which has number `p`. -/
def carryOut (env : Surroundings AnyBroker Nat Fleet) (current : Option Message) (p : Nat) :
    Order Command → FleetWork Reply
  | .operate op => do
    match ← op.mapMessage (resolve current) with
    | none => return .noMessage
    | some op => env.operate op
  | .addSeries n topic template =>
    return .ofResult (← addSeries env topic template (List.range n))
  | .setHook kind answers work => do
    register kind { answers := answers, work := work }
    return .done
  | .settings => return .settings (← Work.producer).settings
  | .look => return .done
  | .print => return .text (← Work.producer).text
  | .forget => do
    change fun f => { f with members := f.members.modify p (·.map ({ · with forgotten := true })) }
    return .done
  | .sendBroker ref => do
    match ← resolve current ref with
    | none => return .noMessage
    | some m => return .ofBroker (← env.sendBroker m)
  | .pollBroker => do env.poll; return .done
  | .flushBroker timeout => return .ofBroker (← env.flushBroker timeout)
  | .memory order => do
    match (← get).broker with
    | .inl b =>
      modify fun s => { s with broker := .inl (b.obey s.clock order) }
      return .done
    | .inr _ => return .unknown
  | .printBroker => do
    match (← get).broker with
    | .inl b => return .text b.text
    | .inr _ => return .unknown
  | .extendScript script => do
    match (← get).broker with
    | .inl _ => return .unknown
    | .inr b =>
      modify fun s => { s with broker := .inr (b.extend script) }
      return .done
  | .unknown => return .unknown

/-- The memory broker at the site is going to be resumed just after the moment `t`. -/
def expectResume (t : Nat) : FleetWork Unit :=
  modify fun s =>
    match s.broker with
    | .inl b => { s with broker := .inl (b.expectResume t) }
    | .inr _ => s

/-- Wait until the memory broker at the site was resumed, as was expected for the moment `t`. -/
def awaitResume (t : Nat) : FleetWork Unit :=
  modify fun s =>
    match s.broker with
    | .inl b =>
      let (b, clock) := b.awaitResume s.clock t
      { s with broker := .inl b, clock := clock }
    | .inr _ => s

/-- Do `work` while somebody else resumes the broker at the site after a time, and has done so
    when it ends. -/
def whileResuming (after : Option Span) (work : FleetWork Reply) : FleetWork Reply :=
  match after with
  | none => work
  | some after => do
    let due := (← get).clock.now + after.nanos
    expectResume due
    let reply ← work
    awaitResume due
    return reply

/-- Run hook number `hook` for a message: do the piece of work that is due, noting each reply, and
    give the answer that is due. -/
def runHook (perform : Option Message → Command → FleetWork Reply) (hook : Nat) (m : Message) :
    FleetWork Bool := do
  match (← state).hooks.get? hook with
  | none => return true
  | some h =>
    change fun f =>
      { f with
        hooks := f.hooks.modify hook fun h => { h with calls := h.calls + 1 },
        heard := f.heard.pushBack m }
    (h.work[h.calls]?.getD []).forM fun c => do
      let reply ← perform (some m) c
      Work.record (.remarked c.label reply)
    return preparedAnswer h.answers h.calls

/-- Carry out one command, where `perform` carries out the commands of hooks. -/
def performWith (limit : Nat) (perform : Option Message → Command → FleetWork Reply)
    (current : Option Message) (c : Command) : FleetWork Reply := do
  let env : Surroundings AnyBroker Nat Fleet :=
    { client := AnyBroker.client, limit := limit, call := fun hook _ m _ => runHook perform hook m }
  match c with
  | .start _ settings plan => start settings plan
  | .tell _ p resumeAfter order =>
    if (← state).isOpen p then
      visit p (whileResuming resumeAfter (carryOut env current p order))
    else return .noProducer

/-- Carry out one command, with hooks nested at most `depth` deep and loops of at most `limit`
    rounds. -/
def perform (limit : Nat) : Nat → Option Message → Command → FleetWork Reply
  | 0 => performWith limit fun _ _ => Act.stuck
  | depth + 1 => performWith limit (perform limit depth)

end Fleet

end Outbox
