import PushDelivery.Proofs.Broker.Handouts
import PushDelivery.Proofs.Transport.DeadLetters
import PushDelivery.Transport.Consumer
import PushDelivery.Transport.Supervisor

/-!
# The Consumer at Work

The consumer takes messages and starts to settle each, and the messages in work go on side by side,
one request at a time. Between any two of these steps others may act: messages are pushed, the
connection is lost and opened again, and the service is shut down. This module gathers all of that
in one relation, and says of each kind of step once what it can do to the broker.

## What is left open

Steps come in any order. A delivery is answered anything, at any time, and its surroundings may
change in any way. Where the consumer waits for two things at once and both have come, either may be
taken first, so it may take a message although the service shuts down. What happens outside is a
parameter, `Station.Undergoes` being all that can happen to a broker; messages get into the push
queue only by such events and by publications of the service itself, and each step tells which.

## Main definitions

* `Intake`: the station, the consumer and all messages that it has taken, each as a `Work`.
* `Intake.Step`: one step of anyone, `Intake.Comes`: the intakes that steps lead to.
* `Broker.Undergoes`: what can happen at a broker from outside.

## Main results

* `Consumer.Moves.turn`: what the consumer can do in one step.
* `Station.Answers.effect`: what a request of a message in work can do.
* `Broker.Undergoes.waiting`: what can happen to the push queue from outside.
* `Supervisor.undergoes`: connecting again is one of these events.
-/

namespace PushDelivery

open Run (Exchange Reaches)

/-! ### Events at the broker -/

namespace Broker

/-- What can happen at a broker from outside, with the messages that it puts into the push queue:
nothing, a message that is pushed, the loss of the connection, a change of the number of connections
to be refused, a connection or a refused one, or the end of a channel. -/
inductive Undergoes (t : Topology) : Broker → List Body → Broker → Prop
  | nothing (b : Broker) : Undergoes t b [] b
  | push (b : Broker) (queue : String) (body : Body) :
      Undergoes t b (if queue = t.pushQueue then [body] else []) (b.push queue body)
  | sever (b : Broker) (reason : String) : Undergoes t b [] (b.sever reason)
  | refusals (b : Broker) (connectFailures : Nat) : Undergoes t b [] { b with connectFailures }
  | connect (b : Broker) : Undergoes t b [] (b.connect t).2
  | shut (b : Broker) (channel : Nat) (reason : String) :
      Undergoes t b [] (b.shut channel reason)

/-- Of these only a push puts a message into the push queue, and none takes one out. -/
theorem Undergoes.waiting {t : Topology} {b b' : Broker} {new : List Body}
    (h : Undergoes t b new b') : b'.waiting t.pushQueue = b.waiting t.pushQueue ++ new := by
  cases h with
  | nothing => simp
  | push queue body =>
      by_cases hqueue : queue = t.pushQueue
      · subst hqueue
        rw [if_pos rfl, waiting_push]
      · rw [if_neg hqueue, waiting_push_of_ne (Ne.symm hqueue), List.append_nil]
  | sever reason => simp
  | refusals => simp [Broker.waiting]
  | connect => simp
  | shut channel reason => simp [Broker.waiting, Broker.shut, wake]

/-- None of these changes the counters. -/
theorem Undergoes.counts {t : Topology} {b b' : Broker} {new : List Body}
    (h : Undergoes t b new b') : b'.counts = b.counts := by
  cases h with
  | nothing => rfl
  | push queue body => simp
  | sever reason => simp
  | refusals => rfl
  | connect => simp
  | shut => rfl

end Broker

/-- What can happen to a station from outside: an event at its broker, and any change of the link
and of the surroundings of deliveries. -/
structure Station.Undergoes (s : Station) (new : List Body) (s' : Station) : Prop where
  topology : s'.topology = s.topology
  faults : s'.faults = s.faults
  broker : s.broker.Undergoes s.topology new s'.broker

/-- A message is pushed onto the push queue. -/
theorem Station.undergoes_push (s : Station) (body : Body) :
    s.Undergoes [body] { s with broker := s.broker.push s.topology.pushQueue body } := by
  have pushed := Broker.Undergoes.push (t := s.topology) s.broker s.topology.pushQueue body
  rw [if_pos rfl] at pushed
  exact ⟨rfl, rfl, pushed⟩

/-- The connection is lost. -/
theorem Station.undergoes_sever (s : Station) (reason : String) :
    s.Undergoes [] { s with broker := s.broker.sever reason } :=
  ⟨rfl, rfl, .sever _ _⟩

/-- The service shuts down. -/
theorem Station.undergoes_shutdown (s : Station) : s.Undergoes [] { s with cancelled := true } :=
  ⟨rfl, rfl, .nothing _⟩

/-- Connecting is one of these events, whether it succeeds or not. -/
theorem Station.undergoes_connect (s : Station) : s.Undergoes [] s.connect.2 := by
  have opened := Broker.Undergoes.connect (t := s.topology) s.broker
  unfold Station.connect Station.openChannel
  generalize s.broker.connect s.topology = connected at opened ⊢
  obtain ⟨result, b⟩ := connected
  cases result with
  | error e => exact ⟨rfl, rfl, opened⟩
  | ok channel => exact ⟨rfl, rfl, opened⟩

/-- So is giving the connection up. -/
theorem Station.undergoes_close (s : Station) : s.Undergoes [] s.close := by
  refine ⟨rfl, rfl, ?_⟩
  unfold Station.close
  dsimp only
  split
  · exact .shut _ _ _
  · exact .nothing _

/-- So is every step of the supervisor, which notices losses and connects again. It leaves the
shutdown of the service to others. -/
theorem Supervisor.undergoes (v : Supervisor) (s : Station) :
    s.Undergoes [] (v.step s).2 ∧ (v.step s).2.cancelled = s.cancelled := by
  have same : ∀ {s' : Station}, s'.topology = s.topology → s'.faults = s.faults →
      s'.broker = s.broker → s'.cancelled = s.cancelled →
        s.Undergoes [] s' ∧ s'.cancelled = s.cancelled :=
    fun ht hf hb hc => ⟨⟨ht, hf, hb ▸ .nothing _⟩, hc⟩
  cases v with
  | looking =>
      rw [Supervisor.step]
      split <;> exact same rfl rfl rfl rfl
  | watching channel =>
      rw [Supervisor.step]
      split
      · exact same rfl rfl rfl rfl
      · split
        · split <;> exact same rfl rfl rfl rfl
        · exact same rfl rfl rfl rfl
  | reporting =>
      rw [Supervisor.step, Station.announceLoss]
      split <;> exact same rfl rfl rfl rfl
  | connecting =>
      have opened := Broker.Undergoes.connect (t := s.topology) s.broker
      rw [Supervisor.step, Station.openChannel]
      generalize s.broker.connect s.topology = connected at opened ⊢
      obtain ⟨result, b⟩ := connected
      split
      · exact same rfl rfl rfl rfl
      · cases result with
        | error e => exact ⟨⟨rfl, rfl, opened⟩, rfl⟩
        | ok channel => exact ⟨⟨rfl, rfl, opened⟩, rfl⟩
  | locking | announcing | resting | stopped => exact same rfl rfl rfl rfl

/-! ### Steps of the consumer -/

namespace Consumer

/-- The stream that the consumer takes messages from. -/
def stream? : Consumer → Option Stream
  | .making stream | .taking stream => some stream
  | _ => none

/-- Whether the consumer may go on while some deliveries are not over. It needs room before it goes
for a message, unless the service shuts down, and it stops only after all deliveries. Whatever else
it waits for, it may look too early. -/
def MayStep (s : Station) (inWork : Nat) : Consumer → Prop
  | .making _ => s.cancelled = true ∨ inWork < room s.topology
  | .draining => inWork = 0
  | .stopped => False
  | _ => True

/-- A consumer that is ready may go on. -/
theorem mayStep_of_isReady {s : Station} {inWork : Nat} {c : Consumer}
    (h : c.isReady s inWork = true) : c.MayStep s inWork := by
  cases c with
  | making stream => simpa [isReady, MayStep] using h
  | draining => exact beq_iff_eq.mp h
  | stopped => cases h
  | seeking | waiting | subscribing | taking | losing | reporting => trivial

/-- A step of the consumer while some deliveries are not over, with the message that it takes: one
that it may make, or the other choice where it waits for two things at once. While it listens it
may be interrupted between any two steps of its stream. -/
inductive Moves (s : Station) (inWork : Nat) :
    Consumer → Consumer → Station → Option Handout → Prop
  | step {c : Consumer} (may : c.MayStep s inWork) :
      Moves s inWork c (c.step s).1 (c.step s).2.1 (c.step s).2.2
  | reserve {stream : Stream} (roomy : inWork < room s.topology) :
      Moves s inWork (.making stream) (.taking stream) s none
  | take {stream : Stream} :
      Moves s inWork (.taking stream) (take s stream).1 (take s stream).2.1 (take s stream).2.2
  | listen {stream : Stream} (moved : (Stream.step s.broker stream).1 = .moved) :
      Moves s inWork (.taking stream) (.taking (Stream.step s.broker stream).2.2) s none

/-- What the consumer can do in one step: it changes no message, or takes the first one of the push
queue under the next tag. -/
inductive Turn (s : Station) (inWork : Nat) (c : Consumer) :
    Consumer → Station → Option Handout → Prop
  | quiet {c' : Consumer} {s' : Station} (topology : s'.topology = s.topology)
      (faults : s'.faults = s.faults) (broker : s'.broker = s.broker)
      (reserves : c'.reserves = true → c.reserves = true ∨ inWork < room s.topology)
      (stops : c' = .stopped → inWork = 0)
      (streams : ∀ stream', c'.stream? = some stream' →
        stream'.queue = s.topology.pushQueue ∨
          ∃ stream, c.stream? = some stream ∧ stream'.queue = stream.queue) :
      Turn s inWork c c' s' none
  | took {stream : Stream} {body : Body} {rest : Broker} (stood : c = .taking stream)
      (taken : s.broker.pop? stream.queue = some (body, rest)) :
      Turn s inWork c (.making { stream with phase := .idle })
        { s with broker := { rest with lastTag := s.broker.lastTag + 1 } }
        (some ⟨s.broker.lastTag + 1, stream.queue, body⟩)

/-- A step that leaves station and stream alone is a quiet one. -/
theorem Turn.idle {s s' : Station} {inWork : Nat} {c c' : Consumer}
    (topology : s'.topology = s.topology) (faults : s'.faults = s.faults)
    (broker : s'.broker = s.broker) (reserves : c'.reserves = false) (stops : c' ≠ .stopped)
    (streams : c'.stream? = none) : Turn s inWork c c' s' none := by
  refine .quiet topology faults broker (fun h => ?_) (fun h => absurd h stops) fun stream' h => ?_
  · rw [reserves] at h
    cases h
  · rw [streams] at h
    cases h

/-- What the consumer can do when it takes what its stream tells. -/
theorem take_turn {s : Station} (faultless : s.faults = {}) (inWork : Nat) (stream : Stream) :
    Turn s inWork (.taking stream) (take s stream).1 (take s stream).2.1 (take s stream).2.2 := by
  have sound : ¬0 < s.faults.take := by rw [faultless]; exact Nat.lt_irrefl 0
  have hresult := Stream.poll_result s.broker stream
  rw [take]
  generalize Stream.poll s.broker stream = polled at hresult ⊢
  obtain ⟨outcome, broker, stream'⟩ := polled
  cases hresult with
  | handed taken =>
      dsimp only
      rw [if_neg sound]
      exact .took rfl taken
  | still none =>
      cases outcome with
      | handed h => exact absurd rfl (none h)
      | ended => exact .idle rfl rfl rfl rfl nofun rfl
      | moved | sleeps =>
          refine .quiet rfl rfl rfl (fun _ => .inl rfl) nofun fun stream' h => .inr ⟨_, rfl, ?_⟩
          obtain rfl := Option.some.inj h
          rfl

/-- What the consumer can do in one step, if no operation is made to fail. -/
theorem Moves.turn {s s' : Station} {inWork : Nat} {c c' : Consumer} {taken : Option Handout}
    (h : Moves s inWork c c' s' taken) (faultless : s.faults = {}) :
    Turn s inWork c c' s' taken := by
  cases h with
  | reserve roomy =>
      exact .quiet rfl rfl rfl (fun _ => .inr roomy) nofun fun _ h => .inr ⟨_, h, rfl⟩
  | take => exact take_turn faultless inWork _
  | @listen stream moved =>
      refine .quiet rfl rfl rfl (fun _ => .inl rfl) nofun fun stream' h => .inr ⟨_, rfl, ?_⟩
      obtain rfl := Option.some.inj h
      have hresult := Stream.step_result s.broker stream
      generalize Stream.step s.broker stream = stepped at hresult moved ⊢
      obtain ⟨outcome, broker, stream'⟩ := stepped
      obtain rfl : outcome = .moved := moved
      cases hresult with
      | still => rfl
  | step may =>
      cases c with
      | seeking heard =>
          rw [Consumer.step]
          split
          · exact .idle rfl rfl rfl rfl nofun rfl
          · split <;> exact .idle rfl rfl rfl rfl nofun rfl
      | waiting heard =>
          rw [Consumer.step]
          split <;> exact .idle rfl rfl rfl rfl nofun rfl
      | subscribing channel =>
          have same : s.consume channel = (s.broker.consume channel s.topology.pushQueue, s) := by
            rw [Station.consume, faultless, if_neg (Nat.lt_irrefl 0)]
          rw [Consumer.step, same, Broker.consume]
          by_cases opened : s.broker.isOpen channel = true
          · rw [if_pos opened]
            refine .quiet rfl rfl rfl nofun nofun fun stream' h => .inl ?_
            obtain rfl := Option.some.inj h
            rfl
          · rw [if_neg opened]
            exact .idle rfl rfl rfl rfl nofun rfl
      | making stream =>
          rw [Consumer.step]
          by_cases cancelled : s.cancelled = true
          · rw [if_pos cancelled]
            exact .idle rfl rfl rfl rfl nofun rfl
          · have roomy : inWork < room s.topology := may.resolve_left cancelled
            rw [if_neg cancelled]
            exact .quiet rfl rfl rfl (fun _ => .inr roomy) nofun fun _ h => .inr ⟨_, h, rfl⟩
      | taking stream =>
          rw [Consumer.step]
          split
          · exact .idle rfl rfl rfl rfl nofun rfl
          · exact take_turn faultless inWork stream
      | losing channel =>
          rw [Consumer.step]
          split <;> exact .idle rfl rfl rfl rfl nofun rfl
      | reporting =>
          rw [Consumer.step, Station.announceLoss]
          split <;> exact .idle rfl rfl rfl rfl nofun rfl
      | draining => exact .quiet rfl rfl rfl nofun (fun _ => may) nofun
      | stopped => exact may.elim

end Consumer

/-! ### Requests of messages in work -/

/-- What a request of settling a message does to a broker. -/
def Broker.after (b : Broker) : Transport.Request → Broker
  | .publishOver channel queue body => (b.publish channel queue body).2
  | .acknowledge _ => b.acknowledge
  | .refuse h => b.reject h false
  | _ => b

namespace Station

/-- The station answers an exchange now. What a delivery asks for is answered anything, and the
surroundings of deliveries change in any way. -/
def Answers (s : Station) : Exchange Transport.interface → Station → Prop
  | ⟨.delivery _, _⟩, s' => ∃ scene, s' = { s with toScene := scene }
  | ⟨r, answer⟩, s' => s.perform r = (.now answer, s')

/-- The messages that a request puts into a queue. -/
def gains (s : Station) (queue : String) : Transport.Request → List Body
  | .publishOver channel other body =>
    if other = queue ∧ s.takes channel = true ∧ s.broker.isDeclared queue = true then [body] else []
  | _ => []

/-- What is answered about the link: the slot as it stands, and what the broker says to a
publication. -/
def Tells (s : Station) : Exchange Transport.interface → Prop
  | ⟨.channel, slot⟩ => slot = s.link.slot
  | ⟨.publishOver channel queue body, answer⟩ => answer = (s.broker.publish channel queue body).1
  | _ => True

/-- What an exchange of a message in work can do: it is answered by slot and broker as they stand,
and changes nothing but the broker, the counters and the surroundings of deliveries. -/
structure Effect (s : Station) (e : Exchange Transport.interface) (s' : Station) : Prop where
  topology : s'.topology = s.topology
  faults : s'.faults = s.faults
  slot : s'.link.slot = s.link.slot
  broker : s'.broker = s.broker.after e.1
  tells : s.Tells e

/-- That is what it does, if no operation is made to fail. -/
theorem Answers.effect {s s' : Station} {e : Exchange Transport.interface} (h : s.Answers e s')
    (faultless : s.faults = {}) : s.Effect e s' := by
  have sound : ¬0 < s.faults.publish ∧ ¬0 < s.faults.settle := by
    rw [faultless]
    exact ⟨Nat.lt_irrefl 0, Nat.lt_irrefl 0⟩
  obtain ⟨r, answer⟩ := e
  cases r with
  | delivery r =>
      obtain ⟨scene, rfl⟩ := h
      exact ⟨rfl, rfl, rfl, rfl, trivial⟩
  | channel =>
      cases (show (Response.now s.link.slot, s) = (.now answer, s') from h)
      exact ⟨rfl, rfl, rfl, rfl, rfl⟩
  | publishOver channel queue body =>
      have hperform : (Response.now (s.publishOver channel queue body).1,
        (s.publishOver channel queue body).2) = (.now answer, s') := h
      rw [publishOver, if_neg sound.1] at hperform
      cases hperform
      exact ⟨rfl, rfl, rfl, rfl, rfl⟩
  | acknowledge handout =>
      have hperform : (Response.now (s.settleAt s.broker.acknowledge).1,
        (s.settleAt s.broker.acknowledge).2) = (.now answer, s') := h
      rw [settleAt, if_neg sound.2] at hperform
      cases hperform
      exact ⟨rfl, rfl, rfl, rfl, trivial⟩
  | refuse handout =>
      have hperform : (Response.now (s.settleAt (s.broker.reject handout false)).1,
        (s.settleAt (s.broker.reject handout false)).2) = (.now answer, s') := h
      rw [settleAt, if_neg sound.2] at hperform
      cases hperform
      exact ⟨rfl, rfl, rfl, rfl, trivial⟩
  | note event =>
      cases (show (Response.now (), s.noteEvent event) = (.now answer, s') from h)
      cases event <;> exact ⟨rfl, rfl, rfl, rfl, trivial⟩

/-- A queue after a request of a message in work. -/
theorem waiting_after {s : Station} (faultless : s.faults = {}) (queue : String)
    (r : Transport.Request) :
    (s.broker.after r).waiting queue = s.broker.waiting queue ++ s.gains queue r := by
  cases r with
  | publishOver channel other body =>
      have takes : s.takes channel = s.broker.isOpen channel := by
        rw [takes, faultless]
        rfl
      rw [gains, takes, Broker.after, Broker.publish]
      by_cases opened : s.broker.isOpen channel = true
      · rw [if_pos opened]
        by_cases hqueue : other = queue
        · subst hqueue
          by_cases declared : s.broker.isDeclared other = true
          · rw [if_pos ⟨rfl, opened, declared⟩]
            exact Broker.waiting_arrive declared body
          · rw [if_neg fun h => declared h.2.2, Broker.arrive, if_neg declared, List.append_nil]
        · rw [if_neg fun h => hqueue h.1, List.append_nil]
          exact Broker.waiting_arrive_of_ne (Ne.symm hqueue) body false
      · rw [if_neg opened, if_neg fun h => opened h.2.1, List.append_nil]
  | acknowledge | refuse => simp [Broker.after, gains, Broker.acknowledge, Broker.reject,
      Broker.waiting]
  | delivery | channel | note => simp [Broker.after, gains]

end Station

namespace Transport

/-- Whether a request acknowledges a message. -/
def Request.acknowledges : Request → Bool
  | .acknowledge _ => true
  | _ => false

/-- Whether a request refuses a message. -/
def Request.refuses : Request → Bool
  | .refuse _ => true
  | _ => false

/-- A request that settles a message acknowledges or refuses it. -/
theorem Request.settles_eq (r : Request) : r.settles = (r.acknowledges || r.refuses) := by
  cases r <;> rfl

end Transport

/-- The counters of a broker after a request of a message in work. -/
theorem Broker.counts_after (b : Broker) (r : Transport.Request) :
    (b.after r).counts = { b.counts with
      acked := b.acked + r.acknowledges.toNat
      rejected := b.rejected + r.refuses.toNat } := by
  cases r with
  | publishOver channel queue body => exact b.counts_publish channel queue body
  | acknowledge | refuse => rfl
  | delivery | channel | note => rfl

/-! ### Messages in work -/

namespace Transport

/-- The run settles one message, and that is the last thing that it does. -/
def SettlesLast : Run interface Unit → Prop
  | .done _ => False
  | .ask r next =>
    if r.settles = true then ∀ answer, next answer = .done ()
    else ∀ answer, SettlesLast (next answer)

/-- A run that settles nothing, followed by one that settles a message last. -/
theorem SettlesLast.bind {α : Type} {run : Run interface α} {f : α → Run interface Unit}
    (h : run.OnlyAsks fun r : Request => r.settles = false) (hf : ∀ a, SettlesLast (f a)) :
    SettlesLast (run >>= f) := by
  induction run with
  | done a => exact hf a
  | ask r next ih =>
      rw [Run.ask_bind, SettlesLast, if_neg (by simp [h.1])]
      exact fun answer => ih answer (h.2 answer)

/-- Settling a message settles it last, whatever the handler does. -/
theorem settlesLast_settle (t : Topology) (handler : Handler) (h : Handout) :
    SettlesLast (settle t handler h) := by
  have last : ∀ r : Request, r.settles = true →
      SettlesLast (request r >>= fun _ => pure ()) := fun r hr => by
    rw [request, Run.request, Run.ask_bind, SettlesLast, if_pos hr]
    exact fun _ => rfl
  refine .bind ⟨rfl, fun _ => trivial⟩ fun _ => .bind ⟨rfl, fun _ => trivial⟩ fun now => ?_
  cases job? h.body (.ofInstant now) with
  | none => exact .bind ⟨rfl, fun _ => trivial⟩ fun _ => last (.refuse h) rfl
  | some job =>
      refine .bind (onlyAsks_carry t (handler job)) fun ⟨result, handled⟩ => ?_
      cases result with
      | ok => exact .bind ⟨rfl, fun _ => trivial⟩ fun _ => last (.acknowledge h) rfl
      | error e =>
          exact .bind (onlyAsks_publishDeadLetter t handled e) fun _ => last (.acknowledge h) rfl

/-- What such a run has done at any moment: either its message is still to be settled, or that was
the last exchange. -/
theorem SettlesLast.reaches {run left : Run interface Unit} {trace : List (Exchange interface)}
    (h : SettlesLast run) (hr : Reaches run trace left) :
    (SettlesLast left ∧ ∀ e ∈ trace, e.1.settles = false) ∨
      (left = .done () ∧ ∃ before e, trace = before ++ [e] ∧ e.1.settles = true ∧
        ∀ x ∈ before, x.1.settles = false) := by
  induction hr with
  | here run => exact .inl ⟨h, by simp⟩
  | @ask r next answer rest left go ih =>
      rw [SettlesLast] at h
      by_cases settles : r.settles = true
      · rw [if_pos settles] at h
        rw [h answer] at go
        cases go with
        | here => exact .inr ⟨rfl, [], _, rfl, settles, by simp⟩
      · rw [if_neg settles] at h
        have first : r.settles = false := Bool.eq_false_iff.mpr settles
        rcases ih (h answer) with ⟨hleft, hrest⟩ | ⟨hdone, before, e, rfl, he, hbefore⟩
        · refine .inl ⟨hleft, fun x hx => ?_⟩
          rcases List.mem_cons.mp hx with rfl | hx
          · exact first
          · exact hrest x hx
        · refine .inr ⟨hdone, _ :: before, e, rfl, he, fun x hx => ?_⟩
          rcases List.mem_cons.mp hx with rfl | hx
          · exact first
          · exact hbefore x hx

end Transport

open Transport (SettlesLast Handler)

/-- A message that was taken: what has been exchanged for it, what is left to do, and whether its
task is over. -/
structure Work where
  handout : Handout
  trace : List (Exchange Transport.interface) := []
  left : Run Transport.interface Unit
  ended : Bool := false

namespace Work

/-- A message before the first step of settling it. -/
def begin (t : Topology) (handler : Handler) (h : Handout) : Work :=
  { handout := h, left := Transport.settle t handler h }

/-- The message after one more exchange. -/
def exchange (k : Work) (e : Exchange Transport.interface) (left : Run Transport.interface Unit) :
    Work :=
  { k with trace := k.trace ++ [e], left }

/-- Whether the message was acknowledged. -/
def isAcknowledged (k : Work) : Bool := k.trace.any (·.1.acknowledges)

/-- Whether the message was refused. -/
def isRefused (k : Work) : Bool := k.trace.any (·.1.refuses)

/-- Whether the message was settled. -/
def isSettled (k : Work) : Bool := k.isAcknowledged || k.isRefused

section

variable (t : Topology) (handler : Handler) (h : Handout)

@[simp] theorem begin_handout : (begin t handler h).handout = h := rfl

@[simp] theorem begin_trace : (begin t handler h).trace = [] := rfl

@[simp] theorem begin_ended : (begin t handler h).ended = false := rfl

@[simp] theorem begin_isAcknowledged : (begin t handler h).isAcknowledged = false := rfl

@[simp] theorem begin_isRefused : (begin t handler h).isRefused = false := rfl

end

/-- The message is settled as the service settles messages, and its task ends after that. -/
structure OnCourse (t : Topology) (handler : Handler) (k : Work) : Prop where
  course : Reaches (Transport.settle t handler k.handout) k.trace k.left
  ended : k.ended = true → k.left = .done ()

variable {t : Topology} {handler : Handler} {k : Work}

/-- A message that was just taken is on its course. -/
theorem onCourse_begin (t : Topology) (handler : Handler) (h : Handout) :
    (begin t handler h).OnCourse t handler :=
  ⟨.here _, nofun⟩

/-- A message stays on its course with each exchange, and its task was not over. -/
theorem OnCourse.exchange (h : k.OnCourse t handler) {r : Transport.Request}
    {next : r.Answer → Run Transport.interface Unit} (asks : k.left = .ask r next)
    (answer : r.Answer) :
    (k.exchange ⟨r, answer⟩ (next answer)).OnCourse t handler ∧ k.ended = false := by
  have notEnded : k.ended = false := by
    refine Bool.eq_false_iff.mpr fun hended => ?_
    have hdone := h.ended hended
    rw [asks] at hdone
    cases hdone
  refine ⟨⟨h.course.trans ?_, fun hended => ?_⟩, notEnded⟩
  · rw [asks]
    exact .ask (.here _)
  · exact nomatch notEnded.symm.trans hended

/-- A message is not settled while there is something left to do, and then it is acknowledged or
refused, and not both. -/
theorem OnCourse.settled (h : k.OnCourse t handler) :
    (SettlesLast k.left ∧ k.isAcknowledged = false ∧ k.isRefused = false) ∨
      (k.left = .done () ∧ k.isRefused = !k.isAcknowledged) := by
  have none : ∀ {es : List (Exchange Transport.interface)}, (∀ e ∈ es, e.1.settles = false) →
      es.any (·.1.acknowledges) = false ∧ es.any (·.1.refuses) = false := fun hes => by
    constructor
    · refine List.any_eq_false.mpr fun e he => ?_
      have hnot := hes e he
      rw [e.1.settles_eq, Bool.or_eq_false_iff] at hnot
      simp [hnot.1]
    · refine List.any_eq_false.mpr fun e he => ?_
      have hnot := hes e he
      rw [e.1.settles_eq, Bool.or_eq_false_iff] at hnot
      simp [hnot.2]
  rcases (Transport.settlesLast_settle t handler k.handout).reaches h.course with
    ⟨hleft, hnone⟩ | ⟨hdone, before, e, htrace, he, hbefore⟩
  · exact .inl ⟨hleft, none hnone⟩
  · refine .inr ⟨hdone, ?_⟩
    obtain ⟨hack, hrefuse⟩ := none hbefore
    rw [isRefused, isAcknowledged, htrace, List.any_append, List.any_append, hack, hrefuse]
    obtain ⟨r, answer⟩ := e
    cases r with
    | acknowledge | refuse => rfl
    | delivery | channel | publishOver | note => cases he

end Work

/-! ### Steps of anyone -/

/-- The station, the consumer if it was started, and every message that it has taken, in order. -/
structure Intake where
  station : Station
  consumer : Option Consumer := none
  works : List Work := []

namespace Intake

/-- The number of deliveries that are not over. -/
def inWork (w : Intake) : Nat := w.works.countP (!·.ended)

/-- The number of messages that were taken and are not settled. -/
def inFlight (w : Intake) : Nat := w.works.countP (!·.isSettled)

/-- One step: an event outside, the start of the consumer, a step of it, a request of a message in
work, or the end of a task that has nothing left to do. It tells which messages it puts into the
push queue. -/
inductive Step (outside : Station → List Body → Station → Prop) (handler : Handler) :
    Intake → List Body → Intake → Prop
  | outside {w : Intake} {new : List Body} {s : Station} (happens : outside w.station new s) :
      Step outside handler w new { w with station := s }
  | launch {w : Intake} (idle : w.consumer = none) :
      Step outside handler w [] { w with consumer := some (.start w.station) }
  | consumer {w : Intake} {c c' : Consumer} {s : Station} {taken : Option Handout}
      (stands : w.consumer = some c) (moves : Consumer.Moves w.station w.inWork c c' s taken) :
      Step outside handler w []
        ⟨s, some c', w.works ++ taken.toList.map (Work.begin w.station.topology handler)⟩
  | request {w : Intake} {before after : List Work} {k : Work} {r : Transport.Request}
      {next : r.Answer → Run Transport.interface Unit} {answer : r.Answer} {s : Station}
      (works : w.works = before ++ k :: after) (asks : k.left = .ask r next)
      (answers : w.station.Answers ⟨r, answer⟩ s) :
      Step outside handler w (w.station.gains w.station.topology.pushQueue r)
        { w with station := s, works := before ++ k.exchange ⟨r, answer⟩ (next answer) :: after }
  | finish {w : Intake} {before after : List Work} {k : Work}
      (works : w.works = before ++ k :: after) (done : k.left = .done ()) :
      Step outside handler w [] { w with works := before ++ { k with ended := true } :: after }

/-- Steps lead from one intake to another, and put some messages into the push queue, in order. -/
inductive Comes (outside : Station → List Body → Station → Prop) (handler : Handler)
    (start : Intake) : List Body → Intake → Prop
  | start : Comes outside handler start [] start
  | step {arrived new : List Body} {w w' : Intake} (before : Comes outside handler start arrived w)
      (next : Step outside handler w new w') : Comes outside handler start (arrived ++ new) w'

end Intake

end PushDelivery
