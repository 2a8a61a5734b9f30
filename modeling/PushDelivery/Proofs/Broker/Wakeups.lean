import PushDelivery.Proofs.Broker.Handouts

/-!
# Wake-Up Calls

A stream that finds no message goes to sleep, and between its look at the queue and its sleep
anything may happen. It does not miss what happens there, as it begins to listen before it looks.
Nor may the other parties forget to call: who puts a message into a queue or closes a channel calls
the consumers afterwards. The two are steps of their own, and between them the stream may look,
sleep and wake.

This module lets any number of parties and one stream take steps in any order. Whoever has changed
something owes a call until it calls. A stream that sleeps was called, or is about to be called by
those who brought the messages of its queue. And it sleeps only over a channel that was open when it
was started, so that a loss of the channel finds it listening.

A stream looks at its channel in one step and at the queue in the next one. If the channel is closed
between the two, it still hands out one message. That is the last one: at any other time a stream
whose channel is closed takes nothing, and leaves the broker to the others.

## Main definitions

* `Broker.Aside`: what parties do that brings no message and closes no channel.
* `Deed`: one step of a party; `Bustle`: a broker with the calls that parties owe there.
* `Vigil`: a stream at a broker with other parties. `Vigil.after` and `Vigil.handouts` are what
  turns in some order lead to, and what the stream hands out in them.

## Main results

* `Broker.comesTo_push`, `Broker.comesTo_publish`, `Broker.comesTo_reject`, `Broker.comesTo_shut`,
  `Broker.comesTo_sever`, `Broker.comesTo_connect`: what parties do to a broker consists of such
  steps.
* `Vigil.Wakeful.turn`: no step makes a stream miss a call.
* `Vigil.quiet_of_closed`: a stream whose channel is closed takes nothing.
* `Vigil.wakes_and_ends`: both, for turns in any order.
* `Vigil.takes_after_close`: the one message that it may still hand out.
-/

namespace PushDelivery

/-! ### Steps of other parties -/

/-- Why a party owes the consumers a call: it has put a message into a queue, or closed a
channel. -/
inductive Debt
  | arrival (queue : String)
  | closure (channel : Nat)
  deriving DecidableEq, Repr

namespace Broker

/-- The first step of closing a channel; the call is the second one. -/
def markClosed (b : Broker) (channel : Nat) (reason : String) : Broker :=
  { b with channels := b.channels.set channel (some reason) }

/-- What a party does in a step that brings no message, closes no channel and calls nobody. It may
take messages from the front of a queue, and open channels. -/
structure Aside where
  change : Broker → Broker
  epoch : ∀ b, (change b).epoch = b.epoch
  channels : ∀ b, b.channels <+: (change b).channels
  waiting : ∀ b queue, (change b).waiting queue <:+ b.waiting queue

namespace Aside

/-- A queue is declared. -/
def declare (queue : String) : Aside where
  change b := b.declare queue
  epoch b := by
    rw [Broker.declare]
    split <;> rfl
  channels b := by
    rw [Broker.declare]
    split <;> exact List.prefix_rfl
  waiting b other := by
    rewrite [waiting_declare]
    exact List.suffix_rfl

/-- Another consumer takes the first message of a queue, if there is one. -/
def take (queue : String) : Aside where
  change b := match b.pop? queue with
    | some (_, rest) => { rest with lastTag := b.lastTag + 1 }
    | none => b
  epoch b := by
    split
    · rename_i body rest taken
      obtain ⟨-, queues, rfl, -⟩ := pop?_eq_some taken
      rfl
    · rfl
  channels b := by
    split
    · rename_i body rest taken
      obtain ⟨-, queues, rfl, -⟩ := pop?_eq_some taken
      exact List.prefix_rfl
    · exact List.prefix_rfl
  waiting b other := by
    split
    · rename_i body rest taken
      change rest.waiting other <:+ b.waiting other
      by_cases hother : other = queue
      · subst hother
        rw [(pop?_eq_some taken).1]
        exact List.suffix_cons body _
      · rewrite [waiting_pop?_of_ne taken hother]
        exact List.suffix_rfl
    · exact List.suffix_rfl

/-- The counters change, or which channel is the current one. -/
def record (change : Broker → Broker)
    (apart : ∀ b, (change b).epoch = b.epoch ∧ (change b).channels = b.channels ∧
      (change b).queues = b.queues) : Aside where
  change := change
  epoch b := (apart b).1
  channels b := by
    rewrite [(apart b).2.1]
    exact List.prefix_rfl
  waiting b queue := by
    rewrite [Broker.waiting, Broker.waiting, (apart b).2.2]
    exact List.suffix_rfl

/-- A channel is opened, and is the current one. -/
def openChannel : Aside where
  change b := { b with channels := b.channels ++ [none], current := some b.channels.length }
  epoch _ := rfl
  channels _ := List.prefix_append _ _
  waiting _ _ := List.suffix_rfl

end Aside

end Broker

/-- One step of a party. Whoever puts a message into a queue or closes a channel owes a call
afterwards; `call` is the call of one of those who owe one, by its number. -/
inductive Deed
  | aside (a : Broker.Aside)
  | enqueue (queue : String) (body : Body) (front : Bool)
  | markClosed (channel : Nat) (reason : String)
  | call (debtor : Nat)

/-- A broker with the calls that parties owe there, the latest first. -/
structure Bustle where
  broker : Broker
  owing : List Debt := []

namespace Bustle

/-- A step of a party. A message for which there is no queue is dropped, and no call is owed. -/
def deed (w : Bustle) : Deed → Bustle
  | .aside a => { w with broker := a.change w.broker }
  | .enqueue queue body front =>
    if w.broker.isDeclared queue then
      ⟨w.broker.enqueue queue body front, .arrival queue :: w.owing⟩
    else w
  | .markClosed channel reason =>
    ⟨w.broker.markClosed channel reason, .closure channel :: w.owing⟩
  | .call debtor =>
    if debtor < w.owing.length then ⟨w.broker.wake, w.owing.eraseIdx debtor⟩ else w

/-- Steps of parties, one after the other. -/
def deeds (w : Bustle) (ds : List Deed) : Bustle := ds.foldl deed w

theorem deeds_append (w : Bustle) (ds es : List Deed) :
    w.deeds (ds ++ es) = (w.deeds ds).deeds es :=
  List.foldl_append

end Bustle

/-! ### What parties do -/

namespace Broker

/-- What a party makes of a broker in some steps, if nothing comes between them. It owes no call
afterwards. -/
def ComesTo (b b' : Broker) : Prop := ∃ ds, (⟨b, []⟩ : Bustle).deeds ds = ⟨b', []⟩

variable {b b' b'' : Broker}

theorem ComesTo.trans (h : b.ComesTo b') (h' : b'.ComesTo b'') : b.ComesTo b'' := by
  obtain ⟨ds, hds⟩ := h
  obtain ⟨es, hes⟩ := h'
  exact ⟨ds ++ es, by rw [Bustle.deeds_append, hds, hes]⟩

theorem comesTo_aside (b : Broker) (a : Aside) : b.ComesTo (a.change b) := ⟨[.aside a], rfl⟩

/-- A change of counters, or of which channel is the current one. -/
theorem comesTo_record (b : Broker) (change : Broker → Broker)
    (apart : ∀ b, (change b).epoch = b.epoch ∧ (change b).channels = b.channels ∧
      (change b).queues = b.queues) : b.ComesTo (change b) :=
  b.comesTo_aside (.record change apart)

/-- **An arrival** is the message that is put into its queue, and the call. -/
theorem comesTo_arrive (b : Broker) (queue : String) (body : Body) (front : Bool) :
    b.ComesTo (b.arrive queue body front) := by
  refine ⟨[.enqueue queue body front, .call 0], ?_⟩
  rw [arrive]
  split
  · rename_i declared
    simp [Bustle.deeds, Bustle.deed, declared]
  · rename_i unknown
    simp [Bustle.deeds, Bustle.deed, unknown]

/-- **Closing a channel** is the mark that it is closed, and the call. -/
theorem comesTo_shut (b : Broker) (channel : Nat) (reason : String) :
    b.ComesTo (b.shut channel reason) :=
  ⟨[.markClosed channel reason, .call 0], rfl⟩

/-- A message from outside consists of such steps. -/
theorem comesTo_push (b : Broker) (queue : String) (body : Body) :
    b.ComesTo (b.push queue body) :=
  (b.comesTo_aside (.declare queue)).trans (comesTo_arrive _ queue body false)

/-- So does a publication. -/
theorem comesTo_publish (b : Broker) (channel : Nat) (queue : String) (body : Body) :
    b.ComesTo (b.publish channel queue body).2 := by
  rw [publish]
  split
  · exact b.comesTo_arrive queue body false
  · exact ⟨[], rfl⟩

/-- So does a message that is refused, whether it comes back or not. -/
theorem comesTo_reject (b : Broker) (h : Handout) (requeue : Bool) :
    b.ComesTo (b.reject h requeue) := by
  rw [reject]
  split
  · exact (b.comesTo_record (fun b => { b with requeued := b.requeued + 1 })
      fun _ => ⟨rfl, rfl, rfl⟩).trans (comesTo_arrive _ h.queue h.body true)
  · exact b.comesTo_record (fun b => { b with rejected := b.rejected + 1 })
      fun _ => ⟨rfl, rfl, rfl⟩

/-- So does the loss of the connection. -/
theorem comesTo_sever (b : Broker) (reason : String) : b.ComesTo (b.sever reason) := by
  rw [sever]
  split
  · exact ⟨[], rfl⟩
  · rename_i channel _
    exact (b.comesTo_record (fun b => { b with current := none })
      fun _ => ⟨rfl, rfl, rfl⟩).trans (comesTo_shut _ channel reason)

theorem comesTo_declare_all (queues : List String) (b : Broker) :
    b.ComesTo (queues.foldl declare b) := by
  induction queues generalizing b with
  | nil => exact ⟨[], rfl⟩
  | cons queue rest ih => exact (b.comesTo_aside (.declare queue)).trans (ih _)

/-- So does a new connection, which closes the channel before it. -/
theorem comesTo_connect (b : Broker) (t : Topology) : b.ComesTo (b.connect t).2 := by
  rw [connect]
  split
  · exact b.comesTo_record (fun b => { b with connectFailures := b.connectFailures - 1 })
      fun _ => ⟨rfl, rfl, rfl⟩
  · have opened := (comesTo_declare_all t.queues b).trans (comesTo_aside _ .openChannel)
    have counted := fun b' : Broker => comesTo_record b'
      (fun b => { b with connects := b.connects + 1 }) fun _ => ⟨rfl, rfl, rfl⟩
    dsimp only
    cases b.current with
    | none => exact opened.trans (counted _)
    | some previous => exact (opened.trans (comesTo_shut _ previous _)).trans (counted _)

/-! ### Channels that are closed, messages that wait -/

/-- A message that is put into a queue that is declared waits there, at whichever end. -/
theorem length_waiting_enqueue {queue : String} (declared : b.isDeclared queue = true)
    (body : Body) (front : Bool) :
    ((b.enqueue queue body front).waiting queue).length = (b.waiting queue).length + 1 := by
  obtain ⟨bodies, hb⟩ := isDeclared_iff.mp declared
  rw [waiting, waiting, enqueue, lookup_updateQueue_self, hb]
  cases front with
  | true => rfl
  | false => exact List.length_append

/-- A channel is closed. -/
def IsClosed (b : Broker) (channel : Nat) : Prop := (b.closedReason? channel).isSome

instance (b : Broker) (channel : Nat) : Decidable (b.IsClosed channel) :=
  inferInstanceAs (Decidable (_ = true))

theorem isClosed_iff {channel : Nat} :
    b.IsClosed channel ↔ ∃ reason, b.channels[channel]? = some (some reason) := by
  rw [IsClosed, closedReason?, Option.isSome_iff_exists]
  cases b.channels[channel]? with
  | none => simp
  | some reason => simp

end Broker

variable {channel : Nat}

/-- Closing is for good. -/
theorem Bustle.isClosed_deed {w : Bustle} (h : w.broker.IsClosed channel) (d : Deed) :
    (w.deed d).broker.IsClosed channel := by
  cases d with
  | aside a =>
      obtain ⟨reason, hreason⟩ := Broker.isClosed_iff.mp h
      obtain ⟨more, hmore⟩ := a.channels w.broker
      refine Broker.isClosed_iff.mpr ⟨reason, ?_⟩
      change (a.change w.broker).channels[channel]? = _
      rw [← hmore, List.getElem?_append_left (List.getElem?_eq_some_iff.mp hreason).1, hreason]
  | enqueue queue body front =>
      rw [deed]
      split
      · exact h
      · exact h
  | markClosed other reason =>
      obtain ⟨before, hbefore⟩ := Broker.isClosed_iff.mp h
      refine Broker.isClosed_iff.mpr ?_
      change ∃ r, (w.broker.channels.set other (some reason))[channel]? = some (some r)
      rw [List.getElem?_set]
      split
      · rename_i heq
        subst heq
        exact ⟨reason, if_pos (List.getElem?_eq_some_iff.mp hbefore).1⟩
      · exact ⟨before, hbefore⟩
  | call debtor =>
      rw [deed]
      split
      · exact h
      · exact h

/-! ### A stream among other parties -/

/-- A stream at a broker where other parties are at work. -/
structure Vigil where
  bustle : Bustle
  stream : Stream

namespace Vigil

/-- Who takes the next step: the stream, or another party. -/
inductive Turn
  | stream
  | party (d : Deed)

/-- The steps of other parties among turns. -/
def Turn.deeds (ts : List Turn) : List Deed :=
  ts.filterMap fun
    | .stream => none
    | .party d => some d

/-- Steps of parties among turns, one turn after the other. -/
theorem deeds_cons (w : Bustle) (t : Turn) (ts : List Turn) :
    w.deeds (Turn.deeds (t :: ts)) = (w.deeds (Turn.deeds [t])).deeds (Turn.deeds ts) := by
  cases t <;> rfl

/-- The broker of a vigil. -/
abbrev broker (v : Vigil) : Broker := v.bustle.broker

/-- A turn, with the message that the stream hands out in it. -/
def turn (v : Vigil) : Turn → Option Handout × Vigil
  | .party d => (none, { v with bustle := v.bustle.deed d })
  | .stream =>
    match v.stream.step v.broker with
    | (.handed h, b, s) => (some h, ⟨⟨b, v.bustle.owing⟩, s⟩)
    | (_, b, s) => (none, ⟨⟨b, v.bustle.owing⟩, s⟩)

/-- Where turns in some order lead. -/
def after : List Turn → Vigil → Vigil
  | [], v => v
  | t :: rest, v => after rest (v.turn t).2

/-- The messages that the stream hands out in them. -/
def handouts : List Turn → Vigil → List Handout
  | [], _ => []
  | t :: rest, v => (v.turn t).1.toList ++ handouts rest (v.turn t).2

variable {v : Vigil} {since : Nat}

/-- The turn of the stream is its step. -/
theorem turn_stream (v : Vigil) :
    (v.turn .stream).2 = ⟨⟨(v.stream.step v.broker).2.1, v.bustle.owing⟩,
      (v.stream.step v.broker).2.2⟩ := by
  rw [turn]
  split <;> rename_i heq <;> rw [heq]

/-- A stream stays with its channel and its queue. -/
theorem turn_same (v : Vigil) (t : Turn) :
    (v.turn t).2.stream.channel = v.stream.channel ∧
      (v.turn t).2.stream.queue = v.stream.queue := by
  cases t with
  | party d => exact ⟨rfl, rfl⟩
  | stream =>
      have hresult := Stream.step_result v.broker v.stream
      rw [turn_stream]
      dsimp only
      generalize Stream.step v.broker v.stream = r at hresult ⊢
      obtain ⟨outcome, b, s⟩ := r
      cases hresult with
      | still => exact ⟨rfl, rfl⟩
      | handed => exact ⟨rfl, rfl⟩

/-- So it does in turns in any order. -/
theorem after_same (ts : List Turn) (v : Vigil) :
    (after ts v).stream.channel = v.stream.channel ∧
      (after ts v).stream.queue = v.stream.queue := by
  induction ts generalizing v with
  | nil => exact ⟨rfl, rfl⟩
  | cons t rest ih =>
      obtain ⟨hchannel, hqueue⟩ := ih (v.turn t).2
      exact ⟨hchannel.trans (turn_same v t).1, hqueue.trans (turn_same v t).2⟩

/-! ### No call is missed -/

/-- A stream has missed no call: while it sleeps, it was called, or there are no more messages in
its queue than calls that are owed for them. -/
structure Wakeful (v : Vigil) : Prop where
  heard : ∀ since, v.stream.phase.since? = some since → since ≤ v.broker.epoch
  called : ∀ since, v.stream.phase = .asleep since → since < v.broker.epoch ∨
    (v.broker.waiting v.stream.queue).length ≤ v.bustle.owing.count (.arrival v.stream.queue)

/-- A stream that does not listen has missed none. -/
theorem wakeful_of_deaf (deaf : v.stream.phase.since? = none) : v.Wakeful where
  heard since hsince := by cases deaf.symm.trans hsince
  called since asleep := by cases deaf.symm.trans (congrArg Stream.Phase.since? asleep)

/-- Nor has a stream that was just started. -/
theorem wakeful_start (w : Bustle) (channel : Nat) (queue : String) :
    Wakeful ⟨w, { channel, queue }⟩ :=
  wakeful_of_deaf rfl

/-- It misses none in its own step: it sleeps only where it found no message. -/
theorem Wakeful.step (h : v.Wakeful) : (v.turn .stream).2.Wakeful := by
  rw [turn_stream]
  obtain ⟨⟨b, owing⟩, ⟨channel, queue, phase⟩⟩ := v
  obtain ⟨heard, called⟩ := h
  cases phase with
  | idle =>
      refine ⟨fun since hsince => ?_, fun _ asleep => by cases asleep⟩
      obtain rfl : b.epoch = since := Option.some.inj hsince
      exact Nat.le_refl b.epoch
  | ended => exact wakeful_of_deaf rfl
  | listening since =>
      rw [Stream.step]
      dsimp only
      split
      · exact wakeful_of_deaf rfl
      · exact ⟨heard, fun _ asleep => by cases asleep⟩
  | asleep since =>
      rw [Stream.step]
      dsimp only
      split
      · exact wakeful_of_deaf rfl
      · exact ⟨heard, called⟩
  | looking since =>
      rw [Stream.step]
      dsimp only
      split
      · exact wakeful_of_deaf rfl
      · rename_i none
        refine ⟨heard, fun _ _ => .inr ?_⟩
        change (b.waiting queue).length ≤ _
        rw [Broker.pop?_eq_none none]
        exact Nat.zero_le _

/-- It misses none in a step of another party: a message comes with a call that is owed, and no call
is made without being heard. -/
theorem Wakeful.party (h : v.Wakeful) (d : Deed) : (v.turn (.party d)).2.Wakeful := by
  obtain ⟨⟨b, owing⟩, ⟨channel, queue, phase⟩⟩ := v
  obtain ⟨heard, called⟩ := h
  cases d with
  | aside a =>
      refine ⟨fun since hsince => ?_, fun since asleep => ?_⟩
      · exact (a.epoch b).symm ▸ heard since hsince
      · refine (called since asleep).imp (fun hlt => ?_) fun hle => ?_
        · exact (a.epoch b).symm ▸ hlt
        · exact Nat.le_trans (a.waiting b queue).length_le hle
  | enqueue other body front =>
      rw [turn, Bustle.deed]
      dsimp only
      split
      · rename_i declared
        refine ⟨heard, fun since asleep => (called since asleep).imp_right fun hle => ?_⟩
        change ((b.enqueue other body front).waiting queue).length ≤ _
        by_cases hother : queue = other
        · subst hother
          rw [Broker.length_waiting_enqueue declared, List.count_cons_self]
          exact Nat.succ_le_succ hle
        · rw [Broker.waiting_enqueue_of_ne hother]
          exact Nat.le_trans hle List.count_le_count_cons
      · exact ⟨heard, called⟩
  | markClosed other reason =>
      refine ⟨heard, fun since asleep => (called since asleep).imp_right fun hle => ?_⟩
      exact Nat.le_trans hle List.count_le_count_cons
  | call debtor =>
      rw [turn, Bustle.deed]
      dsimp only
      split
      · have louder : ∀ since, phase.since? = some since → since < b.epoch + 1 :=
          fun since hsince => Nat.lt_succ_of_le (heard since hsince)
        refine ⟨fun since hsince => Nat.le_of_lt (louder since hsince), fun since asleep => ?_⟩
        obtain rfl : phase = .asleep since := asleep
        exact .inl (louder since rfl)
      · exact ⟨heard, called⟩

/-- **No step makes a stream miss a call**, whoever takes it. -/
theorem Wakeful.turn (h : v.Wakeful) (t : Turn) : (v.turn t).2.Wakeful := by
  cases t with
  | stream => exact h.step
  | party d => exact h.party d

/-- Nor do steps in any order. -/
theorem Wakeful.after (h : v.Wakeful) (ts : List Turn) : (after ts v).Wakeful := by
  induction ts generalizing v with
  | nil => exact h
  | cons t rest ih => exact ih (h.turn t)

/-- A stream that was called wakes in its turn. -/
theorem turn_of_called (asleep : v.stream.phase = .asleep since)
    (called : v.stream.isCalled v.broker since = true) :
    v.turn .stream = (none, ⟨v.bustle, { v.stream with phase := .idle }⟩) := by
  have hstep : v.stream.step v.broker = (.moved, v.broker, { v.stream with phase := .idle }) := by
    rw [Stream.step, asleep]
    exact if_pos called
  rw [turn, hstep]

/-! ### Channels that are closed -/

/-- **A stream whose channel is closed** takes nothing in its step, unless it looked at the channel
before. It does not go to look at the queue, nor to sleep. -/
theorem step_of_closed (closed : v.broker.IsClosed v.stream.channel)
    (before : ∀ since, v.stream.phase ≠ .looking since) :
    (v.turn .stream).1 = none ∧ (v.turn .stream).2.bustle = v.bustle ∧
      ∀ since, (v.turn .stream).2.stream.phase ≠ .looking since ∧
        (v.turn .stream).2.stream.phase ≠ .asleep since := by
  obtain ⟨⟨b, owing⟩, ⟨channel, queue, phase⟩⟩ := v
  have hclosed : (b.closedReason? channel).isSome = true := closed
  have apart {c : Stream.Phase} (h : c = .ended ∨ c = .idle ∨ ∃ since, c = .listening since) :
      ∀ since, c ≠ .looking since ∧ c ≠ .asleep since := by
    rintro since
    rcases h with rfl | rfl | ⟨other, rfl⟩ <;>
      exact ⟨Stream.Phase.noConfusion, Stream.Phase.noConfusion⟩
  cases phase with
  | idle => exact ⟨rfl, rfl, apart (.inr (.inr ⟨b.epoch, rfl⟩))⟩
  | ended => exact ⟨rfl, rfl, apart (.inl rfl)⟩
  | looking since => exact absurd rfl (before since)
  | listening since =>
      have hstep : Stream.step b ⟨channel, queue, .listening since⟩ =
          (.ended, b, ⟨channel, queue, .ended⟩) := by
        rw [Stream.step]
        exact if_pos hclosed
      simp only [turn, hstep]
      exact ⟨trivial, trivial, apart (.inl rfl)⟩
  | asleep since =>
      have called : Stream.isCalled b ⟨channel, queue, .asleep since⟩ since = true := by
        rw [Stream.isCalled, hclosed, Bool.or_true]
      rw [turn_of_called rfl called]
      exact ⟨rfl, rfl, apart (.inr (.inl rfl))⟩

/-- A stream over a closed channel is not about to look at the queue. -/
def Spent (v : Vigil) : Prop :=
  v.broker.IsClosed v.stream.channel ∧ ∀ since, v.stream.phase ≠ .looking since

/-- It takes nothing in any turn, and does not go to look or to sleep. -/
theorem Spent.turn (h : v.Spent) (t : Turn) :
    (v.turn t).2.Spent ∧ (v.turn t).1 = none ∧
      (v.turn t).2.bustle = v.bustle.deeds (Turn.deeds [t]) ∧
      ((∀ since, v.stream.phase ≠ .asleep since) →
        ∀ since, (v.turn t).2.stream.phase ≠ .asleep since) := by
  cases t with
  | party d => exact ⟨⟨Bustle.isClosed_deed h.1 d, h.2⟩, rfl, rfl, id⟩
  | stream =>
      obtain ⟨hnone, hbustle, hphase⟩ := step_of_closed h.1 h.2
      refine ⟨⟨?_, fun since => (hphase since).1⟩, hnone, hbustle, fun _ since => (hphase since).2⟩
      rw [Broker.IsClosed, broker, hbustle, (turn_same v .stream).1]
      exact h.1

/-- **A stream whose channel is closed takes nothing**, in turns in any order. The broker is as the
other parties leave it. -/
theorem quiet_of_closed (h : v.Spent) (ts : List Turn) :
    handouts ts v = [] ∧ (after ts v).bustle = v.bustle.deeds (Turn.deeds ts) := by
  induction ts generalizing v with
  | nil => exact ⟨rfl, rfl⟩
  | cons t rest ih =>
      obtain ⟨hspent, hnone, hbustle, -⟩ := h.turn t
      obtain ⟨hrest, hafter⟩ := ih hspent
      refine ⟨?_, ?_⟩
      · rw [handouts, hnone, hrest]
        rfl
      · rw [after, hafter, hbustle]
        exact (deeds_cons _ t rest).symm

/-- It does not go to sleep. -/
theorem awake_of_closed (h : v.Spent) (awake : ∀ since, v.stream.phase ≠ .asleep since)
    (ts : List Turn) (since : Nat) : (after ts v).stream.phase ≠ .asleep since := by
  induction ts generalizing v with
  | nil => exact awake since
  | cons t rest ih =>
      obtain ⟨hspent, -, -, hawake⟩ := h.turn t
      exact ih hspent (hawake awake)

/-- What a stream may still do that looked at its channel before it was closed: after some steps of
other parties it takes the first message of its queue, and then nothing more. -/
structure LastTaken (v : Vigil) (ts : List Turn) (before later : List Turn) (body : Body)
    (rest : Broker) : Prop where
  turns : ts = before ++ .stream :: later
  first : .stream ∉ before
  taken : (v.bustle.deeds (Turn.deeds before)).broker.pop? v.stream.queue = some (body, rest)
  handed : handouts ts v =
    [⟨(v.bustle.deeds (Turn.deeds before)).broker.lastTag + 1, v.stream.queue, body⟩]
  left : (after ts v).bustle = Bustle.deeds
    ⟨{ rest with lastTag := (v.bustle.deeds (Turn.deeds before)).broker.lastTag + 1 },
      (v.bustle.deeds (Turn.deeds before)).owing⟩ (Turn.deeds later)

/-- The step in which a stream looks at the queue. -/
theorem turn_looking (w : Bustle) (channel : Nat) (queue : String) (since : Nat) :
    turn ⟨w, ⟨channel, queue, .looking since⟩⟩ .stream =
      match w.broker.pop? queue with
      | some (body, rest) => (some ⟨rest.lastTag + 1, queue, body⟩,
          ⟨⟨{ rest with lastTag := rest.lastTag + 1 }, w.owing⟩, ⟨channel, queue, .idle⟩⟩)
      | none => (none, ⟨w, ⟨channel, queue, .asleep since⟩⟩) := by
  rw [turn, broker, Stream.step]
  cases w.broker.pop? queue <;> rfl

/-- **The last message.** A stream that looked at its channel before it was closed takes one message
at most. -/
theorem lastTaken_of_looking (closed : v.broker.IsClosed v.stream.channel)
    (looking : v.stream.phase = .looking since) (ts : List Turn) :
    (handouts ts v = [] ∧ (after ts v).bustle = v.bustle.deeds (Turn.deeds ts)) ∨
      ∃ before later body rest, LastTaken v ts before later body rest := by
  induction ts generalizing v with
  | nil => exact .inl ⟨rfl, rfl⟩
  | cons t ts ih =>
      cases t with
      | party d =>
          rcases ih (v := ⟨v.bustle.deed d, v.stream⟩) (Bustle.isClosed_deed closed d) looking with
            ⟨hnone, hafter⟩ | ⟨before, later, body, rest, h⟩
          · exact .inl ⟨hnone, hafter⟩
          · exact .inr ⟨.party d :: before, later, body, rest, {
              turns := congrArg (List.cons _) h.turns
              first := by simpa using h.first
              taken := h.taken
              handed := h.handed
              left := h.left }⟩
      | stream =>
          obtain ⟨w, ⟨channel, queue, phase⟩⟩ := v
          obtain rfl : phase = .looking since := looking
          have hturn := turn_looking w channel queue since
          cases htaken : w.broker.pop? queue with
          | none =>
              simp only [htaken] at hturn
              obtain ⟨hnone, hafter⟩ := quiet_of_closed
                (v := ⟨w, ⟨channel, queue, .asleep since⟩⟩) ⟨closed, nofun⟩ ts
              refine .inl ⟨?_, ?_⟩
              · rw [handouts, hturn, hnone]
                rfl
              · rw [after, hturn, hafter]
                rfl
          | some taken =>
              obtain ⟨body, rest⟩ := taken
              simp only [htaken] at hturn
              obtain ⟨-, queues, hrest, -⟩ := Broker.pop?_eq_some htaken
              have spent : Spent ⟨⟨{ rest with lastTag := rest.lastTag + 1 }, w.owing⟩,
                  ⟨channel, queue, .idle⟩⟩ := by
                refine ⟨?_, nofun⟩
                subst hrest
                exact closed
              have htag : rest.lastTag = w.broker.lastTag := by rw [hrest]
              obtain ⟨hnone, hafter⟩ := quiet_of_closed spent ts
              refine .inr ⟨[], ts, body, rest, rfl, List.not_mem_nil, htaken, ?_, ?_⟩
              · rw [handouts, hturn, hnone, htag]
                rfl
              · rw [after, hturn, hafter, htag]
                rfl

/-! ### A stream from its start on -/

/-- **A stream wakes when it should, and ends with its channel.** Let a stream be started at a
broker where parties may be at work, and let them take turns in any order. Whenever it sleeps, its
channel was open when it was started; and it wakes in its next turn, or else its channel is still
open, and for each message in its queue the party that has brought it is still to call. Once its
channel is closed the stream takes nothing more, and the broker is as the other parties leave it,
unless it has looked at the channel before and has not looked at the queue yet; then it may take the
first message of its queue, and after that nothing more. -/
theorem wakes_and_ends {w : Bustle} {channel : Nat} {queue : String} {ts : List Turn} {v : Vigil}
    (reached : after ts ⟨w, { channel, queue }⟩ = v) :
    (∀ since, v.stream.phase = .asleep since →
      ¬w.broker.IsClosed channel ∧
        ((v.turn .stream).2.stream.phase = .idle ∨
          ¬v.broker.IsClosed channel ∧
            (v.broker.waiting queue).length ≤ v.bustle.owing.count (.arrival queue))) ∧
    (v.broker.IsClosed channel → ∀ later,
      (handouts later v = [] ∧ (after later v).bustle = v.bustle.deeds (Turn.deeds later)) ∨
      ∃ since, v.stream.phase = .looking since ∧
        ∃ before more body rest, LastTaken v later before more body rest) := by
  have wakeful : v.Wakeful := reached ▸ (wakeful_start w channel queue).after ts
  obtain ⟨rfl, rfl⟩ : v.stream.channel = channel ∧ v.stream.queue = queue :=
    reached ▸ after_same ts ⟨w, { channel, queue }⟩
  refine ⟨fun since asleep => ⟨fun closed => ?_, ?_⟩, fun closed later => ?_⟩
  · have awake := awake_of_closed
      (v := ⟨w, { channel := v.stream.channel, queue := v.stream.queue }⟩)
      ⟨closed, nofun⟩ nofun ts since
    rw [reached] at awake
    exact awake asleep
  · cases called : v.stream.isCalled v.broker since with
    | true => exact .inl (by rw [turn_of_called asleep called])
    | false =>
        rw [Stream.isCalled, Bool.or_eq_false_iff] at called
        refine .inr ⟨?_, ?_⟩
        · rw [Broker.IsClosed, called.2]
          exact Bool.false_ne_true
        · exact (wakeful.called since asleep).resolve_left (of_decide_eq_false called.1)
  · by_cases looking : ∃ since, v.stream.phase = .looking since
    · obtain ⟨since, looking⟩ := looking
      exact (lastTaken_of_looking closed looking later).imp_right fun h => ⟨since, looking, h⟩
    · exact .inl (quiet_of_closed ⟨closed, fun since h => looking ⟨since, h⟩⟩ later)

/-- A broker with one channel, and a queue without messages. -/
def emptyQueue : Bustle := { broker := { queues := [("push", [])], channels := [none] } }

/-- A stream that went to sleep, and a party that has put a message into its queue and did not call
yet. -/
def almostCalled : Vigil :=
  after [.stream, .stream, .stream, .party (.enqueue "push" (.text "m") false)]
    ⟨emptyQueue, { channel := 0, queue := "push" }⟩

/-- It sleeps over its message, for which a call is owed. -/
theorem wakes_and_ends_almostCalled :
    almostCalled.stream.phase = .asleep 0 ∧
      almostCalled.broker.waiting "push" = [.text "m"] ∧
      (almostCalled.turn .stream).2.stream.phase = .asleep 0 ∧
      ¬almostCalled.broker.IsClosed 0 ∧
      1 ≤ almostCalled.bustle.owing.count (.arrival "push") := by
  have asleep : almostCalled.stream.phase = .asleep 0 := by decide
  have still : (almostCalled.turn .stream).2.stream.phase = .asleep 0 := by decide
  have owed :=
    (((wakes_and_ends (v := almostCalled) rfl).1 0 asleep).2).resolve_left (by simp [still])
  exact ⟨asleep, by decide, still, owed.1, owed.2⟩

/-- A stream with a message in its queue has looked at its channel, which was open. Then the channel
is closed, and the party that has closed it makes its call. -/
def closedInBetween : Vigil :=
  after [.party (.enqueue "push" (.text "m") false), .party (.call 0), .stream, .stream,
      .party (.markClosed 0 "lost"), .party (.call 0)]
    ⟨emptyQueue, { channel := 0, queue := "push" }⟩

/-- **A message after the close.** The channel is closed, no party has anything left to do, and the
stream still hands out the message. -/
theorem takes_after_close :
    closedInBetween.broker.closedReason? 0 = some "lost" ∧ closedInBetween.bustle.owing = [] ∧
      handouts [.stream] closedInBetween = [⟨1, "push", .text "m"⟩] := by
  decide

end Vigil

end PushDelivery
