import PushDelivery.Proofs.Transport.Conservation

/-!
# While the Link Holds

As long as the connection is not lost, the channel that was opened first stays in use. The consumer
does not lose it, publications find it, and all of them are accepted. So the queues that the service
writes to hold what the messages in work have sent there, each publication once.

## Main definitions

* `Station.Receives`: what can happen outside while the connection is there.
* `Consumer.GoesOn`: a consumer that has not lost its channel.
* `Transport.Accepts`, `Transport.sentTo`: exchanges over a channel in use, and what they send.
* `Intake.Linked`: what every step keeps while the connection is there.

## Main results

* `Consumer.Moves.goesOn`: the consumer keeps its channel.
* `Transport.asksUnder_settle`: messages are published over the channel in use only.
* `Intake.Comes.linked`: what is kept holds wherever steps lead.
-/

namespace PushDelivery

open Run (Exchange)

/-! ### Events without a loss -/

/-- What can happen to a station from outside while its connection is there: a message comes to the
push queue, and link and surroundings change in any way that leaves the channel in its slot. -/
structure Station.Receives (s : Station) (new : List Body) (s' : Station) : Prop where
  topology : s'.topology = s.topology
  faults : s'.faults = s.faults
  slot : s'.link.slot = s.link.slot
  broker : (new = [] ∧ s'.broker = s.broker) ∨
    ∃ body, new = [body] ∧ s'.broker = s.broker.push s.topology.pushQueue body

/-- A message is pushed onto the push queue. -/
theorem Station.receives_push (s : Station) (body : Body) :
    s.Receives [body] { s with broker := s.broker.push s.topology.pushQueue body } :=
  ⟨rfl, rfl, rfl, .inr ⟨body, rfl, rfl⟩⟩

/-- These are some of the events that can happen. -/
theorem Station.Receives.undergoes {s s' : Station} {new : List Body} (h : s.Receives new s') :
    s.Undergoes new s' := by
  refine ⟨h.topology, h.faults, ?_⟩
  rcases h.broker with ⟨rfl, hbroker⟩ | ⟨body, rfl, hbroker⟩
  · exact hbroker ▸ .nothing _
  · rw [hbroker]
    exact (s.undergoes_push body).broker

/-- A supervisor that watches a channel, or is about to, and has not seen it closed. -/
def Supervisor.Watches (channel : Nat) : Supervisor → Prop
  | .looking | .locking | .stopped => True
  | .watching watched => watched = channel
  | .reporting | .connecting | .announcing | .resting _ => False

/-- Steps of such a supervisor are among these events while the channel is open. -/
theorem Supervisor.receives {v : Supervisor} {s : Station} {channel : Nat} (h : v.Watches channel)
    (slot : s.link.slot = some channel) (opened : s.broker.isOpen channel = true) :
    (v.step s).1.Watches channel ∧ s.Receives [] (v.step s).2 := by
  have same : s.Receives [] s := ⟨rfl, rfl, rfl, .inl ⟨rfl, rfl⟩⟩
  have recovers : (recover s).Watches channel := by
    rw [recover]
    split <;> trivial
  cases v with
  | looking =>
      rw [Supervisor.step, slot]
      exact ⟨rfl, same⟩
  | locking =>
      have there : s.link.slot.any s.broker.isOpen = true := by rw [slot, Option.any_some, opened]
      rw [Supervisor.step, if_pos there]
      exact ⟨trivial, same⟩
  | stopped => exact ⟨trivial, same⟩
  | watching watched =>
      obtain rfl : watched = channel := h
      have notClosed : ¬(s.broker.closedReason? watched).isSome = true := by
        have hopen : s.broker.channels[watched]? = some none := beq_iff_eq.mp opened
        rw [Broker.closedReason?, hopen]
        exact Bool.false_ne_true
      rw [Supervisor.step, if_neg notClosed]
      split
      · exact ⟨trivial, same⟩
      · exact ⟨recovers, same⟩
  | reporting | connecting | announcing | resting => exact h.elim

/-! ### The consumer -/

namespace Consumer

/-- A consumer that listens over a channel, or is about to, or will stop, and has not lost the
channel. -/
def GoesOn (channel : Nat) (b : Broker) : Consumer → Prop
  | .subscribing found => found = channel
  | .making stream | .taking stream => stream.GoesOn channel b
  | .losing _ | .reporting => False
  | .seeking _ | .waiting _ | .draining | .stopped => True

/-- A consumer goes on when something happens at the broker. -/
theorem GoesOn.calls {channel : Nat} {b b' : Broker} {c : Consumer} (h : c.GoesOn channel b)
    (calls : ∀ queue, b.Calls queue b') : c.GoesOn channel b' := by
  cases c with
  | making stream => exact Stream.GoesOn.calls h (calls _)
  | taking stream => exact Stream.GoesOn.calls h (calls _)
  | subscribing => exact h
  | losing | reporting => exact h.elim
  | seeking | waiting | draining | stopped => trivial

variable {s s' : Station} {inWork channel : Nat} {c c' : Consumer} {taken : Option Handout}

/-- A consumer keeps its channel when it takes what its stream tells. -/
theorem take_goesOn (faultless : s.faults = {}) (opened : s.broker.isOpen channel = true)
    {stream : Stream} (h : stream.GoesOn channel s.broker) :
    (take s stream).1.GoesOn channel (take s stream).2.1.broker ∧
      (take s stream).2.1.link.slot = s.link.slot := by
  have sound : ¬0 < s.faults.take := by rw [faultless]; exact Nat.lt_irrefl 0
  obtain ⟨notEnded, goesOn⟩ := Stream.poll_goesOn h opened
  rw [take]
  generalize Stream.poll s.broker stream = polled at notEnded goesOn ⊢
  obtain ⟨outcome, broker, stream'⟩ := polled
  cases outcome with
  | handed h =>
      dsimp only
      rw [if_neg sound]
      exact ⟨goesOn, rfl⟩
  | ended => exact absurd rfl notEnded
  | moved | sleeps => exact ⟨goesOn, rfl⟩

/-- A consumer keeps its channel in one step, as long as the channel is open. -/
theorem Moves.goesOn (h : Moves s inWork c c' s' taken) (faultless : s.faults = {})
    (slot : s.link.slot = some channel) (opened : s.broker.isOpen channel = true)
    (goesOn : c.GoesOn channel s.broker) :
    c'.GoesOn channel s'.broker ∧ s'.link.slot = s.link.slot := by
  cases h with
  | reserve => exact ⟨goesOn, rfl⟩
  | take => exact take_goesOn faultless opened goesOn
  | @listen stream moved =>
      obtain ⟨-, listens⟩ := Stream.step_goesOn goesOn opened
      have hresult := Stream.step_result s.broker stream
      generalize Stream.step s.broker stream = stepped at hresult moved listens ⊢
      obtain ⟨outcome, broker, stream'⟩ := stepped
      obtain rfl : outcome = .moved := moved
      cases hresult with
      | still => exact ⟨listens, rfl⟩
  | step may =>
      cases c with
      | seeking heard =>
          rw [Consumer.step, slot]
          split
          · exact ⟨trivial, slot⟩
          · exact ⟨rfl, slot⟩
      | waiting heard =>
          rw [Consumer.step]
          split
          · exact ⟨trivial, rfl⟩
          · exact ⟨trivial, rfl⟩
      | subscribing found =>
          obtain rfl : found = channel := goesOn
          have subscribed : s.consume found =
              (.ok { channel := found, queue := s.topology.pushQueue }, s) := by
            rw [Station.consume, faultless, if_neg (Nat.lt_irrefl 0), Broker.consume, if_pos opened]
          rw [Consumer.step, subscribed]
          exact ⟨Stream.goesOn_idle found s.broker s.topology.pushQueue, rfl⟩
      | making stream =>
          rw [Consumer.step]
          split
          · exact ⟨trivial, rfl⟩
          · exact ⟨goesOn, rfl⟩
      | taking stream =>
          rw [Consumer.step]
          split
          · exact ⟨trivial, rfl⟩
          · exact take_goesOn faultless opened goesOn
      | losing | reporting => exact goesOn.elim
      | draining => exact ⟨trivial, rfl⟩
      | stopped => exact may.elim

end Consumer

/-! ### Publications -/

namespace Transport

/-- An exchange while a channel is in use: it is found, and takes what is published. -/
def Accepts (channel : Nat) : Exchange interface → Prop
  | ⟨.channel, slot⟩ => slot = some channel
  | ⟨.publishOver .., answer⟩ => answer = .ok ()
  | _ => True

/-- A request publishes over no other channel. -/
def Request.Uses (channel : Nat) : Request → Prop
  | .publishOver used .. => used = channel
  | _ => True

/-- What a request sends to a queue. -/
def Request.sends (queue : String) : Request → List Body
  | .publishOver _ other body => if other = queue then [body] else []
  | _ => []

/-- What some exchanges send to a queue. -/
def sentTo (queue : String) (es : List (Exchange interface)) : List Body :=
  es.flatMap (·.1.sends queue)

@[simp] theorem sentTo_nil (queue : String) : sentTo queue [] = [] := rfl

@[simp] theorem sentTo_cons (queue : String) (e : Exchange interface)
    (es : List (Exchange interface)) :
    sentTo queue (e :: es) = e.1.sends queue ++ sentTo queue es :=
  List.flatMap_cons

@[simp] theorem sentTo_append (queue : String) (es fs : List (Exchange interface)) :
    sentTo queue (es ++ fs) = sentTo queue es ++ sentTo queue fs := List.flatMap_append

section

open Run (AsksUnder)

variable {channel : Nat}

/-- A publication uses the channel that it finds. -/
theorem asksUnder_publish (queue : String) (body : Body) :
    (publish queue body).AsksUnder (Accepts channel) (Request.Uses channel) := by
  refine ⟨trivial, fun slot found => ?_⟩
  obtain rfl : slot = some channel := found
  refine ⟨rfl, fun answer accepted => ?_⟩
  obtain rfl : answer = .ok () := accepted
  exact ⟨trivial, fun _ _ => trivial⟩

/-- So does a handler. -/
theorem asksUnder_carry {α : Type} (t : Topology) (run : Run Delivery.interface α) :
    (carry t run).AsksUnder (Accepts channel) (Request.Uses channel) := by
  refine AsksUnder.within (fun r => ?_) run
  cases r with
  | publish report =>
      refine (asksUnder_publish _ _).bind fun result => ?_
      rcases result with e | ⟨⟩
      · trivial
      · trivial
  | _ => exact ⟨trivial, fun _ _ => trivial⟩

/-- So does settling a message. -/
theorem asksUnder_settle (t : Topology) (handler : Handler) (h : Handout) :
    (settle t handler h).AsksUnder (Accepts channel) (Request.Uses channel) := by
  have quiet : ∀ {r : Request}, r.Uses channel →
      (request r).AsksUnder (Accepts channel) (Request.Uses channel) :=
    fun uses => ⟨uses, fun _ _ => trivial⟩
  refine .bind (quiet trivial) fun _ => .bind (quiet trivial) fun now => ?_
  cases job? h.body (.ofInstant now) with
  | none => exact .bind (quiet trivial) fun _ => .bind (quiet trivial) fun _ => trivial
  | some job =>
      refine .bind (asksUnder_carry t (handler job)) fun ⟨result, handled⟩ => ?_
      cases result with
      | ok => exact .bind (quiet trivial) fun _ => .bind (quiet trivial) fun _ => trivial
      | error e =>
          refine .bind ?_ fun _ => .bind (quiet trivial) fun _ => trivial
          refine .bind (quiet trivial) fun time => .bind (asksUnder_publish _ _) fun result => ?_
          rcases result with e | ⟨⟩
          · trivial
          · exact .bind (quiet trivial) fun _ => trivial

end

end Transport

/-- A request over a channel in use takes its message to the queue that it names. -/
theorem Station.gains_eq_sends {s : Station} {channel : Nat} {queue : String}
    (r : Transport.Request) (uses : r.Uses channel) (takes : s.takes channel = true)
    (declared : s.broker.isDeclared queue = true) : s.gains queue r = r.sends queue := by
  cases r with
  | publishOver used other body =>
      obtain rfl : used = channel := uses
      rw [gains, Transport.Request.sends]
      simp only [takes, declared, and_self, and_true]
  | delivery | channel | acknowledge | refuse | note => rfl

/-- Every request calls the consumers that sleep, or leaves the queues as they are. -/
theorem Broker.calls_after (b : Broker) (r : Transport.Request) (queue : String) :
    b.Calls queue (b.after r) := by
  cases r with
  | publishOver channel other body => exact b.calls_publish channel other queue body
  | delivery | channel | acknowledge | refuse | note => exact .inr ⟨rfl, rfl⟩

/-- No request closes a channel or drops a queue. -/
theorem Broker.keeps_after (b : Broker) (r : Transport.Request) :
    (∀ channel, (b.after r).isOpen channel = b.isOpen channel) ∧
      ∀ queue, (b.after r).isDeclared queue = b.isDeclared queue := by
  cases r with
  | publishOver used other body =>
      refine ⟨b.isOpen_publish used other body, fun queue => ?_⟩
      rw [after, publish]
      split
      · exact b.isDeclared_arrive other queue body false
      · rfl
  | delivery | channel | acknowledge | refuse | note => exact ⟨fun _ => rfl, fun _ => rfl⟩

namespace Intake

open Transport (Handler Accepts sentTo asksUnder_settle)

variable {outside : Station → List Body → Station → Prop} {handler : Handler} {t : Topology}
  {channel : Nat} {arrived new : List Body} {w w' : Intake}

/-- What every step keeps while the connection is there. -/
structure Linked (t : Topology) (handler : Handler) (channel : Nat) (arrived : List Body)
    (w : Intake) : Prop where
  kept : Kept t handler arrived w
  slot : w.station.link.slot = some channel
  opened : w.station.broker.isOpen channel = true
  declared : ∀ queue ∈ t.queues, w.station.broker.isDeclared queue = true
  goesOn : ∀ c, w.consumer = some c → c.GoesOn channel w.station.broker
  /-- All publications were accepted. -/
  accepts : ∀ k ∈ w.works, ∀ e ∈ k.trace, Accepts channel e
  /-- A queue that is not the push queue holds what was sent there, in some order. -/
  sent : ∀ queue ∈ t.queues, queue ≠ t.pushQueue →
    (w.station.broker.waiting queue).Perm (w.works.flatMap fun k => sentTo queue k.trace)

/-- After the first connection to a broker that is new, the link holds. -/
theorem exists_linked_start {s : Station} (fresh : s.broker = {}) (faultless : s.faults = {}) :
    ∃ channel, Linked s.topology handler channel [] { station := s.connect.2 } := by
  obtain ⟨channel, hconnect, hopen, hdeclared⟩ := Broker.connect_of_none (b := s.broker)
    (by rw [fresh]) (by rw [fresh]) s.topology
  have empty : ∀ queue, (s.broker.connect s.topology).2.waiting queue = [] := fun queue => by
    rw [s.broker.waiting_connect s.topology, fresh]
    rfl
  have zero : (s.broker.connect s.topology).2.counts = ⟨0, 0, 0, 0⟩ := by
    rw [s.broker.counts_connect s.topology, fresh]
    rfl
  rw [Station.connect, Station.openChannel]
  generalize s.broker.connect s.topology = connected at hconnect hopen hdeclared empty zero ⊢
  obtain ⟨result, b⟩ := connected
  obtain rfl : result = .ok channel := hconnect
  have kept := @kept_start handler ({ s with broker := b }.install channel) faultless (empty _) zero
  refine ⟨channel, kept, rfl, hopen, hdeclared, ?_, ?_, fun queue _ _ => .of_eq (empty queue)⟩
  · intro c hc
    cases hc
  · intro k hk
    cases hk

/-- A message that comes to the push queue leaves the link as it is. -/
theorem Linked.receives {s : Station} (h : Linked t handler channel arrived w)
    (happens : w.station.Receives new s) :
    Linked t handler channel (arrived ++ new) { w with station := s } := by
  have kept := h.kept.undergoes happens.undergoes
  rcases happens.broker with ⟨-, hbroker⟩ | ⟨body, -, hbroker⟩
  · refine ⟨kept, happens.slot.trans h.slot, ?_, ?_, ?_, h.accepts, ?_⟩
    all_goals rw [hbroker]
    · exact h.opened
    · exact h.declared
    · exact h.goesOn
    · exact h.sent
  · rw [h.kept.topology] at hbroker
    refine ⟨kept, happens.slot.trans h.slot, ?_, ?_, ?_, h.accepts, ?_⟩
    · rw [hbroker, Broker.isOpen_push]
      exact h.opened
    · intro queue hqueue
      rw [hbroker, Broker.push, Broker.isDeclared_arrive]
      exact Broker.isDeclared_declare (h.declared queue hqueue) _
    · intro c hc
      rw [hbroker]
      exact (h.goesOn c hc).calls fun queue => Broker.calls_push _ _ queue body
    · intro queue hqueue hne
      rw [hbroker, Broker.waiting_push_of_ne hne]
      exact h.sent queue hqueue hne

/-- Starting the consumer leaves the link as it is. -/
theorem Linked.launch (h : Linked t handler channel arrived w) :
    Linked t handler channel arrived { w with consumer := some (.start w.station) } := by
  refine { h with kept := h.kept.launch, goesOn := ?_ }
  intro c hc
  obtain rfl := Option.some.inj hc
  exact trivial

/-- A step of the consumer leaves the link as it is. -/
theorem Linked.moves {c c' : Consumer} {s : Station} {taken : Option Handout}
    (h : Linked t handler channel arrived w) (stands : w.consumer = some c)
    (moves : Consumer.Moves w.station w.inWork c c' s taken) :
    Linked t handler channel arrived
      ⟨s, some c', w.works ++ taken.toList.map (Work.begin w.station.topology handler)⟩ := by
  obtain ⟨goesOn, slot⟩ := moves.goesOn h.kept.faultless h.slot h.opened (h.goesOn c stands)
  have kept := h.kept.moves stands moves
  -- The message that is taken, if any, has not exchanged anything yet.
  have accepts : ∀ k ∈ w.works ++ taken.toList.map (Work.begin w.station.topology handler),
      ∀ e ∈ k.trace, Accepts channel e := by
    intro k hk e he
    rcases List.mem_append.mp hk with hk | hk
    · exact h.accepts k hk e he
    · obtain ⟨handout, -, rfl⟩ := List.mem_map.mp hk
      rw [Work.begin_trace] at he
      cases he
  have begun : ∀ queue, (w.works ++ taken.toList.map
      (Work.begin w.station.topology handler)).flatMap (fun k => sentTo queue k.trace) =
      w.works.flatMap fun k => sentTo queue k.trace := by
    intro queue
    cases taken with
    | none => simp
    | some handout => simp
  have goesOn' : ∀ c, some c' = some c → c.GoesOn channel s.broker := by
    intro _ hc'
    obtain rfl := Option.some.inj hc'
    exact goesOn
  have turn := moves.turn h.kept.faultless
  cases turn with
  | quiet topology faults broker reserves stops streams =>
      refine ⟨kept, slot.trans h.slot, ?_, ?_, goesOn', accepts, ?_⟩
      · rw [broker]
        exact h.opened
      · rw [broker]
        exact h.declared
      · intro queue hqueue hne
        rw [broker, begun]
        exact h.sent queue hqueue hne
  | @took stream body rest stood popped =>
      subst stood
      have hqueue : stream.queue = t.pushQueue := h.kept.streams _ stream stands rfl
      obtain ⟨-, queues, hrest, hsame⟩ := Broker.pop?_eq_some popped
      refine ⟨kept, slot.trans h.slot, ?_, ?_, goesOn', accepts, ?_⟩
      · rw [hrest]
        exact h.opened
      · intro queue hmem
        rw [hrest]
        exact (hsame queue).trans (h.declared queue hmem)
      · intro queue hmem hne
        rw [begun]
        have hwaiting := Broker.waiting_pop?_of_ne popped (hqueue ▸ hne)
        exact hwaiting ▸ h.sent queue hmem hne

/-- A request of a message in work leaves the link as it is, and its publication is accepted. -/
theorem Linked.request {before after : List Work} {k : Work} {r : Transport.Request}
    {next : r.Answer → Run Transport.interface Unit} {answer : r.Answer} {s : Station}
    (h : Linked t handler channel arrived w) (works : w.works = before ++ k :: after)
    (asks : k.left = .ask r next) (answers : w.station.Answers ⟨r, answer⟩ s) :
    Linked t handler channel (arrived ++ w.station.gains t.pushQueue r)
      { w with
        station := s
        works := before ++ k.exchange ⟨r, answer⟩ (next answer) :: after } := by
  have effect := answers.effect h.kept.faultless
  have kept := h.kept.request works asks answers
  have hk : k ∈ w.works := works ▸ List.mem_append_right _ List.mem_cons_self
  have uses : r.Uses channel := by
    have left := (asksUnder_settle t handler k.handout).of_reaches (h.kept.courses k hk).course
      (h.accepts k hk)
    rw [asks] at left
    exact left.1
  have accepted : Accepts channel ⟨r, answer⟩ := by
    cases r with
    | channel =>
        have found : answer = w.station.link.slot := effect.tells
        exact found.trans h.slot
    | publishOver used queue body =>
        obtain rfl : used = channel := uses
        have published : answer = (w.station.broker.publish used queue body).1 := effect.tells
        rw [Broker.publish, if_pos h.opened] at published
        exact published
    | delivery | acknowledge | refuse | note => trivial
  have takes : w.station.takes channel = true := by
    rw [Station.takes, h.kept.faultless, h.opened]
    rfl
  obtain ⟨opens, declares⟩ := w.station.broker.keeps_after r
  refine ⟨kept, effect.slot.trans h.slot, ?_, ?_, ?_, ?_, ?_⟩
  · rw [effect.broker, opens]
    exact h.opened
  · intro queue hqueue
    rw [effect.broker, declares]
    exact h.declared queue hqueue
  · intro c hc
    rw [effect.broker]
    exact (h.goesOn c hc).calls fun queue => w.station.broker.calls_after r queue
  · refine forall_mem_replace (works ▸ h.accepts) fun e he => ?_
    rcases List.mem_append.mp he with he | he
    · exact h.accepts k hk e he
    · obtain rfl := List.mem_singleton.mp he
      exact accepted
  · intro queue hqueue hne
    have hsent := h.sent queue hqueue hne
    rw [works] at hsent
    rw [effect.broker, Station.waiting_after h.kept.faultless,
      Station.gains_eq_sends r uses takes (h.declared queue hqueue)]
    refine (hsent.append_right _).trans ?_
    simp only [List.flatMap_append, List.flatMap_cons, Work.exchange, Transport.sentTo_append,
      Transport.sentTo_cons, Transport.sentTo_nil, List.append_nil, List.append_assoc]
    exact (List.perm_append_comm.append_left _).append_left _

/-- The end of a task leaves the link as it is. -/
theorem Linked.finish {before after : List Work} {k : Work} (h : Linked t handler channel arrived w)
    (works : w.works = before ++ k :: after) (done : k.left = .done ()) :
    Linked t handler channel arrived
      { w with works := before ++ { k with ended := true } :: after } := by
  have hk : k ∈ w.works := works ▸ List.mem_append_right _ List.mem_cons_self
  refine { h with kept := h.kept.finish works done, accepts := ?_, sent := ?_ }
  · exact forall_mem_replace (works ▸ h.accepts) (h.accepts k hk)
  · intro queue hqueue hne
    have hsent := h.sent queue hqueue hne
    rw [works, List.flatMap_append, List.flatMap_cons] at hsent
    rw [List.flatMap_append, List.flatMap_cons]
    exact hsent

/-- Every step leaves the link as it is, if nothing happens outside but that messages come. -/
theorem Step.linked (step : Step Station.Receives handler w new w')
    (h : Linked t handler channel arrived w) : Linked t handler channel (arrived ++ new) w' := by
  cases step with
  | outside happens => exact h.receives happens
  | launch idle =>
      rw [List.append_nil]
      exact h.launch
  | consumer stands moves =>
      rw [List.append_nil]
      exact h.moves stands moves
  | request works asks answers =>
      rw [h.kept.topology]
      exact h.request works asks answers
  | finish works done =>
      rw [List.append_nil]
      exact h.finish works done

/-- The link holds wherever steps lead. -/
theorem Comes.linked {start : Intake} (comes : Comes Station.Receives handler start arrived w)
    (h : Linked t handler channel [] start) : Linked t handler channel arrived w := by
  induction comes with
  | start => exact h
  | step _ next ih => exact next.linked ih

end Intake

end PushDelivery
