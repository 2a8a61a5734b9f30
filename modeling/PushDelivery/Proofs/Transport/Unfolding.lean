import PushDelivery.Proofs.Delivery.Foresight
import PushDelivery.Proofs.Delivery.Bookkeeping
import PushDelivery.Proofs.Service.Stages
import PushDelivery.Proofs.Transport.Linked

/-!
# The Consumer in Calm Surroundings

`Intake.Step` lets a delivery be answered anything. Here every request is answered by the station as
it stands, and changes the station as it does: the store counts, forgets and sweeps, the breaker
admits and settles, the gateway takes its turns. All deliveries share it, and their steps come in
any order as before, as do the messages.

The surroundings are calm if the service does not shut down, the store is there, the circuit is
closed, the templates are fixed, and the gateway answers every request with the outcomes that it has
for each device once and for all, sooner or later. They stay so under every request that a delivery
makes, since none of its calls fails.

## Main definitions

* `Footing`: what the answers to a delivery depend on, beside the time.
* `Footing.Calm`: surroundings that are calm.
* `Intake.Proceeds`, `Intake.Unfolds`: the steps of an intake whose station answers all requests.

## Main results

* `Scene.footing_perform`: what requests of a delivery do to the surroundings.
* `Footing.Calm.perform`, `Footing.Calm.foreseen`: calm surroundings stay calm and answer as
  foreseen.
* `Intake.Unfolds.comes`: these are some of the steps that an intake can make.
-/

namespace PushDelivery

open Run (Exchange)
open Delivery (Foresight Foreseen Request)

/-! ### Answers -/

/-- The answer to which a response comes if no wait is cut short. -/
def Response.answer? {α : Type} : Response α → Option α
  | .now answer | .later _ answer => some answer
  | .pausing _ answer => some (answer .elapsed)
  | .crash | .crashLater _ => none

/-- It is one of those that the response allows. -/
theorem Response.gives_of_answer? {α : Type} {response : Response α} {answer : α}
    (h : response.answer? = some answer) : response.Gives answer := by
  cases response with
  | now | later => exact (Option.some.inj h).symm
  | pausing => exact ⟨.elapsed, (Option.some.inj h).symm⟩
  | crash | crashLater => cases h

/-- The station answers an exchange as it stands, and is what the request makes of it. -/
def Station.Replies (s : Station) (e : Exchange Transport.interface) (s' : Station) : Prop :=
  (s.perform e.1).1.answer? = some e.2 ∧ s' = (s.perform e.1).2

/-! ### What answers depend on -/

/-- What the answers to a delivery depend on, beside the time. -/
structure Footing where
  cancelled : Bool
  store : Store
  breaker : Breaker
  templates : String → Except TemplateError Template
  gateway : Nat → Turn

/-- The footing of a scene. -/
def Scene.footing (s : Scene) : Footing :=
  ⟨s.cancelled, s.store, s.breaker, s.templates, s.gateway⟩

/-- Requests of a delivery change store and breaker, each by its own operations. -/
theorem Scene.footing_perform (s : Scene) (r : Request) :
    (s.perform r).2.footing = match r with
      | .guard r => { s.footing with store := (s.store.perform s.now r).2 }
      | .permit => { s.footing with breaker := (s.breaker.permit s.breakerConfig s.now).2 }
      | .settle success =>
        { s.footing with breaker := s.breaker.settle s.breakerConfig success s.now }
      | _ => s.footing := by
  cases r with
  | guard r => cases r <;> rfl
  | permit =>
      rw [perform, permit]
      dsimp only
      split <;> rfl
  | now | template | settle | send | sendMany | pause | publish | note => rfl

/-- A key that has expired stays so under a request that does not change it. -/
theorem Scene.expiresBy_perform {s : Scene} {r : Request} {key : String} {till : Instant}
    (h : s.store.ExpiresBy key till) (spares : r.Spares key) :
    (s.perform r).2.store.ExpiresBy key till := by
  have store := congrArg Footing.store (s.footing_perform r)
  change (s.perform r).2.store = _ at store
  rw [store]
  cases r with
  | guard r =>
      refine h.perform s.now (fun window heq => ?_) fun value ttl heq => ?_
      · exact absurd (congrArg Request.guard heq) (spares.1 window)
      · exact absurd (congrArg Request.guard heq) (spares.2 value ttl)
  | _ => exact h

/-- Requests beside those of a delivery change nothing that a delivery sees. -/
theorem Station.footing_perform (s : Station) {r : Transport.Request}
    (other : ∀ request, r ≠ .delivery request) : (s.perform r).2.footing = s.footing := by
  cases r with
  | delivery r => exact absurd rfl (other r)
  | channel => rfl
  | publishOver channel queue body =>
      rw [perform, publishOver]
      dsimp only
      split <;> rfl
  | acknowledge handout =>
      rw [perform, settleAt]
      dsimp only
      split <;> rfl
  | refuse handout =>
      rw [perform, settleAt]
      dsimp only
      split <;> rfl
  | note event => cases event <;> rfl

/-- Nor does a connection. -/
theorem Station.footing_connect (s : Station) : s.connect.2.footing = s.footing := by
  rw [connect, openChannel]
  generalize s.broker.connect s.topology = connected
  obtain ⟨result, b⟩ := connected
  cases result <;> rfl

namespace Consumer

/-- Nor does what the consumer takes from its stream. -/
theorem footing_take (s : Station) (stream : Stream) :
    (take s stream).2.1.footing = s.footing := by
  rw [take]
  generalize Stream.poll s.broker stream = polled
  obtain ⟨outcome, broker, stream'⟩ := polled
  cases outcome with
  | handed h =>
      dsimp only
      split <;> rfl
  | ended | moved | sleeps => rfl

/-- Nor does a step of the consumer. -/
theorem Moves.footing {s s' : Station} {inWork : Nat} {c c' : Consumer} {taken : Option Handout}
    (h : Moves s inWork c c' s' taken) : s'.footing = s.footing := by
  cases h with
  | reserve | listen => rfl
  | take => exact footing_take s _
  | step may =>
      cases c with
      | seeking heard =>
          rw [Consumer.step]
          split
          · rfl
          · split <;> rfl
      | subscribing channel =>
          rw [Consumer.step, Station.consume]
          by_cases faulty : 0 < s.faults.consume
          · rw [if_pos faulty]
          · rw [if_neg faulty]
            cases s.broker.consume channel s.topology.pushQueue <;> rfl
      | taking stream =>
          rw [Consumer.step]
          split
          · rfl
          · exact footing_take s stream
      | losing channel =>
          rw [Consumer.step]
          split <;> rfl
      | reporting =>
          rw [Consumer.step, Station.announceLoss]
          split <;> rfl
      | waiting | making | draining | stopped => rfl

end Consumer

/-! ### The store -/

namespace Store

variable {s : Store} {key : String} {now till : Instant}

/-- A count at a key that has expired starts anew, if it is answered. -/
theorem increment_of_expiresBy (h : s.ExpiresBy key till) (hnow : till ≤ now)
    (online : s.offline = false) {window : Duration} {answer : Except GuardError Nat}
    (given : (s.increment key window now).1 = some answer) : answer = .ok 1 := by
  have dead : (Store.entry? (s.recordWrite now) key).filter (·.isLive now) = none := by
    refine Option.filter_eq_none_iff.mpr fun e he => ?_
    have expired := h.recordWrite now e (mem_entries he)
    exact Bool.eq_false_iff.mp (decide_eq_false (Nat.not_lt_of_le (Nat.le_trans expired hnow)))
  rw [increment, if_neg (by simp [online])] at given
  dsimp only at given
  rw [counterEntry?_of_dead dead] at given
  cases hexpiry : now.after? window with
  | none =>
      rw [hexpiry] at given
      cases given
  | some expiry =>
      rw [hexpiry] at given
      exact (Option.some.inj given).symm

/-- A write to a store that is online is accepted, if it is answered. -/
theorem write_of_online (online : s.offline = false) {value : String} {ttl : Duration}
    {answer : Except GuardError Unit} (given : (s.write key value ttl now).1 = some answer) :
    answer = .ok () := by
  rw [write, if_neg (by simp [online])] at given
  dsimp only at given
  split at given
  · cases given
  · exact (Option.some.inj given).symm

end Store

/-! ### Calm surroundings -/

namespace Breaker

variable {c : Config} {b : Breaker}

/-- A closed circuit admits every call and stays closed. -/
theorem permit_of_closed (closed : b.circuit = .closed) (now : Instant) :
    (b.permit c now).1 = true ∧ (b.permit c now).2.circuit = .closed := by
  unfold permit
  rw [closed]
  dsimp only
  split
  · exact ⟨rfl, closed⟩
  · exact ⟨rfl, closed⟩

/-- A closed circuit stays closed when a call succeeds. -/
theorem settle_of_closed (closed : b.circuit = .closed) (now : Instant) :
    (b.settle c true now).circuit = .closed := by
  change (b.succeed c now).circuit = .closed
  unfold succeed
  rw [if_neg]
  · exact closed
  · rintro ⟨half, -⟩
    cases closed.symm.trans half

end Breaker

namespace Footing

/-- The surroundings are calm: no shutdown, a store that is there, a closed circuit, fixed
templates, and a gateway whose turns answer every request with one outcome for each device, always
the same but for its date. Turns may take their time. -/
structure Calm (v : Foresight) (p : Footing) : Prop where
  running : p.cancelled = false
  online : p.store.offline = false
  closed : p.breaker.circuit = .closed
  templates : p.templates = v.template
  answers : ∀ n tokens now, ∃ os, (p.gateway n).answer tokens now = some (.ok os) ∧
    os.map Outcome.undated = tokens.map fun token => (v.outcome token).undated

variable {v : Foresight} {s : Scene}

/-- **Calm surroundings stay calm**, whatever a delivery asks for, unless a call of it failed. -/
theorem Calm.perform (h : s.footing.Calm v) {r : Request} (noFailure : r ≠ .settle false) :
    (s.perform r).2.footing.Calm v := by
  rw [Scene.footing_perform]
  cases r with
  | guard r => exact { h with online := (s.store.offline_perform s.now r).trans h.online }
  | permit => exact { h with closed := (Breaker.permit_of_closed h.closed s.now).2 }
  | settle success =>
      cases success with
      | false => exact absurd rfl noFailure
      | true => exact { h with closed := Breaker.settle_of_closed h.closed s.now }
  | now | template | send | sendMany | pause | publish | note => exact h

/-- A reply of the gateway is about the devices of the request, as foreseen. -/
theorem Calm.push (h : s.footing.Calm v) {α : Type} {single : Bool} {tokens : List String}
    {content : Content} {read : Except GatewayError (List Outcome) → Option α} {answer : α}
    (given : (s.push single tokens content read).1.answer? = some answer) :
    ∃ os, read (.ok os) = some answer ∧
      os.map Outcome.undated = tokens.map fun token => (v.outcome token).undated := by
  obtain ⟨os, turn, same⟩ := h.answers s.calls.length tokens
    (.ofInstant (s.now + (s.gateway s.calls.length).delay))
  refine ⟨os, ?_, same⟩
  change (s.gateway s.calls.length).answer tokens _ = some (.ok os) at turn
  unfold Scene.push at given
  dsimp only at given
  rw [turn, Option.bind_some] at given
  cases hread : read (.ok os) with
  | none =>
      rw [hread] at given
      dsimp only at given
      split at given
      · cases given
      · cases given
  | some a =>
      rw [hread] at given
      dsimp only at given
      split at given
      · exact given
      · exact given

/-- **Calm surroundings answer as foreseen**, if the key of a count or a lookup has expired. -/
theorem Calm.foreseen (h : s.footing.Calm v) {r : Request} {answer : r.Answer}
    (given : (s.perform r).1.answer? = some answer)
    (expired : ∀ key, r.key? = some key → s.store.ExpiresBy key 0) : Foreseen v ⟨r, answer⟩ := by
  cases r with
  | guard r =>
      have served : (s.store.perform s.now r).1 = some answer := by
        change (Scene.guard s r).1.answer? = some answer at given
        unfold Scene.guard at given
        dsimp only at given
        generalize (s.store.perform s.now r).1 = served at given ⊢
        cases served with
        | none => cases given
        | some => exact given
      cases r with
      | increment key window =>
          exact Store.increment_of_expiresBy (expired key rfl) (Nat.zero_le _) h.online served
      | lookup key =>
          have found := Store.lookup_of_expiresBy (expired key rfl) (Nat.zero_le s.now) h.online
          exact (Option.some.inj served).symm.trans found
      | write key value ttl => exact Store.write_of_online h.online served
      | letPass operation => trivial
  | template code => exact (Option.some.inj given).symm.trans (congrFun h.templates code)
  | permit =>
      have admitted := (Breaker.permit_of_closed (c := s.breakerConfig) h.closed s.now).1
      exact (Option.some.inj given).symm.trans admitted
  | send token content =>
      obtain ⟨os, hread, same⟩ := h.push given
      cases os with
      | nil => cases hread
      | cons o rest => exact ⟨o, (Option.some.inj hread).symm, (List.cons.inj same).1⟩
  | sendMany tokens content =>
      obtain ⟨os, hread, same⟩ := h.push given
      exact ⟨os, (Option.some.inj hread).symm, same⟩
  | pause duration =>
      have running : ¬s.cancelled = true := Bool.eq_false_iff.mp h.running
      change (s.pause duration).answer? = some answer at given
      unfold Scene.pause at given
      dsimp only at given
      rw [if_neg running] at given
      split at given
      · exact (Option.some.inj given).symm
      · exact (Option.some.inj given).symm
  | now | settle | publish | note => trivial

end Footing

/-! ### Steps whose requests are answered by the station -/

/-- What can happen outside that leaves calm surroundings: a message comes, time passes, the store
is swept, and everything else that no delivery sees may change. -/
structure Station.Undisturbed (s : Station) (new : List Body) (s' : Station) : Prop
    extends s.Receives new s' where
  footing : s'.footing = s.footing ∨
    ∃ now, s'.footing = { s.footing with store := s.store.sweep now }

namespace Intake

variable {handler : Transport.Handler} {w w' : Intake} {new arrived : List Body}

/-- One step, with all requests answered by the station: a step in which no message in work makes a
request, or a request of one of them with the answer of the station. -/
inductive Proceeds (handler : Transport.Handler) : Intake → List Body → Intake → Prop
  | aside {w w' : Intake} {new : List Body} (step : Step Station.Undisturbed handler w new w')
      (silent : w'.works.flatMap (·.trace) = w.works.flatMap (·.trace)) :
      Proceeds handler w new w'
  | request {w : Intake} {before after : List Work} {k : Work} {r : Transport.Request}
      {next : r.Answer → Run Transport.interface Unit} {answer : r.Answer} {s : Station}
      (works : w.works = before ++ k :: after) (asks : k.left = .ask r next)
      (replies : w.station.Replies ⟨r, answer⟩ s) :
      Proceeds handler w (w.station.gains w.station.topology.pushQueue r)
        { w with station := s, works := before ++ k.exchange ⟨r, answer⟩ (next answer) :: after }

/-- Such steps lead from one intake to another, and put some messages into the push queue, in
order. -/
inductive Unfolds (handler : Transport.Handler) (start : Intake) : List Body → Intake → Prop
  | start : Unfolds handler start [] start
  | step {arrived new : List Body} {w w' : Intake} (before : Unfolds handler start arrived w)
      (next : Proceeds handler w new w') : Unfolds handler start (arrived ++ new) w'

/-- A step stays one if more can happen outside. -/
theorem Step.mono {outside outside' : Station → List Body → Station → Prop}
    (h : Step outside handler w new w')
    (more : ∀ s new s', outside s new s' → outside' s new s') : Step outside' handler w new w' := by
  cases h with
  | outside happens => exact .outside (more _ _ _ happens)
  | launch idle => exact .launch idle
  | consumer stands moves => exact .consumer stands moves
  | request works asks answers => exact .request works asks answers
  | finish works done => exact .finish works done

/-- These are some of the steps that an intake can make. -/
theorem Proceeds.step (h : Proceeds handler w new w') :
    Step Station.Undisturbed handler w new w' := by
  cases h with
  | aside step => exact step
  | request works asks replies =>
      obtain ⟨given, rfl⟩ := replies
      exact .request works asks (Station.answers_of_gives (Response.gives_of_answer? given))

/-- So are sequences of them. -/
theorem Unfolds.comes {start : Intake} (h : Unfolds handler start arrived w) :
    Comes Station.Receives handler start arrived w := by
  induction h with
  | start => exact .start
  | step _ next ih => exact ih.step (next.step.mono fun _ _ _ happens => happens.toReceives)

end Intake

end PushDelivery
