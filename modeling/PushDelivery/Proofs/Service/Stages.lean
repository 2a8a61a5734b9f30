import PushDelivery.Proofs.Transport.Intake
import PushDelivery.Service.Task

/-!
# Deliveries Make Steps

A delivery in work goes on until it has to wait, and makes many requests on the way. This module
shows that this is a sequence of steps of the intake, as long as the delivery does not crash, and
what all tasks leave alone meanwhile.

## Main definitions

* `Station.Spares`: what tasks leave alone.
* `Stage.StandsFor`: a delivery in work and the message that it is about.

## Main results

* `Consumer.MayStep.of_spares`: a consumer that may go on still may after the turn of another task.
* `Stage.advance_comes`, `Stage.step_comes`: a delivery that goes on makes steps.
-/

namespace PushDelivery

open Intake (Comes Step)

/-! ### Sequences of steps -/

namespace Intake

variable {outside : Station → List Body → Station → Prop} {handler : Transport.Handler}

/-- Two sequences of steps are one. -/
theorem Comes.trans {w w' w'' : Intake} {first more : List Body}
    (h : Comes outside handler w first w') (h' : Comes outside handler w' more w'') :
    Comes outside handler w (first ++ more) w'' := by
  induction h' with
  | start => rwa [List.append_nil]
  | step _ next ih =>
      rw [← List.append_assoc]
      exact ih.step next

/-- One step is a sequence. -/
theorem Step.comes {w w' : Intake} {new : List Body} (h : Step outside handler w new w') :
    Comes outside handler w new w' :=
  Comes.start.step h

/-- No more deliveries are in work when one that was not over has changed. -/
theorem inWork_replace {w w' : Intake} {before after : List Work} {k k' : Work}
    (works : w.works = before ++ k :: after) (live : k.ended = false)
    (works' : w'.works = before ++ k' :: after) : w'.inWork ≤ w.inWork := by
  rw [inWork, inWork, works, works', List.countP_append, List.countP_append, List.countP_cons,
    List.countP_cons, live]
  refine Nat.add_le_add_left (Nat.add_le_add_left ?_ _) _
  split <;> simp

end Intake

/-! ### What tasks leave alone -/

/-- What stays as it is in a station: the topology, and that the service shuts down once it does. -/
structure Station.Spares (s s' : Station) : Prop where
  topology : s'.topology = s.topology
  cancelled : s.cancelled = true → s'.cancelled = true

theorem Station.Spares.trans {s s' s'' : Station} (h : s.Spares s') (h' : s'.Spares s'') :
    s.Spares s'' :=
  ⟨h'.topology.trans h.topology, h'.cancelled ∘ h.cancelled⟩

/-- No request of a delivery shuts the service down or takes that back. -/
theorem Scene.cancelled_perform (s : Scene) (r : Delivery.Request) :
    (s.perform r).2.cancelled = s.cancelled := by
  cases r with
  | guard r => cases r <;> rfl
  | permit =>
      rw [perform, permit]
      dsimp only
      split <;> rfl
  | now | template | settle | send | sendMany | pause | publish | note => rfl

/-- Requests of a message in work leave it. -/
theorem Station.spares_perform (s : Station) (r : Transport.Request) :
    s.Spares (s.perform r).2 := by
  cases r with
  | delivery r => exact ⟨rfl, (s.toScene.cancelled_perform r).trans⟩
  | channel => exact ⟨rfl, id⟩
  | publishOver channel queue body =>
      rw [perform, publishOver]
      dsimp only
      split <;> exact ⟨rfl, id⟩
  | acknowledge handout =>
      rw [perform, settleAt]
      dsimp only
      split <;> exact ⟨rfl, id⟩
  | refuse handout =>
      rw [perform, settleAt]
      dsimp only
      split <;> exact ⟨rfl, id⟩
  | note event => cases event <;> exact ⟨rfl, id⟩

/-- Connecting leaves it. -/
theorem Station.spares_connect (s : Station) : s.Spares s.connect.2 := by
  rw [connect, openChannel]
  generalize s.broker.connect s.topology = connected
  obtain ⟨result, b⟩ := connected
  cases result with
  | error e => exact ⟨rfl, id⟩
  | ok channel => exact ⟨rfl, id⟩

/-- Steps of a supervisor leave it. -/
theorem Supervisor.spares (v : Supervisor) (s : Station) : s.Spares (v.step s).2 :=
  ⟨(v.undergoes s).1.topology, (v.undergoes s).2.trans⟩

/-- Steps of a consumer leave it. -/
theorem Consumer.spares (c : Consumer) (s : Station) : s.Spares (c.step s).2.1 := by
  have same : s.Spares s := ⟨rfl, id⟩
  have takes : ∀ stream, s.Spares (take s stream).2.1 := fun stream => by
    rw [take]
    generalize Stream.poll s.broker stream = polled
    obtain ⟨outcome, broker, stream'⟩ := polled
    cases outcome with
    | handed h =>
        dsimp only
        split <;> exact ⟨rfl, id⟩
    | ended | moved | sleeps => exact ⟨rfl, id⟩
  cases c with
  | seeking heard =>
      rw [Consumer.step]
      split
      · exact same
      · split <;> exact same
  | subscribing channel =>
      rw [Consumer.step, Station.consume]
      by_cases faulty : 0 < s.faults.consume
      · rw [if_pos faulty]
        exact ⟨rfl, id⟩
      · rw [if_neg faulty]
        cases s.broker.consume channel s.topology.pushQueue <;> exact same
  | taking stream =>
      rw [Consumer.step]
      split
      · exact same
      · exact takes stream
  | losing channel =>
      rw [Consumer.step]
      split <;> exact ⟨rfl, id⟩
  | reporting =>
      rw [Consumer.step, Station.announceLoss]
      split <;> exact ⟨rfl, id⟩
  | waiting | making | draining | stopped => exact same

/-- A consumer that may go on may do so when nothing else has begun. -/
theorem Consumer.MayStep.of_spares {c : Consumer} {s s' : Station} {inWork inWork' : Nat}
    (h : c.MayStep s inWork) (spares : s.Spares s') (fewer : inWork' ≤ inWork) :
    c.MayStep s' inWork' := by
  cases c with
  | making stream =>
      rcases h with cancelled | roomy
      · exact .inl (spares.cancelled cancelled)
      · refine .inr ?_
        rw [spares.topology]
        exact Nat.lt_of_le_of_lt fewer roomy
  | draining => exact Nat.le_zero.mp (Nat.le_trans fewer (Nat.le_of_eq h))
  | stopped => exact h.elim
  | seeking | waiting | subscribing | taking | losing | reporting => trivial

/-! ### Deliveries in work -/

/-- A station answers an exchange with what it gives. -/
theorem Station.answers_of_gives {s : Station} {r : Transport.Request} {answer : r.Answer}
    (h : (s.perform r).1.Gives answer) : s.Answers ⟨r, answer⟩ (s.perform r).2 := by
  cases r with
  | delivery r => exact ⟨_, rfl⟩
  | channel | publishOver | acknowledge | refuse | note =>
      have given := h
      obtain rfl := given
      rfl

/-- A station that has not answered yet was asked by a delivery, and has changed nothing but the
surroundings of deliveries. -/
theorem Station.delivery_of_pausing {s s' : Station} {r : Transport.Request} {due : Instant}
    {answer : Pause → r.Answer} (h : s.perform r = (.pausing due answer, s')) :
    (∃ request, r = .delivery request) ∧ ∃ scene, s' = { s with toScene := scene } := by
  cases r with
  | delivery request => exact ⟨⟨request, rfl⟩, _, (congrArg Prod.snd h).symm⟩
  | channel | publishOver | acknowledge | refuse | note => cases congrArg Prod.fst h

namespace Stage

variable {handler : Transport.Handler}

/-- The delivery of a message stands where the settling of the message does: it can go on, or it has
been answered and waits, or its last request is answered by a pause. -/
def StandsFor (k : Work) : Stage → Prop
  | .ready run | .expecting _ (some run) => run = k.left
  | .expecting _ none => False
  | .pausing _ next => ∃ (r : Delivery.Request)
      (rest : r.Answer → Run Transport.interface Unit) (answer : Pause → r.Answer),
      k.left = .ask (.delivery r) rest ∧ next = fun pause => rest (answer pause)

/-- A delivery crashes when it goes on. -/
def CrashesIn : Run Transport.interface Unit → Station → Prop
  | .done _, _ => False
  | .ask r next, s =>
    match s.perform r with
    | (.now answer, s) => CrashesIn (next answer) s
    | (.crash, _) | (.crashLater _, _) => True
    | (.later _ _, _) | (.pausing _ _, _) => False

/-- What comes of a delivery that goes on, one of the messages in work: steps lead to where it
stands now, and nothing but this message and the station has changed. -/
def Advances (handler : Transport.Handler) (w : Intake) (before after : List Work)
    (turned : Option Stage × Station) : Prop :=
  ∃ new k w', Comes Station.Undergoes handler w new w' ∧ w'.station = turned.2 ∧
    w'.consumer = w.consumer ∧ w'.works = before ++ k :: after ∧ w.station.Spares w'.station ∧
    ((turned.1 = none ∧ k.ended = true) ∨
      ∃ stage, turned.1 = some stage ∧ k.ended = false ∧ stage.StandsFor k)

/-- It may have come some way before. -/
theorem Advances.of_comes {w w' : Intake} {before after : List Work} {new : List Body}
    {turned : Option Stage × Station} (h : Advances handler w' before after turned)
    (comes : Comes Station.Undergoes handler w new w') (consumer : w'.consumer = w.consumer)
    (spares : w.station.Spares w'.station) : Advances handler w before after turned := by
  obtain ⟨more, k, w'', comes', station, consumer', works, spares', stands⟩ := h
  exact ⟨_, k, w'', comes.trans comes', station, consumer'.trans consumer, works,
    spares.trans spares', stands⟩

/-- A delivery that goes on makes steps, unless it crashes. -/
theorem advance_comes {run : Run Transport.interface Unit} {w : Intake} {before after : List Work}
    {k : Work} (works : w.works = before ++ k :: after) (left : k.left = run)
    (live : k.ended = false) (sound : ¬ CrashesIn run w.station) :
    Advances handler w before after (advance run w.station) := by
  induction run generalizing w k with
  | done u =>
      have ends : Step Station.Undergoes handler w [] _ := .finish works left
      exact ⟨[], _, _, ends.comes, rfl, rfl, rfl, ⟨rfl, id⟩, .inl ⟨rfl, rfl⟩⟩
  | ask r next ih =>
      have gives : ∀ answer : r.Answer, (w.station.perform r).1.Gives answer →
          Step Station.Undergoes handler w _ _ := fun answer h =>
        .request works left (Station.answers_of_gives h)
      have spares := w.station.spares_perform r
      rw [CrashesIn] at sound
      rw [advance]
      generalize hperform : w.station.perform r = performed at gives spares sound ⊢
      obtain ⟨response, s⟩ := performed
      cases response with
      | now answer =>
          have further : Advances handler { w with
              station := s, works := before ++ k.exchange ⟨r, answer⟩ (next answer) :: after }
              before after (advance (next answer) s) :=
            ih answer rfl rfl live sound
          exact further.of_comes (gives answer rfl).comes rfl spares
      | later due answer =>
          exact ⟨_, _, _, (gives answer rfl).comes, rfl, rfl, rfl, spares,
            .inr ⟨_, rfl, live, rfl⟩⟩
      | pausing due answer =>
          obtain ⟨⟨request, rfl⟩, scene, rfl⟩ := Station.delivery_of_pausing hperform
          have changes : Step Station.Undergoes handler w []
              { w with station := { w.station with toScene := scene } } :=
            .outside ⟨rfl, rfl, .nothing w.station.broker⟩
          exact ⟨[], k, _, changes.comes, rfl, rfl, works, spares,
            .inr ⟨_, rfl, live, request, next, answer, left, rfl⟩⟩
      | crash | crashLater => exact absurd trivial sound

/-- A delivery crashes in its turn. -/
def Crashes (s : Station) : Stage → Prop
  | .ready run | .expecting _ (some run) => CrashesIn run s
  | .expecting _ none => True
  | .pausing _ next => CrashesIn (next (if s.cancelled then .cancelled else .elapsed)) s

/-- A turn of a delivery makes steps, unless it crashes. -/
theorem step_comes {stage : Stage} {w : Intake} {before after : List Work} {k : Work}
    (works : w.works = before ++ k :: after) (stands : stage.StandsFor k) (live : k.ended = false)
    (sound : ¬ stage.Crashes w.station) :
    Advances handler w before after (stage.step w.station) := by
  cases stage with
  | ready run => exact advance_comes works stands.symm live sound
  | expecting due next =>
      cases next with
      | none => exact stands.elim
      | some run => exact advance_comes works stands.symm live sound
  | pausing due next =>
      obtain ⟨r, rest, answer, left, rfl⟩ := stands
      -- The request that made the pause is answered now.
      let given := answer (if w.station.cancelled then .cancelled else .elapsed)
      have answered : Step Station.Undergoes handler w _
          { w with works := before ++ k.exchange ⟨.delivery r, given⟩ (rest given) :: after } :=
        .request works left ⟨w.station.toScene, rfl⟩
      have further : Advances handler
          { w with works := before ++ k.exchange ⟨.delivery r, given⟩ (rest given) :: after }
          before after (advance (rest given) w.station) :=
        advance_comes rfl rfl live sound
      exact further.of_comes answered.comes rfl ⟨rfl, id⟩

end Stage

end PushDelivery
