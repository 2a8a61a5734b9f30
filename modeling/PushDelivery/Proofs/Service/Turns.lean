import PushDelivery.Proofs.Service.Stages
import PushDelivery.Proofs.Transport.Conservation
import PushDelivery.Service.Schedule

/-!
# Turns of the Service

The service gives its tasks their turns in one particular order. This module shows that what the
service does is one of the interleavings that `Intake` allows: every turn is a sequence of steps, as
long as no delivery crashes in it. So all that steps keep holds of the running service.

## Main definitions

* `Service.Shows`: a service with one consumer, seen as an intake.
* `Service.GoesOn`: whatever a service does, and whatever happens to it.

## Main results

* `Service.Shows.tick`: a turn of the service makes steps.
* `Service.GoesOn.comes`: so does all that it does and all that happens to it.
* `Service.GoesOn.deliveries_le`, `Service.GoesOn.drained`: the limit of deliveries in work, and
  the end of all of them before the consumer stops.
-/

namespace PushDelivery

open Intake (Comes Kept Step)

/-! ### Lines of tasks -/

/-- A task that is neither a consumer nor a delivery. -/
def Task.isAside : Task → Bool
  | .supervisor _ | .connection => true
  | .consumer _ | .delivery .. => false

/-- The turn of a task that is neither a consumer nor a delivery is an event outside. -/
theorem Task.turn_aside {task : Task} (h : task.isAside = true) (s : Station) :
    s.Undergoes [] (task.step s).station ∧ s.Spares (task.step s).station ∧
      (task.step s).taken = none ∧ ∀ task', (task.step s).task = some task' →
        task'.isAside = true := by
  cases task with
  | supervisor v =>
      refine ⟨(v.undergoes s).1, v.spares s, rfl, fun task' stays => ?_⟩
      obtain rfl := Option.some.inj stays
      rfl
  | connection =>
      refine ⟨s.undergoes_connect, s.spares_connect, rfl, fun task' stays => ?_⟩
      cases stays
  | consumer | delivery => cases h

/-- The tasks beside a consumer: the deliveries of some messages in work, and tasks that are neither
consumers nor deliveries. -/
inductive Beside (number : Nat) : List (Nat × Task) → List Work → Prop
  | nil : Beside number [] []
  | aside {n : Nat} {task : Task} {line : List (Nat × Task)} {live : List Work}
      (isAside : task.isAside = true) (more : Beside number line live) :
      Beside number ((n, task) :: line) live
  | delivery {n : Nat} {stage : Stage} {k : Work} {line : List (Nat × Task)} {live : List Work}
      (other : n ≠ number) (stands : stage.StandsFor k) (more : Beside number line live) :
      Beside number ((n, .delivery number stage) :: line) (k :: live)

namespace Beside

variable {number : Nat} {line line' : List (Nat × Task)} {live : List Work}

/-- The order of the tasks does not matter. -/
theorem perm (h : Beside number line live) (same : line.Perm line') :
    ∃ live', live'.Perm live ∧ Beside number line' live' := by
  induction same generalizing live with
  | nil => exact ⟨live, .refl _, h⟩
  | cons t _ ih =>
      cases h with
      | aside isAside more =>
          obtain ⟨live', hlive, more'⟩ := ih more
          exact ⟨live', hlive, .aside isAside more'⟩
      | delivery other stands more =>
          obtain ⟨live', hlive, more'⟩ := ih more
          exact ⟨_, hlive.cons _, .delivery other stands more'⟩
  | swap t u line =>
      cases h with
      | aside hu more =>
          cases more with
          | aside ht more => exact ⟨_, .refl _, .aside ht (.aside hu more)⟩
          | delivery other stands more =>
              exact ⟨_, .refl _, .delivery other stands (.aside hu more)⟩
      | delivery other stands more =>
          cases more with
          | aside ht more => exact ⟨_, .refl _, .aside ht (.delivery other stands more)⟩
          | delivery other' stands' more =>
              exact ⟨_, .swap _ _ _, .delivery other' stands' (.delivery other stands more)⟩
  | trans _ _ ih₁ ih₂ =>
      obtain ⟨live₁, hlive₁, h₁⟩ := ih₁ h
      obtain ⟨live₂, hlive₂, h₂⟩ := ih₂ h₁
      exact ⟨live₂, hlive₂.trans hlive₁, h₂⟩

/-- There is no consumer among these tasks. -/
theorem not_mem_consumer (h : Beside number line live) {n : Nat} {c : Consumer} :
    (n, .consumer c) ∉ line := by
  induction h with
  | nil => exact List.not_mem_nil
  | aside isAside _ ih =>
      rintro (_ | ⟨_, hmem⟩)
      · cases isAside
      · exact ih hmem
  | delivery _ _ _ ih =>
      rintro (_ | ⟨_, hmem⟩)
      exact ih hmem

/-- The consumer has as many deliveries as there are messages. -/
theorem countP_others (h : Beside number line live) :
    (line.filter (·.1 ≠ number)).countP (·.2.isDeliveryOf number) = live.length := by
  induction h with
  | nil => rfl
  | @aside n task line live isAside _ ih =>
      have notDelivery : task.isDeliveryOf number = false := by
        cases task with
        | supervisor | connection => rfl
        | consumer | delivery => cases isAside
      by_cases hn : n = number
      · rw [List.filter_cons_of_neg (by simp [hn])]
        exact ih
      · rw [List.filter_cons_of_pos (by simp [hn]), List.countP_cons_of_neg (by simp [notDelivery])]
        exact ih
  | @delivery n stage k line live other _ _ ih =>
      rw [List.filter_cons_of_pos (by simp [other]),
        List.countP_cons_of_pos (by simp [Task.isDeliveryOf]), ih]
      rfl

end Beside

namespace Service

/-- All tasks, those that are ready first. -/
def line (s : Service) : List (Nat × Task) := s.ready ++ s.waiting

/-- Whether tasks are ready or not, there are as many of them. -/
theorem line_rouse (s : Service) : s.rouse.line.Perm s.line := by
  rw [line, line, rouse, List.append_assoc]
  exact (List.filter_append_perm s.isReady s.waiting).append_left s.ready

/-- A task that has become ready is ready. -/
theorem mem_ready_rouse {s : Service} {t : Nat × Task} (h : t ∈ s.rouse.ready) :
    t ∈ s.ready ∨ s.isReady t = true :=
  (List.mem_append.mp h).imp id fun h => (List.mem_filter.mp h).2

/-- Begins a delivery of a message, if one was taken. -/
def begun (s : Service) (number : Nat) : Option Handout → Service
  | some h => s.start (s.deliveryOf number h)
  | none => s

/-- Puts a task back in line, unless it is over. -/
def putBack (s : Service) (number : Nat) : Option Task → Service
  | some task =>
    if s.isReady (number, task) then { s with ready := (number, task) :: s.ready }
    else { s with waiting := s.waiting ++ [(number, task)] }
  | none => s

/-- A turn ends with the beginning of a delivery and the return of the task to the line. -/
theorem tick_eq {s : Service} {number : Nat} {task : Task} {rest : List (Nat × Task)}
    (h : s.ready = (number, task) :: rest) :
    s.tick = some (((({ s with
      station := (task.step s.station).station
      ready := rest
      connected := (task.step s.station).connected.or s.connected } : Service).begun number
        (task.step s.station).taken).putBack number (task.step s.station).task).rouse) := by
  rw [tick, h]
  dsimp only
  cases (task.step s.station).taken <;> cases (task.step s.station).task <;> rfl

/-- A delivery that begins joins the line. -/
theorem line_begun (s : Service) (number : Nat) (taken : Option Handout) :
    (s.begun number taken).line.Perm
      (taken.toList.map (fun h => (s.tasks, s.deliveryOf number h)) ++ s.line) := by
  cases taken with
  | none => exact .refl _
  | some h =>
      rw [begun, start, line, line, List.append_assoc]
      exact List.perm_middle

/-- A task that returns joins the line. -/
theorem line_putBack (s : Service) (number : Nat) (task : Option Task) :
    (s.putBack number task).line.Perm (task.toList.map (fun task => (number, task)) ++ s.line) := by
  cases task with
  | none => exact .refl _
  | some task =>
      rw [putBack]
      split
      · exact .refl _
      · rw [line, line, ← List.append_assoc]
        exact List.perm_append_comm

/-- A consumer in line before a delivery began was there. -/
theorem mem_ready_begun {s : Service} {number n : Nat} {taken : Option Handout} {c : Consumer}
    (h : (n, .consumer c) ∈ (s.begun number taken).ready) : (n, .consumer c) ∈ s.ready := by
  cases taken with
  | none => exact h
  | some handout =>
      rcases List.mem_append.mp h with h | h
      · exact h
      · cases List.mem_singleton.mp h

/-- A task that has returned to those that are ready is ready. -/
theorem mem_ready_putBack {s : Service} {number : Nat} {task : Option Task} {t : Nat × Task}
    (h : t ∈ (s.putBack number task).ready) :
    t ∈ s.ready ∨ (s.putBack number task).isReady t = true := by
  cases task with
  | none => exact .inl h
  | some task =>
      rw [putBack] at h ⊢
      split at h
      · rename_i ready
        rcases List.mem_cons.mp h with rfl | h
        · -- A task is none of the others, so it does not matter that it is back in line.
          refine .inr ?_
          rw [if_pos ready, isReady, others, List.cons_append, List.filter_cons_of_neg (by simp)]
          exact ready
        · exact .inl h
      · exact .inl h

/-- The end of a turn leaves the station, and no number is given twice. -/
theorem putBack_begun (s : Service) (number : Nat) (taken : Option Handout) (task : Option Task) :
    ((s.begun number taken).putBack number task).station = s.station ∧
      ((s.begun number taken).putBack number task).courier = s.courier ∧
      s.tasks ≤ ((s.begun number taken).putBack number task).tasks := by
  have kept : ∀ s : Service, (s.putBack number task).station = s.station ∧
      (s.putBack number task).courier = s.courier ∧ (s.putBack number task).tasks = s.tasks := by
    intro s
    cases task with
    | none => exact ⟨rfl, rfl, rfl⟩
    | some task =>
        rw [putBack]
        split <;> exact ⟨rfl, rfl, rfl⟩
  obtain ⟨hstation, hcourier, htasks⟩ := kept (s.begun number taken)
  rw [hstation, hcourier, htasks]
  cases taken with
  | none => exact ⟨rfl, rfl, Nat.le_refl _⟩
  | some h => exact ⟨rfl, rfl, Nat.le_succ _⟩

/-! ### Services and intakes -/

/-- A service with one consumer, seen as an intake: beside the consumer there are the deliveries of
the messages whose tasks have not ended, and tasks that are neither. -/
structure Shows (number : Nat) (c : Consumer) (s : Service) (w : Intake) : Prop where
  station : w.station = s.station
  consumer : w.consumer = some c
  counted : number < s.tasks
  line : ∃ line live, s.line.Perm ((number, .consumer c) :: line) ∧ Beside number line live ∧
    live.Perm (w.works.filter (!·.ended))
  /-- The consumer may go on if it stands in line for that. -/
  mayStep : (number, .consumer c) ∈ s.ready → c.MayStep s.station w.inWork

variable {number : Nat} {c : Consumer} {s : Service} {w : Intake}

/-- A service counts the deliveries in work. -/
theorem countP_others_eq {line : List (Nat × Task)} {live : List Work}
    (perm : s.line.Perm ((number, .consumer c) :: line)) (beside : Beside number line live)
    (works : live.Perm (w.works.filter (!·.ended))) :
    (s.others number).countP (·.2.isDeliveryOf number) = w.inWork := by
  have same := (perm.filter (·.1 ≠ number)).countP_eq (·.2.isDeliveryOf number)
  rw [List.filter_cons_of_neg (by simp), beside.countP_others, works.length_eq] at same
  exact same.trans List.countP_eq_length_filter.symm

/-- A delivery that is not over is one of those that are not, wherever it stands. -/
theorem perm_of_alive {k : Work} (alive : k.ended = false) (before after : List Work) :
    ((before ++ k :: after).filter (!·.ended)).Perm (k :: (before ++ after).filter (!·.ended)) := by
  have middle : ((before ++ k :: after).filter (!·.ended)).Perm
      ((k :: (before ++ after)).filter (!·.ended)) := List.perm_middle.filter _
  rwa [List.filter_cons_of_pos (by simp [alive])] at middle

/-- What a service shows after a turn, by the tasks that are in line then. -/
theorem shows_of_turn {m : Nat} {taken : Option Handout} {task : Option Task}
    {line : List (Nat × Task)} {live : List Work} (station : w.station = s.station)
    (consumer : w.consumer = some c) (counted : number < s.tasks)
    (perm : (task.toList.map (fun task => (m, task)) ++
      (taken.toList.map (fun h => (s.tasks, s.deliveryOf m h)) ++ s.line)).Perm
        ((number, .consumer c) :: line))
    (beside : Beside number line live) (works : live.Perm (w.works.filter (!·.ended)))
    (mayStep : (number, .consumer c) ∈ s.ready → c.MayStep s.station w.inWork) :
    Shows number c ((s.begun m taken).putBack m task).rouse w := by
  obtain ⟨hstation, -, htasks⟩ := s.putBack_begun m taken task
  have hline : ((s.begun m taken).putBack m task).line.Perm ((number, .consumer c) :: line) :=
    ((line_putBack _ m task).trans ((line_begun s m taken).append_left _)).trans perm
  have ready : ((s.begun m taken).putBack m task).isReady (number, .consumer c) = true →
      c.MayStep s.station w.inWork := fun h => by
    have isReady : c.isReady ((s.begun m taken).putBack m task).station
      ((((s.begun m taken).putBack m task).others number).countP (·.2.isDeliveryOf number)) =
        true := h
    rw [countP_others_eq hline beside works, hstation] at isReady
    exact Consumer.mayStep_of_isReady isReady
  refine ⟨station.trans hstation.symm, consumer, Nat.lt_of_lt_of_le counted htasks,
    ⟨line, live, (line_rouse _).trans hline, beside, works⟩, fun h => ?_⟩
  rw [show ((s.begun m taken).putBack m task).rouse.station = s.station from hstation]
  rcases mem_ready_rouse h with h | h
  · rcases mem_ready_putBack h with h | h
    · exact mayStep (mem_ready_begun h)
    · exact ready h
  · exact ready h

/-- There is no other consumer. -/
theorem Shows.only {n : Nat} {c' : Consumer} (h : Shows number c s w)
    (among : (n, .consumer c') ∈ s.line) : number = n ∧ c = c' := by
  obtain ⟨line, live, perm, beside, -⟩ := h.line
  rcases List.mem_cons.mp (perm.subset among) with same | among
  · cases same
    exact ⟨rfl, rfl⟩
  · exact absurd among beside.not_mem_consumer

/-- The tasks beside the consumer, one of which has its turn. -/
theorem Shows.parts {m : Nat} {task : Task} {rest : List (Nat × Task)} (h : Shows number c s w)
    (ready : s.ready = (m, task) :: rest) (other : ∀ c, task ≠ .consumer c) :
    ∃ line live, (rest ++ s.waiting).Perm ((number, .consumer c) :: line) ∧
      Beside number ((m, task) :: line) live ∧ live.Perm (w.works.filter (!·.ended)) := by
  obtain ⟨line, live, perm, beside, works⟩ := h.line
  rw [Service.line, ready, List.cons_append] at perm
  have among : (m, task) ∈ line := by
    rcases List.mem_cons.mp (perm.subset List.mem_cons_self) with same | among
    · exact absurd (congrArg Prod.snd same) (other c)
    · exact among
  obtain ⟨before, after, rfl⟩ := List.append_of_mem among
  obtain ⟨live', hlive, beside'⟩ := beside.perm List.perm_middle
  refine ⟨before ++ after, live', ?_, beside', hlive.trans works⟩
  -- The task whose turn it is stands first on both sides.
  have swapped : ((number, Task.consumer c) :: (before ++ (m, task) :: after)).Perm
      ((m, task) :: (number, .consumer c) :: (before ++ after)) :=
    (List.perm_middle.cons _).trans (.swap _ _ _)
  exact (perm.trans swapped).cons_inv

/-- No delivery crashes in the next turn. -/
def SoundTurn (s : Service) : Prop :=
  ∀ m owner stage rest, s.ready = (m, .delivery owner stage) :: rest → ¬ stage.Crashes s.station

/-- The turn of the consumer is a step of it. -/
theorem Shows.turn_consumer {rest : List (Nat × Task)} (h : Shows number c s w)
    (ready : s.ready = (number, .consumer c) :: rest) {s' : Service} (turn : s.tick = some s') :
    ∃ c' w', Step Station.Undergoes s.courier.process w [] w' ∧ Shows number c' s' w' := by
  obtain ⟨station, consumer, ks⟩ := w
  obtain ⟨rfl, rfl, counted, ⟨line, live, perm, beside, works⟩, mayStep⟩ := h
  rw [tick_eq ready] at turn
  obtain rfl := Option.some.inj turn
  have may : c.MayStep s.station _ := mayStep (ready ▸ List.mem_cons_self)
  refine ⟨(c.step s.station).1, _, .consumer rfl (.step may), ?_⟩
  have hline : s.line = (number, .consumer c) :: (rest ++ s.waiting) := by
    rw [Service.line, ready]
    rfl
  rw [hline] at perm
  have hrest : (rest ++ s.waiting).Perm line := perm.cons_inv
  have topology := (c.spares s.station).topology
  change Shows number (c.step s.station).1 ((Service.putBack (Service.begun { s with
    station := (c.step s.station).2.1, ready := rest, connected := s.connected } number
      (c.step s.station).2.2) number (some (.consumer (c.step s.station).1))).rouse) _
  generalize c.step s.station = stepped at topology ⊢
  obtain ⟨c', s', taken⟩ := stepped
  have notReady : ∀ inWork, (number, .consumer c') ∈ rest → c'.MayStep s' inWork := fun _ hmem =>
    absurd (hrest.subset (List.mem_append_left _ hmem)) beside.not_mem_consumer
  cases taken with
  | none =>
      refine shows_of_turn rfl rfl counted (hrest.cons _) beside ?_ (notReady _)
      simpa using works
  | some handout =>
      have stands : (Stage.ready (Transport.settle s'.topology s.courier.process handout)).StandsFor
          (Work.begin s.station.topology s.courier.process handout) := by
        rw [topology]
        rfl
      refine shows_of_turn rfl rfl counted ((hrest.cons _).cons _)
        (beside.delivery (Nat.ne_of_gt counted) stands) ?_ (notReady _)
      have joined := (works.cons (Work.begin s.station.topology s.courier.process handout)).trans
        (List.perm_append_singleton _ _).symm
      rw [Option.toList_some, List.map_singleton, List.filter_append,
        List.filter_cons_of_pos (by simp)]
      exact joined

/-- The turn of a task that is neither a consumer nor a delivery. -/
theorem Shows.turn_aside {m : Nat} {task : Task} {rest : List (Nat × Task)} (h : Shows number c s w)
    (ready : s.ready = (m, task) :: rest) (isAside : task.isAside = true) {s' : Service}
    (turn : s.tick = some s') :
    ∃ w', Step Station.Undergoes s.courier.process w [] w' ∧ Shows number c s' w' := by
  obtain ⟨line, live, perm, beside, works⟩ := h.parts ready fun c hc => by
    subst hc
    cases isAside
  cases beside with
  | delivery => cases isAside
  | aside _ beside =>
      obtain ⟨undergoes, spares, taken, stays⟩ := task.turn_aside isAside s.station
      rw [tick_eq ready, taken] at turn
      obtain rfl := Option.some.inj turn
      rw [← h.station] at undergoes
      refine ⟨_, .outside undergoes, ?_⟩
      have beside' : Beside number
          ((task.step s.station).task.toList.map (fun task => (m, task)) ++ line) live := by
        cases left : (task.step s.station).task with
        | none => exact beside
        | some task' => exact .aside (stays task' left) beside
      have station : (task.step w.station).station = (task.step s.station).station := by
        rw [h.station]
      refine shows_of_turn station h.consumer h.counted ?_ beside' works fun hmem => ?_
      · exact (perm.append_left _).trans List.perm_middle
      · exact (h.mayStep (ready ▸ List.mem_cons_of_mem _ hmem)).of_spares spares (Nat.le_refl _)

/-- The turn of a delivery, if it does not crash. -/
theorem Shows.turn_delivery {m owner : Nat} {stage : Stage} {rest : List (Nat × Task)}
    (h : Shows number c s w) (ready : s.ready = (m, .delivery owner stage) :: rest)
    (sound : ¬ stage.Crashes s.station) {s' : Service} (turn : s.tick = some s') :
    ∃ new w', Comes Station.Undergoes s.courier.process w new w' ∧ Shows number c s' w' := by
  obtain ⟨line, live, perm, beside, works⟩ := h.parts ready nofun
  cases beside with
  | aside isAside => cases isAside
  | @delivery _ _ k _ live other stands beside =>
      have hk : k ∈ w.works ∧ k.ended = false := by
        simpa using List.mem_filter.mp (works.subset List.mem_cons_self)
      obtain ⟨before, after, hworks⟩ := List.append_of_mem hk.1
      rw [hworks] at works
      have works' : live.Perm ((before ++ after).filter (!·.ended)) :=
        (works.trans (perm_of_alive hk.2 before after)).cons_inv
      rw [← h.station] at sound
      have advances : Stage.Advances s.courier.process w before after (stage.step w.station) :=
        Stage.step_comes hworks stands hk.2 sound
      obtain ⟨new, k', w', comes, station, consumer, hworks', spares, left⟩ := advances
      have step : (Task.delivery number stage).step s.station =
          { station := (stage.step s.station).2
            task := (stage.step s.station).1.map (.delivery number) } := rfl
      rw [tick_eq ready, step] at turn
      obtain rfl := Option.some.inj turn
      rw [h.station] at station spares left
      rw [station] at spares
      have mayStep : (number, .consumer c) ∈ rest → c.MayStep (stage.step s.station).2 w'.inWork :=
        fun hmem => (h.mayStep (ready ▸ List.mem_cons_of_mem _ hmem)).of_spares spares
          (Intake.inWork_replace hworks hk.2 hworks')
      refine ⟨new, w', comes, ?_⟩
      rcases left with ⟨gone, ended⟩ | ⟨stage', goesOn, alive, stands'⟩
      · refine shows_of_turn station (consumer.trans h.consumer) h.counted ?_ beside ?_ mayStep
        · rw [gone]
          exact perm
        · rw [hworks', List.filter_append, List.filter_cons_of_neg (by simp [ended]),
            ← List.filter_append]
          exact works'
      · refine shows_of_turn station (consumer.trans h.consumer) h.counted ?_
          (.delivery other stands' beside) ?_ mayStep
        · rw [goesOn]
          exact (perm.cons _).trans (.swap _ _ _)
        · rw [hworks']
          exact (works'.cons k').trans (perm_of_alive alive before after).symm

/-- A turn of the service, in which no delivery crashes, is a sequence of steps. -/
theorem Shows.tick (h : Shows number c s w) (sound : s.SoundTurn) {s' : Service}
    (turn : s.tick = some s') :
    ∃ new c' w', Comes Station.Undergoes s.courier.process w new w' ∧ Shows number c' s' w' := by
  cases ready : s.ready with
  | nil =>
      rw [Service.tick, ready] at turn
      cases turn
  | cons t rest =>
      obtain ⟨m, task⟩ := t
      cases task with
      | supervisor | connection =>
          obtain ⟨w', step, shows'⟩ := h.turn_aside ready rfl turn
          exact ⟨_, c, w', step.comes, shows'⟩
      | delivery owner stage =>
          obtain ⟨new, w', comes, shows'⟩ := h.turn_delivery ready (sound _ _ _ _ ready) turn
          exact ⟨new, c, w', comes, shows'⟩
      | consumer c' =>
          obtain ⟨rfl, rfl⟩ := h.only (ready ▸ List.mem_append_left _ List.mem_cons_self)
          obtain ⟨c', w', step, shows'⟩ := h.turn_consumer ready turn
          exact ⟨_, c', w', step.comes, shows'⟩

/-- An event outside is a step, if it does not bring back a service that shuts down. -/
theorem Shows.undergoes {new : List Body} {st : Station} (h : Shows number c s w)
    (happens : s.station.Undergoes new st) (spares : s.station.Spares st) :
    Step Station.Undergoes s.courier.process w new { w with station := st } ∧
      Shows number c { s with station := st } { w with station := st } := by
  rw [← h.station] at happens
  exact ⟨.outside happens, rfl, h.consumer, h.counted, h.line, fun hmem =>
    (h.mayStep hmem).of_spares spares (Nat.le_refl _)⟩

/-- Tasks that have become ready stand in line. -/
theorem Shows.rouse (h : Shows number c s w) : Shows number c s.rouse w := by
  obtain ⟨line, live, perm, beside, works⟩ := h.line
  refine ⟨h.station, h.consumer, h.counted,
    ⟨line, live, s.line_rouse.trans perm, beside, works⟩, fun hmem => ?_⟩
  rcases mem_ready_rouse hmem with ready | ready
  · exact h.mayStep ready
  · have isReady : c.isReady s.station ((s.others number).countP (·.2.isDeliveryOf number)) =
      true := ready
    rw [countP_others_eq perm beside works] at isReady
    exact Consumer.mayStep_of_isReady isReady

/-- A service that starts a consumer, its first one, shows it. -/
theorem shows_start (asides : ∀ t ∈ s.line, t.2.isAside = true) :
    Shows s.tasks (Consumer.start s.station) (s.start (.consumer (Consumer.start s.station)))
      { station := s.station, consumer := some (Consumer.start s.station) } := by
  have beside : ∀ line : List (Nat × Task), (∀ t ∈ line, t.2.isAside = true) →
      Beside s.tasks line [] := by
    intro line h
    induction line with
    | nil => exact .nil
    | cons t line ih =>
        exact .aside (h t List.mem_cons_self) (ih fun t ht => h t (List.mem_cons_of_mem _ ht))
  refine ⟨rfl, rfl, Nat.lt_succ_self _, ⟨s.line, [], ?_, beside _ asides, .refl _⟩,
    fun _ => trivial⟩
  rw [Service.line, start, Service.line, List.append_assoc]
  exact List.perm_middle

/-! ### Runs of the service -/

/-- A service goes on for some time: tasks take turns in which no delivery crashes, those that have
become ready stand in line, and events happen outside, none of which brings back a service that
shuts down. -/
inductive GoesOn (start : Service) : Service → Prop
  | start : GoesOn start start
  | turn {s s' : Service} (before : GoesOn start s) (sound : s.SoundTurn)
      (turn : s.tick = some s') : GoesOn start s'
  | rouse {s : Service} (before : GoesOn start s) : GoesOn start s.rouse
  | event {s : Service} {new : List Body} {st : Station} (before : GoesOn start s)
      (happens : s.station.Undergoes new st) (spares : s.station.Spares st) :
      GoesOn start { s with station := st }

/-- A turn leaves the courier. -/
theorem courier_tick {s s' : Service} (turn : s.tick = some s') : s'.courier = s.courier := by
  cases ready : s.ready with
  | nil =>
      rw [Service.tick, ready] at turn
      cases turn
  | cons t rest =>
      rw [tick_eq ready] at turn
      obtain rfl := Option.some.inj turn
      exact (putBack_begun _ _ _ _).2.1

/-- Whatever a service does and whatever happens to it is a sequence of steps. -/
theorem GoesOn.comes {start : Service} (h : GoesOn start s) (shows : Shows number c start w) :
    s.courier = start.courier ∧ ∃ arrived c' w',
      Comes Station.Undergoes start.courier.process w arrived w' ∧ Shows number c' s w' := by
  induction h with
  | start => exact ⟨rfl, [], c, w, .start, shows⟩
  | turn _ sound turn ih =>
      obtain ⟨courier, arrived, c', w', comes, shows'⟩ := ih
      obtain ⟨new, c'', w'', comes', shows''⟩ := shows'.tick sound turn
      exact ⟨(courier_tick turn).trans courier, _, c'', w'', comes.trans (courier ▸ comes'),
        shows''⟩
  | rouse _ ih =>
      obtain ⟨courier, arrived, c', w', comes, shows'⟩ := ih
      exact ⟨courier, arrived, c', w', comes, shows'.rouse⟩
  | event _ happens spares ih =>
      obtain ⟨courier, arrived, c', w', comes, shows'⟩ := ih
      obtain ⟨step, shows''⟩ := shows'.undergoes happens spares
      exact ⟨courier, _, c', _, comes.step (courier ▸ step), shows''⟩

/-- No delivery crashes in so many turns. -/
def Sound : Nat → Service → Prop
  | 0, _ => True
  | fuel + 1, s => s.SoundTurn ∧ ∀ s', s.tick = some s' → Sound fuel s'

/-- A service that takes turns until all tasks wait goes on for that time. -/
theorem GoesOn.settleWithin {start : Service} {fuel : Nat} (h : GoesOn start s)
    (sound : s.Sound fuel) : GoesOn start (settleWithin fuel s) := by
  induction fuel generalizing s with
  | zero => exact h
  | succ fuel ih =>
      rw [Service.settleWithin]
      cases ticked : s.tick with
      | none => exact h
      | some s' => exact ih (h.turn sound.1 ticked) (sound.2 s' ticked)

/-- A service that can start its first consumer: nothing has come into the push queue yet, and no
operation is made to fail. -/
structure Fresh (s : Service) : Prop where
  asides : ∀ t ∈ s.line, t.2.isAside = true
  empty : s.station.broker.waiting s.station.topology.pushQueue = []
  counts : s.station.broker.counts = ⟨0, 0, 0, 0⟩
  faultless : s.station.faults = {}

example : Fresh {} := ⟨nofun, rfl, rfl, rfl⟩

/-- What all steps keep holds of a service that has started its first consumer, whatever it does and
whatever happens to it. -/
theorem GoesOn.kept {start : Service} (fresh : start.Fresh)
    (h : GoesOn (start.start (.consumer (Consumer.start start.station))) s) :
    ∃ arrived c w, Kept start.station.topology start.courier.process arrived w ∧
      Shows start.tasks c s w := by
  obtain ⟨-, arrived, c, w, comes, shows⟩ := h.comes (shows_start fresh.asides)
  have kept : Kept start.station.topology start.courier.process [] { station := start.station } :=
    Intake.kept_start fresh.faultless fresh.empty fresh.counts
  exact ⟨arrived, c, w, comes.kept (fun _ _ _ h => h) kept.launch, shows⟩

/-- No more deliveries are in work at once than the topology allows. -/
theorem GoesOn.deliveries_le {start : Service} (fresh : start.Fresh)
    (h : GoesOn (start.start (.consumer (Consumer.start start.station))) s) :
    (s.others start.tasks).countP (·.2.isDeliveryOf start.tasks) ≤
      Consumer.room start.station.topology := by
  obtain ⟨arrived, c, w, kept, shows⟩ := h.kept fresh
  obtain ⟨line, live, perm, beside, works⟩ := shows.line
  rw [countP_others_eq perm beside works]
  exact Nat.le_trans (Nat.le_add_right _ _) kept.roomy

/-- A consumer that has stopped has left no delivery in work. -/
theorem GoesOn.drained {start : Service} (fresh : start.Fresh)
    (h : GoesOn (start.start (.consumer (Consumer.start start.station))) s) {number : Nat}
    (stopped : (number, .consumer .stopped) ∈ s.line) :
    (s.others start.tasks).countP (·.2.isDeliveryOf start.tasks) = 0 := by
  obtain ⟨arrived, c, w, kept, shows⟩ := h.kept fresh
  obtain ⟨line, live, perm, beside, works⟩ := shows.line
  rw [countP_others_eq perm beside works]
  obtain ⟨-, rfl⟩ := shows.only stopped
  exact kept.drained shows.consumer

end Service

end PushDelivery
