import PushDelivery.Proofs.Transport.Unfolding

/-!
# Schedules

`Intake.Proceeds` leaves open who acts next. A schedule tells it, turn by turn: a message comes, the
consumer makes a step, or one of the messages in work makes its next request and is answered by the
station. Whoever cannot act lets its turn pass. So a schedule can be followed to its end, and where
it leads is computed.

## Main definitions

* `Intake.Actor`: who can act.
* `Intake.act`, `Intake.follow`: a turn, and a schedule.

## Main results

* `Intake.Unfolds.act`, `Intake.Unfolds.follow`: an intake unfolds to wherever a schedule leads.
-/

namespace PushDelivery.Intake

variable {handler : Transport.Handler} {start w : Intake} {arrived : List Body}

/-- Who can act: another program that puts a message into the push queue, the consumer, or one of
the messages that were taken, by its number. -/
inductive Actor
  | sender (body : Body)
  | consumer
  | work (i : Nat)

/-- A turn, with the messages that it puts into the push queue. The consumer is started at its first
turn and waits until it is ready at any other. A message that has nothing left to ask for ends its
task. -/
def act (handler : Transport.Handler) (w : Intake) : Actor → List Body × Intake
  | .sender body =>
    ([body], { w with
      station := { w.station with
        broker := w.station.broker.push w.station.topology.pushQueue body } })
  | .consumer =>
    match w.consumer with
    | none => ([], { w with consumer := some (.start w.station) })
    | some c =>
      if c.isReady w.station w.inWork then
        let (c', s, taken) := c.step w.station
        ([], ⟨s, some c', w.works ++ taken.toList.map (.begin w.station.topology handler)⟩)
      else ([], w)
  | .work i =>
    match w.works[i]? with
    | none => ([], w)
    | some k =>
      match k.left with
      | .done _ =>
        ([], { w with works := w.works.take i ++ { k with ended := true } :: w.works.drop (i + 1) })
      | .ask r next =>
        match (w.station.perform r).1.answer? with
        | none => ([], w)
        | some answer =>
          (w.station.gains w.station.topology.pushQueue r, { w with
            station := (w.station.perform r).2
            works := w.works.take i ++ k.exchange ⟨r, answer⟩ (next answer) ::
              w.works.drop (i + 1) })

/-- A schedule to its end, with all messages that it puts into the push queue. -/
def follow (handler : Transport.Handler) : List Actor → Intake → List Body × Intake
  | [], w => ([], w)
  | a :: rest, w =>
    let (new, w) := act handler w a
    let (more, w) := follow handler rest w
    (new ++ more, w)

/-- A turn that passes leads nowhere. -/
theorem Unfolds.pass (h : Unfolds handler start arrived w) :
    Unfolds handler start (arrived ++ []) w := by
  rw [List.append_nil]
  exact h

/-- A message in work, between those taken before and after it. -/
theorem works_eq {i : Nat} {k : Work} (h : w.works[i]? = some k) :
    w.works = w.works.take i ++ k :: w.works.drop (i + 1) := by
  obtain ⟨hi, rfl⟩ := List.getElem?_eq_some_iff.mp h
  rw [← List.drop_eq_getElem_cons hi, List.take_append_drop]

/-- An intake unfolds to wherever a turn leads. -/
theorem Unfolds.act (h : Unfolds handler start arrived w) (a : Actor) :
    Unfolds handler start (arrived ++ (act handler w a).1) (act handler w a).2 := by
  cases a with
  | sender body =>
      exact h.step (.aside (.outside ⟨Station.receives_push _ body, .inl rfl⟩) rfl)
  | consumer =>
      unfold Intake.act
      dsimp only
      cases hconsumer : w.consumer with
      | none => exact h.step (.aside (.launch hconsumer) rfl)
      | some c =>
          dsimp only
          split
          next ready =>
            have may := Consumer.mayStep_of_isReady ready
            refine h.step (.aside (.consumer hconsumer (.step may)) ?_)
            -- A message that was just taken has exchanged nothing.
            cases (c.step w.station).2.2 <;> simp
          next => exact h.pass
  | work i =>
      unfold Intake.act
      dsimp only
      cases hwork : w.works[i]? with
      | none => exact h.pass
      | some k =>
          have works := works_eq hwork
          dsimp only
          split
          next result done =>
            refine h.step (.aside (.finish works done) ?_)
            conv_rhs => rw [works]
            simp
          next r next asks =>
            cases given : (w.station.perform r).1.answer? with
            | none => exact h.pass
            | some answer => exact h.step (.request works asks ⟨given, rfl⟩)

/-- **An intake unfolds to wherever a schedule leads.** -/
theorem Unfolds.follow (h : Unfolds handler start arrived w) (schedule : List Actor) :
    Unfolds handler start (arrived ++ (follow handler schedule w).1)
      (follow handler schedule w).2 := by
  induction schedule generalizing arrived w with
  | nil => exact h.pass
  | cons a rest ih =>
      rw [Intake.follow, ← List.append_assoc]
      exact ih (h.act a)

/-- So does one that has just started. -/
theorem unfolds_follow (schedule : List Actor) (w : Intake) :
    Unfolds handler w (follow handler schedule w).1 (follow handler schedule w).2 :=
  Unfolds.start.follow schedule

end PushDelivery.Intake
