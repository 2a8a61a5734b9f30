import PushDelivery.Proofs.Transport.Intake

/-!
# No Message Is Lost or Taken Twice

Every message that came into the push queue waits there, is in flight, or was settled. This module
shows that it stays so under every interleaving of the consumer, the messages in work and whatever
happens outside, as long as no operation is made to fail and no delivery crashes.

## Main definitions

* `Intake.Kept`: what every step keeps.
* `Intake.Balanced`: what that says about the messages, seen from outside.

## Main results

* `Intake.Step.kept`: every step keeps it.
* `Intake.balanced_of_comes`: the balance holds in every intake that steps lead to.
-/

namespace PushDelivery.Intake

open Transport (Handler SettlesLast)

variable {outside : Station → List Body → Station → Prop} {handler : Handler} {t : Topology}
  {arrived new : List Body} {w w' : Intake}

/-- Whether the consumer has room reserved for a message. -/
def reserved (w : Intake) : Nat := (w.consumer.any (·.reserves)).toNat

/-- What every step keeps. -/
structure Kept (t : Topology) (handler : Handler) (arrived : List Body) (w : Intake) : Prop where
  topology : w.station.topology = t
  faultless : w.station.faults = {}
  /-- The messages that arrived were taken, in this order, or wait behind one another. -/
  order : arrived = w.works.map (·.handout.body) ++ w.station.broker.waiting t.pushQueue
  /-- Messages are numbered as they are taken. -/
  tags : w.works.map (·.handout.tag) = List.range' 1 w.works.length
  /-- The broker counts what was taken, acknowledged and refused; nothing comes back. -/
  counts : w.station.broker.counts = ⟨w.works.length, w.works.countP (·.isAcknowledged),
    w.works.countP (·.isRefused), 0⟩
  courses : ∀ k ∈ w.works, k.OnCourse t handler
  /-- There is room for all deliveries that are not over and the message that may be taken next. -/
  roomy : w.inWork + w.reserved ≤ Consumer.room t
  /-- The consumer stops after all deliveries are over. -/
  drained : w.consumer = some .stopped → w.inWork = 0
  /-- It takes messages from the push queue. -/
  streams : ∀ c stream, w.consumer = some c → c.stream? = some stream →
    stream.queue = t.pushQueue

/-- Before the first step, and before any message, there is nothing to keep. -/
theorem kept_start {s : Station} (faultless : s.faults = {})
    (empty : s.broker.waiting s.topology.pushQueue = []) (counts : s.broker.counts = ⟨0, 0, 0, 0⟩) :
    Kept s.topology handler [] { station := s } := by
  refine ⟨rfl, faultless, ?_, rfl, counts, by simp, by simp [inWork, reserved], nofun, nofun⟩
  exact empty.symm

/-- An event outside keeps it. -/
theorem Kept.undergoes {s : Station} (h : Kept t handler arrived w)
    (happens : w.station.Undergoes new s) :
    Kept t handler (arrived ++ new) { w with station := s } := by
  obtain ⟨htopology, hfaults, hbroker⟩ := happens
  rw [h.topology] at hbroker
  refine { h with
    topology := htopology.trans h.topology
    faultless := hfaults.trans h.faultless
    order := ?_
    counts := hbroker.counts.trans h.counts }
  rw [h.order, hbroker.waiting, List.append_assoc]

/-- Starting the consumer keeps it. -/
theorem Kept.launch (h : Kept t handler arrived w) :
    Kept t handler arrived { w with consumer := some (.start w.station) } := by
  refine { h with roomy := ?_, drained := nofun, streams := ?_ }
  · exact Nat.le_trans (Nat.add_le_add_left (Nat.zero_le _) _) h.roomy
  · intro c stream hc hstream
    obtain rfl := Option.some.inj hc
    cases hstream

/-- Taking the first message of the push queue keeps it, with room reserved for the message. -/
theorem Kept.took {stream : Stream} {body : Body} {rest : Broker} (h : Kept t handler arrived w)
    (stands : w.consumer = some (.taking stream)) (roomy : w.inWork + 1 ≤ Consumer.room t)
    (popped : w.station.broker.pop? stream.queue = some (body, rest)) :
    Kept t handler arrived
      ⟨{ w.station with broker := { rest with lastTag := w.station.broker.lastTag + 1 } },
        some (.making { stream with phase := .idle }),
        w.works ++ [Work.begin w.station.topology handler
          ⟨w.station.broker.lastTag + 1, stream.queue, body⟩]⟩ := by
  have hqueue : stream.queue = t.pushQueue := h.streams _ stream stands rfl
  obtain ⟨hwaiting, queues, rfl, -⟩ := Broker.pop?_eq_some popped
  rw [hqueue] at hwaiting
  have hcounts := h.counts
  simp only [Broker.counts, Broker.Counts.mk.injEq] at hcounts
  obtain ⟨htag, hacked, hrejected, hrequeued⟩ := hcounts
  refine ⟨h.topology, h.faultless, ?_, ?_, ?_, ?_, ?_, nofun, ?_⟩
  · rw [h.order, hwaiting, List.map_append, List.map_singleton, Work.begin_handout,
      List.append_assoc]
    rfl
  · rw [List.map_append, h.tags, List.length_append, List.map_singleton, Work.begin_handout, htag,
      List.length_singleton, List.range'_concat, Nat.one_mul, Nat.add_comm]
  · simp [Broker.counts, htag, hacked, hrejected, hrequeued]
  · refine List.forall_mem_append.mpr ⟨h.courses, List.forall_mem_singleton.mpr ?_⟩
    rw [h.topology]
    exact Work.onCourse_begin t handler _
  · have hone : ∀ handout, (w.works ++ [Work.begin w.station.topology handler handout]).countP
        (!·.ended) = w.inWork + 1 := fun handout => by
      rw [List.countP_append, List.countP_singleton, Work.begin_ended]
      rfl
    rw [inWork, hone]
    exact roomy
  · intro _ stream' hc' hstream'
    obtain rfl := Option.some.inj hc'
    obtain rfl := Option.some.inj hstream'
    exact hqueue

/-- A step of the consumer keeps it. -/
theorem Kept.moves {c c' : Consumer} {s : Station} {taken : Option Handout}
    (h : Kept t handler arrived w) (stands : w.consumer = some c)
    (moves : Consumer.Moves w.station w.inWork c c' s taken) :
    Kept t handler arrived
      ⟨s, some c', w.works ++ taken.toList.map (Work.begin w.station.topology handler)⟩ := by
  have hroomy : w.inWork + c.reserves.toNat ≤ Consumer.room t := by
    have hroomy := h.roomy
    rw [reserved, stands] at hroomy
    exact hroomy
  cases moves.turn h.faultless with
  | quiet topology faults broker reserves stops streams =>
      rw [Option.toList_none, List.map_nil, List.append_nil]
      refine { h with
        topology := topology.trans h.topology
        faultless := faults.trans h.faultless
        order := by rw [broker]; exact h.order
        counts := by rw [broker]; exact h.counts
        roomy := ?_
        drained := fun hstopped => stops (Option.some.inj hstopped)
        streams := ?_ }
      · rw [h.topology] at reserves
        change w.inWork + c'.reserves.toNat ≤ Consumer.room t
        cases hreserves : c'.reserves with
        | false => exact Nat.le_trans (Nat.le_add_right _ _) hroomy
        | true =>
            rcases reserves hreserves with hbefore | hroom
            · rw [hbefore] at hroomy
              exact hroomy
            · exact hroom
      · intro _ stream' hc' hstream'
        obtain rfl := Option.some.inj hc'
        rcases streams stream' hstream' with hqueue | ⟨stream, hstream, hqueue⟩
        · rw [hqueue, h.topology]
        · rw [hqueue]
          exact h.streams c stream stands hstream
  | took stood popped =>
      subst stood
      exact h.took stands hroomy popped

/-- A list keeps what holds of all its elements if it holds of one that takes the place of
another. -/
theorem forall_mem_replace {α : Type} {P : α → Prop} {before after : List α} {a b : α}
    (h : ∀ x ∈ before ++ a :: after, P x) (hb : P b) : ∀ x ∈ before ++ b :: after, P x := by
  intro x hx
  rcases List.mem_append.mp hx with hx | hx
  · exact h x (List.mem_append_left _ hx)
  · rcases List.mem_cons.mp hx with rfl | hx
    · exact hb
    · exact h x (List.mem_append_right _ (List.mem_cons_of_mem _ hx))

/-- One more element may count if another takes the place of one that does not. -/
theorem countP_replace {α : Type} {p : α → Bool} {a : α} (h : p a = false) (b : α)
    (before after : List α) :
    (before ++ b :: after).countP p = (before ++ a :: after).countP p + (p b).toNat := by
  rw [List.countP_append, List.countP_append, List.countP_cons, List.countP_cons, h]
  cases p b with
  | false => rfl
  | true => exact (Nat.add_assoc _ _ _).symm

/-- A request of a message in work keeps it. -/
theorem Kept.request {before after : List Work} {k : Work} {r : Transport.Request}
    {next : r.Answer → Run Transport.interface Unit} {answer : r.Answer} {s : Station}
    (h : Kept t handler arrived w) (works : w.works = before ++ k :: after)
    (asks : k.left = .ask r next) (answers : w.station.Answers ⟨r, answer⟩ s) :
    Kept t handler (arrived ++ w.station.gains t.pushQueue r)
      { w with
        station := s
        works := before ++ k.exchange ⟨r, answer⟩ (next answer) :: after } := by
  have effect := answers.effect h.faultless
  have hk : k ∈ w.works := works ▸ List.mem_append_right _ List.mem_cons_self
  obtain ⟨hcourse, -⟩ := (h.courses k hk).exchange asks answer
  -- As there was a request left, the message was not settled before it.
  obtain ⟨hnotAcked, hnotRefused⟩ : k.isAcknowledged = false ∧ k.isRefused = false := by
    rcases (h.courses k hk).settled with ⟨-, hacked, hrefused⟩ | ⟨hdone, -⟩
    · exact ⟨hacked, hrefused⟩
    · rw [asks] at hdone
      cases hdone
  have hacked : (k.exchange ⟨r, answer⟩ (next answer)).isAcknowledged = r.acknowledges := by
    rw [Work.isAcknowledged, Work.exchange, List.any_append]
    change (k.isAcknowledged || _) = _
    simp [hnotAcked]
  have hrefused : (k.exchange ⟨r, answer⟩ (next answer)).isRefused = r.refuses := by
    rw [Work.isRefused, Work.exchange, List.any_append]
    change (k.isRefused || _) = _
    simp [hnotRefused]
  obtain ⟨htopology, hfaultless, horder, htags, hcounts, hcourses, hroomy, hdrained, hstreams⟩ := h
  rw [works] at horder htags hcounts hcourses
  have hinWork : (before ++ k.exchange ⟨r, answer⟩ (next answer) :: after).countP (!·.ended) =
      w.inWork := by
    rw [inWork, works, List.countP_append, List.countP_append, List.countP_cons, List.countP_cons]
    rfl
  refine ⟨effect.topology.trans htopology, effect.faults.trans hfaultless, ?_, ?_, ?_, ?_, ?_, ?_,
    hstreams⟩
  · rw [horder, effect.broker, Station.waiting_after hfaultless, ← List.append_assoc]
    simp [Work.exchange]
  · rw [List.length_append, List.length_cons] at htags ⊢
    rw [← htags]
    simp [Work.exchange]
  · simp only [Broker.counts, Broker.Counts.mk.injEq] at hcounts
    obtain ⟨htag, hack, hreject, hrequeue⟩ := hcounts
    rw [effect.broker, Broker.counts_after, countP_replace hnotAcked, countP_replace hnotRefused,
      hacked, hrefused, Broker.counts, htag, hack, hreject, hrequeue]
    simp only [List.length_append, List.length_cons]
  · exact forall_mem_replace hcourses hcourse
  · rw [inWork, hinWork]
    exact hroomy
  · intro hstopped
    rw [inWork, hinWork]
    exact hdrained hstopped

/-- The end of a task keeps it. -/
theorem Kept.finish {before after : List Work} {k : Work} (h : Kept t handler arrived w)
    (works : w.works = before ++ k :: after) (done : k.left = .done ()) :
    Kept t handler arrived { w with works := before ++ { k with ended := true } :: after } := by
  obtain ⟨htopology, hfaultless, horder, htags, hcounts, hcourses, hroomy, hdrained, hstreams⟩ := h
  have hk : k.OnCourse t handler :=
    hcourses k (works ▸ List.mem_append_right _ List.mem_cons_self)
  have hfewer : (before ++ { k with ended := true } :: after).countP (!·.ended) ≤ w.inWork := by
    rw [inWork, works, List.countP_append, List.countP_append, List.countP_cons, List.countP_cons]
    simp
  rw [works] at horder htags hcounts hcourses
  refine ⟨htopology, hfaultless, ?_, ?_, ?_, ?_, ?_, ?_, hstreams⟩
  · rw [horder]
    simp
  · rw [List.length_append, List.length_cons] at htags ⊢
    rw [← htags]
    simp
  · rw [hcounts]
    simp only [List.countP_append, List.countP_cons, List.length_append, List.length_cons]
    rfl
  · exact forall_mem_replace hcourses ⟨hk.course, fun _ => done⟩
  · exact Nat.le_trans (Nat.add_le_add_right hfewer _) hroomy
  · intro hstopped
    exact Nat.le_zero.mp (Nat.le_trans hfewer (Nat.le_of_eq (hdrained hstopped)))

/-- Every step keeps it, if what happens outside is what can happen to a station. -/
theorem Step.kept (step : Step outside handler w new w')
    (events : ∀ s new s', outside s new s' → s.Undergoes new s')
    (h : Kept t handler arrived w) : Kept t handler (arrived ++ new) w' := by
  cases step with
  | outside happens => exact h.undergoes (events _ _ _ happens)
  | launch idle =>
      rw [List.append_nil]
      exact h.launch
  | consumer stands moves =>
      rw [List.append_nil]
      exact h.moves stands moves
  | request works asks answers =>
      rw [h.topology]
      exact h.request works asks answers
  | finish works done =>
      rw [List.append_nil]
      exact h.finish works done

/-- What is kept holds wherever steps lead. -/
theorem Comes.kept {start : Intake} (comes : Comes outside handler start arrived w)
    (events : ∀ s new s', outside s new s' → s.Undergoes new s')
    (h : Kept t handler [] start) : Kept t handler arrived w := by
  induction comes with
  | start => exact h
  | step _ next ih => exact next.kept events ih

/-! ### The balance -/

/-- Messages in work are acknowledged, refused or still in flight. -/
theorem length_eq_of_onCourse {works : List Work} (h : ∀ k ∈ works, k.OnCourse t handler) :
    works.length = works.countP (!·.isSettled) + works.countP (·.isAcknowledged) +
      works.countP (·.isRefused) := by
  induction works with
  | nil => rfl
  | cons k works ih =>
      have hk : k.OnCourse t handler := h k List.mem_cons_self
      have hrest := ih fun k' hk' => h k' (List.mem_cons_of_mem _ hk')
      rw [List.length_cons, List.countP_cons, List.countP_cons, List.countP_cons, Work.isSettled]
      rcases hk.settled with ⟨-, hacked, hrefused⟩ | ⟨-, hrefused⟩
      · simp only [hacked, hrefused]
        simp
        omega
      · rw [hrefused]
        cases k.isAcknowledged with
        | true =>
            simp
            omega
        | false =>
            simp
            omega

/-- A message whose task is over is settled. -/
theorem inFlight_le_inWork (h : ∀ k ∈ w.works, k.OnCourse t handler) : w.inFlight ≤ w.inWork := by
  refine List.countP_mono_left fun k hk hunsettled => ?_
  refine Bool.not_eq_true' _ |>.mpr (Bool.eq_false_iff.mpr fun hended => ?_)
  have hdone := (h k hk).ended hended
  rcases (h k hk).settled with ⟨hlast, -⟩ | ⟨-, hrefused⟩
  · rw [hdone] at hlast
    exact hlast
  · rw [Work.isSettled, hrefused] at hunsettled
    simp at hunsettled

/-- What holds of the messages that came into the push queue, seen from outside. -/
structure Balanced (arrived : List Body) (w : Intake) : Prop where
  /-- Each of them waits, is in flight, or was acknowledged or refused. -/
  sum : arrived.length = w.station.broker.depth w.station.topology.pushQueue + w.inFlight +
    w.station.broker.acked + w.station.broker.rejected
  /-- They are taken in the order in which they came, each once, and those that wait came last. -/
  order : arrived = w.works.map (·.handout.body) ++
    w.station.broker.waiting w.station.topology.pushQueue
  /-- The tags under which they are taken increase. -/
  tags : (w.works.map (·.handout.tag)).Pairwise (· < ·)
  /-- There is room for all that are in flight. -/
  roomy : w.inFlight ≤ max 1 w.station.topology.prefetch
  /-- None is in flight once the consumer has stopped. -/
  stopped : w.consumer = some .stopped → w.inFlight = 0

/-- The balance is part of what is kept. -/
theorem Kept.balanced (h : Kept t handler arrived w) : Balanced arrived w := by
  have hle := inFlight_le_inWork h.courses
  have hlength := length_eq_of_onCourse h.courses
  have hcounts := h.counts
  simp only [Broker.counts, Broker.Counts.mk.injEq] at hcounts
  obtain ⟨-, hacked, hrejected, -⟩ := hcounts
  have hroomy := h.roomy
  rw [← h.topology] at hroomy
  refine ⟨?_, ?_, ?_, ?_, fun hstopped => ?_⟩
  · rw [hacked, hrejected, Broker.depth, h.topology, inFlight, h.order, List.length_append,
      List.length_map, hlength]
    omega
  · rw [h.topology]
    exact h.order
  · rw [h.tags]
    exact List.pairwise_lt_range'
  · exact Nat.le_trans hle (Nat.le_trans (Nat.le_add_right _ _) hroomy)
  · exact Nat.le_zero.mp (Nat.le_trans hle (Nat.le_of_eq (h.drained hstopped)))

/-- **No message is lost or taken twice.** Let a consumer take messages from a broker that is empty
at first, under any interleaving of pushes, handlers that come to any end, losses of the connection,
failed and successful connections, and shutdown. At any moment each message that came into the push
queue waits there, is in flight, or was acknowledged or refused. Messages are taken in the order in
which they came and with increasing tags, no more than the topology allows are in flight, and none
is when the consumer has stopped. -/
theorem balanced_of_comes {s : Station} (fresh : s.broker = {}) (faultless : s.faults = {})
    (comes : Comes Station.Undergoes handler { station := s } arrived w) : Balanced arrived w := by
  have kept : Kept s.topology handler [] { station := s } :=
    kept_start faultless (by rw [fresh]; rfl) (by rw [fresh]; rfl)
  exact (comes.kept (fun _ _ _ h => h) kept).balanced

/-- Two messages are pushed and one of them is taken, and while it is in flight the connection is
lost and opened again. -/
theorem balanced_of_comes_severed : ∃ w, w.inFlight = 1 ∧ w.station.broker.connects = 2 ∧
    w.station.broker.depth "push.queue" = 1 ∧ Balanced [.text "a", .text "b"] w := by
  have first : Comes Station.Undergoes Transport.cancelling { station := {} } []
      { station := {} } := .start
  have linked := first.step (.outside (Station.undergoes_connect _))
  have pushed := linked.step (.outside (Station.undergoes_push _ (.text "a")))
  have again := pushed.step (.outside (Station.undergoes_push _ (.text "b")))
  have launched := again.step (.launch rfl)
  have found := launched.step (.consumer rfl (.step trivial))
  have subscribed := found.step (.consumer rfl (.step trivial))
  have admitted := subscribed.step (.consumer rfl (.reserve (by decide)))
  have taken := admitted.step (.consumer rfl .take)
  have severed := taken.step (.outside (Station.undergoes_sever _ "lost"))
  have relinked := severed.step (.outside (Station.undergoes_connect _))
  exact ⟨_, rfl, rfl, rfl, balanced_of_comes rfl rfl relinked⟩

end PushDelivery.Intake
