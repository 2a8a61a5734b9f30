import Mathlib.Logic.Function.Iterate
import Mathlib.Logic.Relation
import PushDelivery.Transport.Consumer
import PushDelivery.Transport.Supervisor

/-!
# Slot and Announcement

The channel in use stands in a slot, and the state of the link is announced beside it. Whoever
changes the slot owes an announcement, and makes it in a step of its own, when the slot is free for
others again. This module asks when the two agree once nobody owes anything.

They do as long as nobody changes the slot while another owes an announcement, as on one thread,
where nothing comes between the two. Otherwise an announcement can be overtaken. A consumer that has
emptied the slot may find, when it announces the loss, that the supervisor has already filled the
slot with a new channel and has announced it: then the link is announced to be lost while an open
channel is in use. The supervisor takes the announcement for a loss and the slot for no reason to
connect, and goes round and round.

## Conventions

Any number of parties take part: callers that connect, supervisors and consumers. They take steps in
any order, and what happens besides to the station leaves slot, announced state and shutdown as they
are, as this is about the time before the service shuts down. Deliveries, which only keep a consumer
waiting, are left out. Beside the machine stands a ledger of two entries: whether the last
announcement was true when it was made, and whether anyone ever changed the slot while another owed
an announcement.

## Main definitions

* `Party`: one who changes the link, and `Party.owes` the announcement that it owes.
* `Linkage`: the station, the parties and the ledger.
* `Linkage.Reaches`: what steps in any order lead to.

## Main results

* `Party.turns`: a step changes slot or announced state, if it changes any, and only the latter when
  an announcement is owed.
* `Linkage.Reaches.sound`: what steps in any order keep.
* `Linkage.agrees_iff_truthful`: when slot and announcement agree.
* `Linkage.loss_overtaken`: they need not.
* `Supervisor.spins`: what a supervisor does then.
-/

namespace PushDelivery

/-! ### Changes of the link -/

/-- The announced state is right about the slot. -/
def Link.Agrees (l : Link) : Prop := l.state = .connected ↔ l.slot.isSome = true

instance (l : Link) : Decidable l.Agrees := inferInstanceAs (Decidable (_ ↔ _))

namespace Station

/-- Something else changes: neither the slot, nor the announced state, nor the shutdown. -/
structure Elsewhere (s s' : Station) : Prop where
  slot : s'.link.slot = s.link.slot
  state : s'.link.state = s.link.state
  cancelled : s'.cancelled = s.cancelled

/-- What a turn does to the link, with the announcement that is owed before and after it: nothing; a
change of the slot that calls for an announcement; or the announcement. -/
inductive Turns (s : Station) : Option LinkState → Option LinkState → Station → Prop
  | passes {s' : Station} (elsewhere : s.Elsewhere s') : Turns s none none s'
  | moves {s' : Station} {due : LinkState} (slot : s'.link.slot.isSome = true ↔ due = .connected)
      (state : s'.link.state = s.link.state) (cancelled : s'.cancelled = s.cancelled) :
      Turns s none (some due) s'
  | announces {s' : Station} {due : LinkState}
      (state : s'.link.state = .connected ↔ due = .connected)
      (slot : s'.link.slot = s.link.slot) (cancelled : s'.cancelled = s.cancelled) :
      Turns s (some due) none s'

variable {s : Station}

/-- Nothing else need change. -/
theorem Elsewhere.refl (s : Station) : s.Elsewhere s := ⟨rfl, rfl, rfl⟩

/-- Opening a channel changes none of them. -/
theorem elsewhere_openChannel (s : Station) : s.Elsewhere s.openChannel.2 := ⟨rfl, rfl, rfl⟩

/-- Nor does starting a stream. -/
theorem elsewhere_consume (s : Station) (channel : Nat) : s.Elsewhere (s.consume channel).2 := by
  rw [consume]
  split <;> exact ⟨rfl, rfl, rfl⟩

/-- The slot is filled with a channel that was opened. -/
theorem Elsewhere.fill {s' : Station} (h : s.Elsewhere s') (channel : Nat) :
    s.Turns none (some .connected) { s' with link := s'.link.fill channel } :=
  .moves ⟨fun _ => rfl, fun _ => rfl⟩ h.state h.cancelled

/-- The slot is emptied. -/
theorem turns_vacate {channel : Nat} {link : Link} (h : s.link.vacate? channel = some link) :
    s.Turns none (some .disconnected) { s with link } := by
  rw [Link.vacate?] at h
  split at h
  · obtain rfl := Option.some.inj h
    exact .moves ⟨fun hsome => (nomatch hsome), fun heq => (nomatch heq)⟩ rfl rfl
  · cases h

/-- A new channel is announced. -/
theorem turns_announceConnected (s : Station) :
    s.Turns (some .connected) none s.announceConnected :=
  .announces ⟨fun _ => rfl, fun _ => rfl⟩ rfl rfl

/-- A loss is announced. -/
theorem turns_announceLoss (running : s.cancelled = false) :
    s.Turns (some .disconnected) none s.announceLoss := by
  rw [announceLoss, if_neg (by simp [running])]
  refine .announces ⟨fun hstate => ?_, fun heq => (nomatch heq)⟩ ?_ rfl
  · dsimp only at hstate
    rw [Link.announceLoss] at hstate
    split at hstate
    · cases hstate
    · rename_i hnot
      exact absurd hstate hnot
  · dsimp only
    rw [Link.announceLoss]
    split <;> rfl

end Station

/-! ### Parties -/

/-- Where a caller that connects stands: it waits for the lock, connects, is about to announce the
new channel, or is done. -/
inductive Caller
  | locking
  | connecting
  | announcing
  | done
  deriving DecidableEq, Repr

namespace Caller

/-- Whether the lock of the connection is held. -/
def holdsLock : Caller → Bool
  | .connecting | .announcing => true
  | .locking | .done => false

/-- Whether there is anything to do. -/
def isReady (lockFree : Bool) : Caller → Bool
  | .locking => lockFree
  | .connecting | .announcing => true
  | .done => false

/-- One step. -/
def step (s : Station) : Caller → Caller × Station
  | .locking => (.connecting, s)
  | .connecting =>
    match s.openChannel with
    | (.ok channel, s) => (.announcing, { s with link := s.link.fill channel })
    | (.error _, s) => (.done, s)
  | .announcing => (.done, s.announceConnected)
  | .done => (.done, s)

/-- All steps of a caller, if no others come between, are those of a connection. -/
theorem iterate_step (s : Station) :
    (fun t : Caller × Station => t.1.step t.2)^[3] (.locking, s) = (.done, s.connect.2) := by
  have first : (Caller.locking).step s = (.connecting, s) := rfl
  simp only [Function.iterate_succ, Function.iterate_zero, Function.comp_apply, id_eq, first]
  rw [step, Station.connect]
  obtain ⟨result, s'⟩ := s.openChannel
  cases result with
  | error e => rfl
  | ok channel => rfl

end Caller

/-- One who changes the link. -/
inductive Party
  | caller (stage : Caller)
  | supervisor (stage : Supervisor)
  | consumer (stage : Consumer)
  deriving DecidableEq, Repr

namespace Party

/-- The announcement that a party owes, as it has changed the slot. -/
def owes : Party → Option LinkState
  | .caller .announcing | .supervisor .announcing => some .connected
  | .supervisor .reporting | .consumer .reporting => some .disconnected
  | _ => none

/-- Whether a party holds the lock of the connection. -/
def holdsLock : Party → Bool
  | .caller stage => stage.holdsLock
  | .supervisor stage => stage.holdsLock
  | .consumer _ => false

/-- Whether a party has anything to do. Deliveries that a consumer waits for are not considered. -/
def isReady (s : Station) (lockFree : Bool) : Party → Bool
  | .caller stage => stage.isReady lockFree
  | .supervisor stage => stage.isReady s lockFree
  | .consumer stage => stage.isReady s 0

/-- One step. -/
def step (s : Station) : Party → Party × Station
  | .caller stage => (.caller (stage.step s).1, (stage.step s).2)
  | .supervisor stage => (.supervisor (stage.step s).1, (stage.step s).2)
  | .consumer stage => (.consumer (stage.step s).1, (stage.step s).2.1)

/-- A party before its first step. -/
inductive Begins : Party → Prop
  | caller : Begins (.caller .locking)
  | supervisor : Begins (.supervisor .looking)
  | consumer (heard : Nat) : Begins (.consumer (.seeking heard))

variable {s : Station}

/-- A caller's turn. -/
theorem turns_caller (s : Station) (stage : Caller) :
    s.Turns (caller stage).owes (caller (stage.step s).1).owes (stage.step s).2 := by
  cases stage with
  | locking | done => exact .passes (.refl s)
  | connecting =>
      have helse := s.elsewhere_openChannel
      rw [Caller.step]
      generalize s.openChannel = opened at helse ⊢
      obtain ⟨result, s'⟩ := opened
      cases result with
      | ok channel => exact helse.fill channel
      | error e => exact .passes helse
  | announcing => exact s.turns_announceConnected

/-- A supervisor that goes on owes nothing. -/
theorem owes_recover (s : Station) : (supervisor (Supervisor.recover s)).owes = none := by
  rw [Supervisor.recover]
  split <;> rfl

/-- A supervisor's turn. -/
theorem turns_supervisor (running : s.cancelled = false) (stage : Supervisor) :
    s.Turns (supervisor stage).owes (supervisor (stage.step s).1).owes (stage.step s).2 := by
  have recovers : s.Turns none (supervisor (Supervisor.recover s)).owes s :=
    owes_recover s ▸ .passes (.refl s)
  cases stage with
  | looking =>
      rw [Supervisor.step]
      split
      · exact .passes (.refl s)
      · exact recovers
  | watching channel =>
      rw [Supervisor.step, if_neg (by simp [running])]
      split
      · cases hvacate : s.link.vacate? channel with
        | some link => exact Station.turns_vacate hvacate
        | none => exact recovers
      · exact recovers
  | reporting =>
      rw [Supervisor.step]
      dsimp only
      rw [owes_recover]
      exact Station.turns_announceLoss running
  | locking =>
      rw [Supervisor.step]
      split <;> exact .passes (.refl s)
  | connecting =>
      have helse := s.elsewhere_openChannel
      rw [Supervisor.step, if_neg (by simp [running])]
      generalize s.openChannel = opened at helse ⊢
      obtain ⟨result, s'⟩ := opened
      cases result with
      | ok channel => exact helse.fill channel
      | error e => exact .passes helse
  | announcing => exact .announces ⟨fun _ => rfl, fun _ => rfl⟩ rfl rfl
  | resting due =>
      rw [Supervisor.step]
      split <;> exact .passes (.refl s)
  | stopped => exact .passes (.refl s)

/-- A consumer's turn. -/
theorem turns_consumer (running : s.cancelled = false) (stage : Consumer) :
    s.Turns (consumer stage).owes (consumer (stage.step s).1).owes (stage.step s).2.1 := by
  cases stage with
  | seeking heard =>
      rw [Consumer.step, if_neg (by simp [running])]
      split <;> exact .passes (.refl s)
  | waiting heard =>
      rw [Consumer.step]
      split <;> exact .passes (.refl s)
  | subscribing channel =>
      have helse := s.elsewhere_consume channel
      rw [Consumer.step]
      generalize s.consume channel = consumed at helse ⊢
      obtain ⟨result, s'⟩ := consumed
      cases result with
      | ok stream => exact .passes helse
      | error e => exact .passes helse
  | making stream =>
      rw [Consumer.step]
      split <;> exact .passes (.refl s)
  | taking stream =>
      rw [Consumer.step, if_neg (by simp [running]), Consumer.take]
      obtain ⟨outcome, broker, stream'⟩ := Stream.poll s.broker stream
      cases outcome with
      | handed h =>
          dsimp only
          split <;> exact .passes ⟨rfl, rfl, rfl⟩
      | ended | moved | sleeps => exact .passes ⟨rfl, rfl, rfl⟩
  | losing channel =>
      rw [Consumer.step]
      cases hvacate : s.link.vacate? channel with
      | some link => exact Station.turns_vacate hvacate
      | none => exact .passes (.refl s)
  | reporting => exact Station.turns_announceLoss running
  | draining | stopped => exact .passes (.refl s)

/-- **A turn** of any party changes slot or announced state, if it changes any. -/
theorem turns (running : s.cancelled = false) (p : Party) :
    s.Turns p.owes (p.step s).1.owes (p.step s).2 := by
  cases p with
  | caller stage => exact turns_caller s stage
  | supervisor stage => exact turns_supervisor running stage
  | consumer stage => exact turns_consumer running stage

/-- A party that begins owes nothing. -/
theorem Begins.owes_eq_none {p : Party} (h : p.Begins) : p.owes = none := by
  cases h <;> rfl

end Party

/-! ### Parties side by side -/

/-- The station, the parties, and the ledger: whether the last announcement was true when it was
made, and whether anyone changed the slot while another owed an announcement. -/
structure Linkage where
  station : Station
  parties : List Party := []
  truthful : Bool := true
  crossed : Bool := false

namespace Linkage

/-- Whether the lock of the connection is free, as far as others hold it. -/
def lockFree (others : List Party) : Bool := others.all (!·.holdsLock)

/-- A turn of one party, beside those before and after it. -/
def turned (w : Linkage) (before : List Party) (p : Party) (after : List Party) : Linkage where
  station := (p.step w.station).2
  parties := before ++ (p.step w.station).1 :: after
  truthful := if p.owes.isSome then decide (p.step w.station).2.link.Agrees else w.truthful
  crossed := w.crossed ||
    ((p.step w.station).1.owes.isSome && (before ++ after).any (·.owes.isSome))

/-- One step: something else changes, a party begins, or a party that is ready has a turn. -/
inductive Step : Linkage → Linkage → Prop
  | elsewhere {w : Linkage} {s : Station} (elsewhere : w.station.Elsewhere s) :
      Step w { w with station := s }
  | begins {w : Linkage} {p : Party} (begins : p.Begins) :
      Step w { w with parties := w.parties ++ [p] }
  | turn {w : Linkage} {before after : List Party} {p : Party}
      (parties : w.parties = before ++ p :: after)
      (ready : p.isReady w.station (lockFree (before ++ after)) = true) :
      Step w (w.turned before p after)

/-- Steps in any order lead from one to another. -/
abbrev Reaches : Linkage → Linkage → Prop := Relation.ReflTransGen Step

/-- Nobody owes an announcement. -/
def Quiet (w : Linkage) : Prop := ∀ p ∈ w.parties, p.owes = none

variable {w w' : Linkage} {before after : List Party} {p : Party} {s : Station}

/-- What keeps slot and announced state keeps whether they agree. -/
theorem agrees_iff {l l' : Link} (slot : l'.slot = l.slot) (state : l'.state = l.state) :
    l'.Agrees ↔ l.Agrees := by
  rw [Link.Agrees, Link.Agrees, slot, state]

/-! ### What every step keeps -/

/-- What every step keeps. -/
structure Sound (w : Linkage) : Prop where
  /-- The service does not shut down. -/
  running : w.station.cancelled = false
  /-- Someone owes an announcement, or the last one tells whether slot and state agree. -/
  told : (∃ p ∈ w.parties, p.owes.isSome = true) ∨ (w.station.link.Agrees ↔ w.truthful = true)
  /-- As long as nobody was crossed, what is owed is right about the slot, and so is what was
  announced, when nothing is owed. -/
  apart : w.crossed = false →
    (∀ p ∈ w.parties, ∀ due, p.owes = some due →
      (w.station.link.slot.isSome = true ↔ due = .connected)) ∧
    (w.Quiet → w.station.link.Agrees)

/-- It holds before anyone begins, if slot and state agree. -/
theorem Sound.start (running : s.cancelled = false) (agrees : s.link.Agrees) :
    Sound { station := s } where
  running := running
  told := .inr ⟨fun _ => rfl, fun _ => agrees⟩
  apart _ := ⟨fun _ hp => (nomatch hp), fun _ => agrees⟩

/-- Anything else keeps it. -/
theorem Sound.elsewhere (h : w.Sound) (elsewhere : w.station.Elsewhere s) :
    Sound { w with station := s } where
  running := elsewhere.cancelled.trans h.running
  told := h.told.imp_right ((agrees_iff elsewhere.slot elsewhere.state).trans ·)
  apart uncrossed := by
    obtain ⟨howed, hquiet⟩ := h.apart uncrossed
    exact ⟨elsewhere.slot.symm ▸ howed,
      fun quiet => (agrees_iff elsewhere.slot elsewhere.state).mpr (hquiet quiet)⟩

/-- A party that begins keeps it. -/
theorem Sound.begins (h : w.Sound) (begins : p.Begins) :
    Sound { w with parties := w.parties ++ [p] } where
  running := h.running
  told := h.told.imp_left fun ⟨q, hq, howes⟩ => ⟨q, List.mem_append_left _ hq, howes⟩
  apart uncrossed := by
    obtain ⟨howed, hquiet⟩ := h.apart uncrossed
    refine ⟨fun q hq due hdue => ?_, fun quiet => hquiet fun q hq =>
      quiet q (List.mem_append_left _ hq)⟩
    rcases List.mem_append.mp hq with hq | hq
    · exact howed q hq due hdue
    · obtain rfl := List.mem_singleton.mp hq
      cases begins.owes_eq_none.symm.trans hdue

/-- The parties of a turn are those beside it, and the one that had it. -/
theorem mem_turn {p q : Party} : q ∈ before ++ p :: after ↔ q = p ∨ q ∈ before ++ after := by
  rw [List.mem_append, List.mem_cons, List.mem_append, or_left_comm]

/-- A turn that changes nothing keeps it. -/
theorem Sound.passes (h : w.Sound) (parties : w.parties = before ++ p :: after) {p' : Party}
    (owes : p.owes = none) (owes' : p'.owes = none) (elsewhere : w.station.Elsewhere s) :
    Sound { w with station := s, parties := before ++ p' :: after } where
  running := elsewhere.cancelled.trans h.running
  told := by
    rcases h.told with ⟨q, hq, hsome⟩ | told
    · rw [parties, mem_turn] at hq
      rcases hq with rfl | hq
      · rw [owes] at hsome
        cases hsome
      · exact .inl ⟨q, mem_turn.mpr (.inr hq), hsome⟩
    · exact .inr ((agrees_iff elsewhere.slot elsewhere.state).trans told)
  apart uncrossed := by
    obtain ⟨owed, quiet⟩ := h.apart uncrossed
    rw [parties] at owed
    refine ⟨fun q hq due hdue => ?_, fun quiet' => ?_⟩
    · rcases mem_turn.mp hq with rfl | hq
      · cases owes'.symm.trans hdue
      · exact elsewhere.slot.symm ▸ owed q (mem_turn.mpr (.inr hq)) due hdue
    · refine (agrees_iff elsewhere.slot elsewhere.state).mpr (quiet fun q hq => ?_)
      rw [parties, mem_turn] at hq
      rcases hq with rfl | hq
      · exact owes
      · exact quiet' q (mem_turn.mpr (.inr hq))

/-- A turn that changes the slot keeps it. -/
theorem Sound.moves (h : w.Sound) {p' : Party} {due : LinkState}
    (owes' : p'.owes = some due) (slot : s.link.slot.isSome = true ↔ due = .connected)
    (cancelled : s.cancelled = w.station.cancelled) :
    Sound {
      w with
      station := s
      parties := before ++ p' :: after
      crossed := w.crossed || (before ++ after).any (·.owes.isSome) } where
  running := cancelled.trans h.running
  told := .inl ⟨p', mem_turn.mpr (.inl rfl), by rw [owes']; rfl⟩
  apart uncrossed := by
    have alone : ∀ q ∈ before ++ after, q.owes = none := fun q hq => by
      simpa using List.any_eq_false.mp (Bool.or_eq_false_iff.mp uncrossed).2 q hq
    refine ⟨fun q hq other hother => ?_, fun quiet => ?_⟩
    · rcases mem_turn.mp hq with rfl | hq
      · obtain rfl := Option.some.inj (owes'.symm.trans hother)
        exact slot
      · cases (alone q hq).symm.trans hother
    · cases owes'.symm.trans (quiet p' (mem_turn.mpr (.inl rfl)))

/-- A turn that announces keeps it. -/
theorem Sound.announces (h : w.Sound) (parties : w.parties = before ++ p :: after) {p' : Party}
    {due : LinkState} (owes : p.owes = some due) (owes' : p'.owes = none)
    (state : s.link.state = .connected ↔ due = .connected)
    (slot : s.link.slot = w.station.link.slot) (cancelled : s.cancelled = w.station.cancelled) :
    Sound {
      w with
      station := s
      parties := before ++ p' :: after
      truthful := decide s.link.Agrees } where
  running := cancelled.trans h.running
  told := .inr decide_eq_true_iff.symm
  apart uncrossed := by
    obtain ⟨owed, -⟩ := h.apart uncrossed
    rw [parties] at owed
    refine ⟨fun q hq other hother => ?_, fun _ => ?_⟩
    · rcases mem_turn.mp hq with rfl | hq
      · cases owes'.symm.trans hother
      · exact slot.symm ▸ owed q (mem_turn.mpr (.inr hq)) other hother
    · exact state.trans (slot.symm ▸ (owed p (mem_turn.mpr (.inl rfl)) due owes).symm)

/-- **A turn** keeps it, even one for which the lock is not free. -/
theorem Sound.turn (h : w.Sound) (parties : w.parties = before ++ p :: after) :
    (w.turned before p after).Sound := by
  have turns := p.turns h.running
  unfold turned
  generalize p.step w.station = stepped at turns ⊢
  obtain ⟨p', s'⟩ := stepped
  dsimp only at turns ⊢
  generalize owes : p.owes = owed at turns ⊢
  generalize owes' : p'.owes = owed' at turns ⊢
  cases turns with
  | passes elsewhere =>
      simpa using h.passes parties owes owes' elsewhere
  | moves slot state cancelled =>
      simpa using h.moves owes' slot cancelled
  | announces state slot cancelled =>
      simpa using h.announces parties owes owes' state slot cancelled

/-- **One step** keeps it. -/
theorem Sound.step (h : w.Sound) (step : Step w w') : w'.Sound := by
  cases step with
  | elsewhere elsewhere => exact h.elsewhere elsewhere
  | begins begins => exact h.begins begins
  | turn parties _ => exact h.turn parties

/-- **Any steps** keep it. -/
theorem Reaches.sound (h : Reaches w w') (start : w.Sound) : w'.Sound := by
  induction h with
  | refl => exact start
  | tail _ step ih => exact ih.step step

/-! ### When slot and announcement agree -/

/-- **Slot and announcement.** Whatever the order of the steps, when nobody owes an announcement,
slot and announced state agree exactly if the last announcement was true when it was made. It always
is as long as nobody changes the slot while another owes an announcement. -/
theorem agrees_iff_truthful (running : s.cancelled = false) (agrees : s.link.Agrees)
    (h : Reaches { station := s } w) (quiet : w.Quiet) :
    (w.station.link.Agrees ↔ w.truthful = true) ∧ (w.crossed = false → w.station.link.Agrees) := by
  have sound := h.sound (.start running agrees)
  refine ⟨?_, fun uncrossed => (sound.apart uncrossed).2 quiet⟩
  rcases sound.told with ⟨p, hp, hsome⟩ | told
  · rw [quiet p hp] at hsome
    cases hsome
  · exact told

/-- Turns of parties by their number, in order. One that is not ready has none. -/
def acts (turns : List Nat) (w : Linkage) : Linkage :=
  turns.foldl (fun w i =>
    match w.parties.drop i with
    | [] => w
    | p :: after =>
      if p.isReady w.station (lockFree (w.parties.take i ++ after)) then
        w.turned (w.parties.take i) p after
      else w) w

/-- Turns are steps. -/
theorem reaches_acts (turns : List Nat) (w : Linkage) : Reaches w (w.acts turns) := by
  induction turns generalizing w with
  | nil => exact .refl
  | cons i rest ih =>
      refine .trans ?_ (ih _)
      dsimp only
      split
      · exact .refl
      · rename_i p after hdrop
        split
        · rename_i ready
          have parties : w.parties = w.parties.take i ++ p :: after := by
            rw [← hdrop, List.take_append_drop]
          exact .single (.turn parties ready)
        · exact .refl

/-- A caller, a supervisor and a consumer begin; the caller connects, the supervisor watches the
channel, and the consumer listens over it. -/
def atWork : Linkage :=
  acts [0, 0, 0, 1, 2, 2, 2]
    { station := {}
      parties := [.caller .locking, .supervisor .looking, .consumer (.seeking 0)] }

/-- Then the connection is lost. -/
def cutOff : Linkage :=
  { atWork with
    station := { atWork.station with broker := atWork.station.broker.sever "connection reset" } }

/-- So it comes to this. -/
theorem reaches_cutOff : Reaches { station := {} } cutOff :=
  have begun : Reaches { station := {} }
      { station := {}
        parties := [.caller .locking, .supervisor .looking, .consumer (.seeking 0)] } :=
    .tail (.tail (.single (.begins .caller)) (.begins .supervisor)) (.begins (.consumer 0))
  .tail (begun.trans (reaches_acts _ _)) (.elsewhere ⟨rfl, rfl, rfl⟩)

/-- The consumer empties the slot and announces the loss, and then the supervisor connects. -/
def recovered : Linkage := cutOff.acts [2, 2, 2, 1, 1, 1, 1]

/-- Slot and announcement agree then. -/
theorem agrees_iff_truthful_recovered :
    ({} : Station).cancelled = false ∧ ({} : Station).link.Agrees ∧
      Reaches { station := {} } recovered ∧ recovered.Quiet ∧
      (recovered.station.link.Agrees ↔ recovered.truthful = true) ∧
      (recovered.crossed = false → recovered.station.link.Agrees) := by
  have agrees : ({} : Station).link.Agrees := by decide
  have reaches : Reaches { station := {} } recovered := reaches_cutOff.trans (reaches_acts _ _)
  have quiet : recovered.Quiet := by
    unfold Quiet
    decide
  exact ⟨rfl, agrees, reaches, quiet, agrees_iff_truthful rfl agrees reaches quiet⟩

/-- The consumer empties the slot, the supervisor connects, and then the consumer announces the
loss. -/
def overtaken : Linkage := cutOff.acts [2, 2, 1, 1, 1, 1, 2]

end Linkage

/-! ### A supervisor that goes round -/

/-- **A supervisor goes round** as long as the channel in the slot is open and another state is
announced: it is always ready for its next step, and changes nothing. -/
theorem Supervisor.spins {s : Station} {channel : Nat} (running : s.cancelled = false)
    (slot : s.link.slot = some channel) (opened : s.broker.isOpen channel = true)
    (untold : s.link.state ≠ .connected) (n : Nat) :
    ∃ v ∈ [looking, watching channel, locking],
      (fun t : Supervisor × Station => t.1.step t.2)^[n] (looking, s) = (v, s) ∧
        v.isReady s true = true := by
  have notClosed : ¬(s.broker.closedReason? channel).isSome = true := by
    have hopen : s.broker.channels[channel]? = some none := beq_iff_eq.mp opened
    rw [Broker.closedReason?, hopen]
    exact Bool.false_ne_true
  have ready : ∀ v ∈ [looking, watching channel, locking], v.isReady s true = true := by
    simp [isReady, untold]
  have round : ∀ v ∈ [looking, watching channel, locking],
      ∃ v' ∈ [looking, watching channel, locking], v.step s = (v', s) := by
    simp only [List.forall_mem_cons, List.not_mem_nil, false_imp_iff, implies_true, and_true]
    refine ⟨⟨watching channel, by simp, ?_⟩, ⟨locking, by simp, ?_⟩, ⟨looking, by simp, ?_⟩⟩
    · rw [step, slot]
    · rw [step, if_neg (by simp [running]), if_neg notClosed, recover, if_neg (by simp [running])]
    · rw [step, slot, Option.any_some, if_pos opened]
  induction n with
  | zero => exact ⟨looking, by simp, rfl, rfl⟩
  | succ n ih =>
      obtain ⟨v, hv, hiterate, -⟩ := ih
      obtain ⟨v', hv', hstep⟩ := round v hv
      refine ⟨v', hv', ?_, ready v' hv'⟩
      rw [Function.iterate_succ_apply', hiterate, hstep]

/-- **A loss that is overtaken.** The loss of a channel may be announced when its replacement is in
use: nobody owes anything, the channel in the slot is open, the link is announced to be lost, and
the supervisor goes round. -/
theorem Linkage.loss_overtaken :
    Reaches { station := {} } overtaken ∧ overtaken.Quiet ∧
      overtaken.station.link.slot = some 1 ∧ overtaken.station.broker.isOpen 1 = true ∧
      overtaken.station.link.state = .disconnected ∧ .supervisor .looking ∈ overtaken.parties ∧
      ∀ n, ∃ v ∈ [.looking, .watching 1, .locking],
        (fun t : Supervisor × Station => t.1.step t.2)^[n] (.looking, overtaken.station) =
          (v, overtaken.station) ∧ v.isReady overtaken.station true = true := by
  have slot : overtaken.station.link.slot = some 1 := by decide
  have opened : overtaken.station.broker.isOpen 1 = true := by decide
  have state : overtaken.station.link.state = .disconnected := by decide
  have running : overtaken.station.cancelled = false := by decide
  have quiet : overtaken.Quiet := by
    unfold Quiet
    decide
  have untold : overtaken.station.link.state ≠ .connected := by
    rw [state]
    decide
  exact ⟨reaches_cutOff.trans (reaches_acts _ _), quiet, slot, opened, state, by decide,
    Supervisor.spins running slot opened untold⟩

end PushDelivery
