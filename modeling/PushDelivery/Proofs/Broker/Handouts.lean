import PushDelivery.Broker.Stream
import PushDelivery.Proofs.Broker.Waiting

/-!
# Messages That Are Handed Out

A stream looks at the queue in some of its steps only, and whatever it does in one step or in many,
it comes to one of two things: it hands out the first message of its queue under the next tag, or
the broker is as it was. While its channel is open it does not end, and no message comes to the
queue that it does not hear of: it listens before it looks, and every arrival calls.

## Main definitions

* `Stream.Result`: what steps of a stream come to.
* `Stream.GoesOn`: a stream that has not ended and missed no call.

## Main results

* `Stream.step_result`, `Stream.poll_result`: one step, and steps until there is something to tell.
* `Stream.step_goesOn`, `Stream.poll_goesOn`: a stream goes on while its channel is open.
* `Stream.GoesOn.waiting_eq_nil`: no message waits for a stream that sleeps.
-/

namespace PushDelivery.Stream

/-- What steps of a stream come to: the broker is as it was, or the first message was handed out. -/
inductive Result (b : Broker) (s : Stream) : Outcome → Broker → Stream → Prop
  | still {outcome : Outcome} {phase : Phase} (none : ∀ h, outcome ≠ .handed h) :
      Result b s outcome b { s with phase }
  | handed {body : Body} {rest : Broker} (taken : b.pop? s.queue = some (body, rest)) :
      Result b s (.handed ⟨b.lastTag + 1, s.queue, body⟩) { rest with lastTag := b.lastTag + 1 }
        { s with phase := .idle }

/-- One step comes to it. -/
theorem step_result (b : Broker) (s : Stream) :
    Result b s (step b s).1 (step b s).2.1 (step b s).2.2 := by
  obtain ⟨channel, queue, phase⟩ := s
  cases phase with
  | idle => exact .still nofun
  | ended => exact .still nofun
  | listening since =>
      rw [step]
      dsimp only
      split
      · exact .still nofun
      · exact .still nofun
  | asleep since =>
      rw [step]
      dsimp only
      split
      · exact .still nofun
      · exact .still nofun
  | looking since =>
      rw [step]
      dsimp only
      split
      · rename_i body rest taken
        obtain ⟨-, queues, rfl, -⟩ := Broker.pop?_eq_some taken
        exact .handed taken
      · exact .still nofun

/-- What a stream comes to does not depend on where it stood before. -/
theorem Result.of_phase {b b' : Broker} {s s' : Stream} {outcome : Outcome} {phase : Phase}
    (h : Result b { s with phase } outcome b' s') : Result b s outcome b' s' := by
  cases h with
  | still none => exact .still none
  | handed taken => exact .handed taken

/-- So do steps until one does more than move. -/
theorem pollWithin_result (fuel : Nat) (b : Broker) (s : Stream) :
    Result b s (pollWithin fuel b s).1 (pollWithin fuel b s).2.1 (pollWithin fuel b s).2.2 := by
  induction fuel generalizing s with
  | zero => exact .still nofun
  | succ fuel ih =>
      have hstep := step_result b s
      rw [pollWithin]
      split
      · rename_i b' s' hmoved
        rw [hmoved] at hstep
        cases hstep with
        | still => exact (ih _).of_phase
      · exact hstep

/-- So do steps until there is something to tell. -/
theorem poll_result (b : Broker) (s : Stream) :
    Result b s (poll b s).1 (poll b s).2.1 (poll b s).2.2 :=
  pollWithin_result 4 b s

/-- The number of calls when a stream began to listen. -/
def Phase.since? : Phase → Option Nat
  | .listening since | .looking since | .asleep since => some since
  | .idle | .ended => none

/-- A stream over some channel that has not ended. It missed no call, and while it sleeps a message
that waits has called it. -/
structure GoesOn (channel : Nat) (b : Broker) (s : Stream) : Prop where
  listens : s.channel = channel
  alive : s.phase ≠ .ended
  heard : ∀ since, s.phase.since? = some since → since ≤ b.epoch
  called : ∀ since, s.phase = .asleep since → since < b.epoch ∨ b.waiting s.queue = []

variable {b b' : Broker} {s : Stream} {channel : Nat}

/-- A stream goes on when it is started. -/
theorem goesOn_idle (channel : Nat) (b : Broker) (queue : String) :
    GoesOn channel b { channel, queue } :=
  ⟨rfl, nofun, nofun, nofun⟩

/-- A stream goes on when something happens at the broker. -/
theorem GoesOn.calls (h : GoesOn channel b s) (calls : b.Calls s.queue b') :
    GoesOn channel b' s := by
  refine ⟨h.listens, h.alive, fun since hsince => ?_, fun since hasleep => ?_⟩
  · have hle := h.heard since hsince
    rcases calls with hlt | ⟨heq, -⟩
    · exact Nat.le_of_lt (Nat.lt_of_le_of_lt hle hlt)
    · exact heq ▸ hle
  · have hle : since ≤ b.epoch := h.heard since (by rw [hasleep]; rfl)
    rcases calls with hlt | ⟨heq, hwaiting⟩
    · exact .inl (Nat.lt_of_le_of_lt hle hlt)
    · rw [heq, hwaiting]
      exact h.called since hasleep

/-- A stream does not end in a step while its channel is open. -/
theorem step_goesOn (h : GoesOn channel b s) (opened : b.isOpen channel = true) :
    (step b s).1 ≠ .ended ∧ GoesOn channel (step b s).2.1 (step b s).2.2 := by
  obtain ⟨ch, queue, phase⟩ := s
  obtain ⟨listens, alive, heard, called⟩ := h
  obtain rfl : ch = channel := listens
  have notClosed : b.closedReason? ch = none := by
    have hopen : b.channels[ch]? = some none := beq_iff_eq.mp opened
    rw [Broker.closedReason?, hopen]
    rfl
  cases phase with
  | idle =>
      refine ⟨nofun, rfl, nofun, fun since hsince => ?_, nofun⟩
      obtain rfl : b.epoch = since := Option.some.inj hsince
      exact Nat.le_refl b.epoch
  | ended => exact absurd rfl alive
  | listening since =>
      rw [step, notClosed]
      exact ⟨nofun, rfl, nofun, heard, nofun⟩
  | asleep since =>
      rw [step]
      dsimp only
      split
      · exact ⟨nofun, rfl, nofun, nofun, nofun⟩
      · exact ⟨nofun, rfl, nofun, heard, called⟩
  | looking since =>
      rw [step]
      dsimp only
      split
      · exact ⟨nofun, rfl, nofun, nofun, nofun⟩
      · rename_i none
        exact ⟨nofun, rfl, nofun, heard, fun _ _ => .inr (Broker.pop?_eq_none none)⟩

/-- A stream does not end in some steps while its channel is open. -/
theorem pollWithin_goesOn (fuel : Nat) (h : GoesOn channel b s)
    (opened : b.isOpen channel = true) :
    (pollWithin fuel b s).1 ≠ .ended ∧
      GoesOn channel (pollWithin fuel b s).2.1 (pollWithin fuel b s).2.2 := by
  induction fuel generalizing s with
  | zero => exact ⟨nofun, h⟩
  | succ fuel ih =>
      have hstep := step_goesOn h opened
      have hresult := step_result b s
      rw [pollWithin]
      split
      · rename_i b' s' hmoved
        rw [hmoved] at hstep hresult
        cases hresult with
        | still => exact ih hstep.2
      · exact hstep

/-- A stream does not end until there is something to tell while its channel is open. -/
theorem poll_goesOn (h : GoesOn channel b s) (opened : b.isOpen channel = true) :
    (poll b s).1 ≠ .ended ∧ GoesOn channel (poll b s).2.1 (poll b s).2.2 :=
  pollWithin_goesOn 4 h opened

/-- No message waits for a stream that goes on and sleeps without having been called. -/
theorem GoesOn.waiting_eq_nil (h : GoesOn channel b s) {since : Nat}
    (asleep : s.phase = .asleep since) (quiet : isCalled b s since = false) :
    b.waiting s.queue = [] := by
  rw [isCalled, Bool.or_eq_false_iff] at quiet
  exact (h.called since asleep).resolve_left (of_decide_eq_false quiet.1)

end PushDelivery.Stream
