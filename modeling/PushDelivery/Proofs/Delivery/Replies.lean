import Mathlib.Data.List.Perm.Subperm
import PushDelivery.Delivery.Request

/-!
# What the Gateway Reported

The exchanges of a delivery name the devices it asked the gateway to reach and carry the outcomes
that the gateway reported. This module reads both off the exchanges, states what the gateway
promises about its replies, and shows that a ledger is nothing but the outcomes reported so far.

## Main definitions

* `targets`, `outcomes`: the devices that an exchange is for, and what was reported about them.
* `reported`: all outcomes of some exchanges in their order.
* `Request.isPush`: the requests that have devices and outcomes.
* `Faithful`: one outcome for each device of a request, in order, unless the request failed.
* `Modest`: no more outcomes for a device than the request names it.
* `Reached`, `latest`: a device was reached at some time, and the last outcome reported about it.
* `Steady`: no outcome follows a success of the same device.

## Main results

* `record_record`: outcomes are recorded one by one or all together.
* `outcome?_record_empty`: a ledger answers with the last outcome reported.
* `Steady.append`: while only devices are asked for that were not reached, a success stays the last
  outcome of its device.
-/

namespace PushDelivery.Delivery

open Run (Exchange)

/-! ### Exchanges with the gateway -/

/-- The devices that an exchange asks the gateway to reach. -/
def targets : Exchange interface → List String
  | ⟨.send token _, _⟩ => [token]
  | ⟨.sendMany tokens _, _⟩ => tokens
  | _ => []

/-- The outcomes that the gateway reports in an exchange. -/
def outcomes : Exchange interface → List Outcome
  | ⟨.send _ _, .ok o⟩ => [o]
  | ⟨.sendMany _ _, .ok os⟩ => os
  | _ => []

/-- All outcomes that the gateway reports in some exchanges. -/
def reported (es : List (Exchange interface)) : List Outcome := es.flatMap outcomes

@[simp] theorem reported_nil : reported [] = [] := rfl

@[simp] theorem reported_cons (e : Exchange interface) (es : List (Exchange interface)) :
    reported (e :: es) = outcomes e ++ reported es := rfl

@[simp] theorem reported_append (es fs : List (Exchange interface)) :
    reported (es ++ fs) = reported es ++ reported fs := List.flatMap_append

/-- Whether a request asks the gateway for a push. -/
def Request.isPush : Request → Bool
  | .send .. | .sendMany .. => true
  | _ => false

/-- Only a push has devices. -/
theorem targets_of_not_push {e : Exchange interface} (h : e.1.isPush = false) : targets e = [] := by
  obtain ⟨r, answer⟩ := e
  cases r with
  | send | sendMany => cases h
  | _ => rfl

/-- Only a push is answered with outcomes. -/
theorem outcomes_of_not_push {e : Exchange interface} (h : e.1.isPush = false) :
    outcomes e = [] := by
  obtain ⟨r, answer⟩ := e
  cases r with
  | send | sendMany => cases h
  | _ => rfl

/-- Without a push nothing is reported. -/
theorem reported_of_not_push {es : List (Exchange interface)}
    (h : ∀ e ∈ es, e.1.isPush = false) : reported es = [] :=
  List.flatMap_eq_nil_iff.mpr fun e he => outcomes_of_not_push (h e he)

/-- The gateway keeps its promise in an exchange: one outcome for each device, in order, or a
failure of the whole request. -/
def Faithful : Exchange interface → Prop
  | ⟨.send token _, .ok o⟩ => o.deviceToken = token
  | ⟨.sendMany tokens _, .ok os⟩ => os.map (·.deviceToken) = tokens
  | _ => True

/-- The gateway reports on each device at most as often as it was asked to reach it. -/
def Modest (e : Exchange interface) : Prop :=
  List.Subperm ((outcomes e).map (·.deviceToken)) (targets e)

instance (e : Exchange interface) : Decidable (Modest e) :=
  inferInstanceAs (Decidable (List.Subperm _ _))

/-- A faithful reply is modest. -/
theorem Faithful.modest {e : Exchange interface} (h : Faithful e) : Modest e := by
  obtain ⟨r, answer⟩ := e
  cases r with
  | send token content =>
      cases answer with
      | error e => exact List.nil_subperm
      | ok o =>
          obtain rfl : o.deviceToken = token := h
          exact .refl [o.deviceToken]
  | sendMany tokens content =>
      cases answer with
      | error e => exact List.nil_subperm
      | ok os =>
          obtain rfl : os.map (·.deviceToken) = tokens := h
          exact .refl (os.map (·.deviceToken))
  | _ => exact List.nil_subperm

/-! ### Devices that were reached -/

/-- Some outcome reports that a device was reached. -/
def Reached (h : List Outcome) (token : String) : Prop :=
  ∃ o ∈ h, o.deviceToken = token ∧ o.success = true

instance (h : List Outcome) (token : String) : Decidable (Reached h token) :=
  inferInstanceAs (Decidable (∃ o ∈ h, _))

/-- The last outcome that was reported about a device. -/
def latest (h : List Outcome) (token : String) : Option Outcome :=
  h.reverse.find? (·.deviceToken = token)

/-- A success is the last outcome of its device. -/
def Steady (h : List Outcome) : Prop :=
  ∀ o ∈ h, o.success = true → latest h o.deviceToken = some o

/-- No device was reached before the first outcome. -/
@[simp] theorem not_reached_nil (token : String) : ¬ Reached [] token := by simp [Reached]

/-- A device was reached in one of two stretches. -/
@[simp] theorem reached_append {h os : List Outcome} {token : String} :
    Reached (h ++ os) token ↔ Reached h token ∨ Reached os token := by
  simp only [Reached, List.mem_append, or_and_right, exists_or]

/-- Nothing is steadier than no outcome at all. -/
theorem steady_nil : Steady [] := fun _ h => absurd h List.not_mem_nil

/-- The last outcome is the last of the later stretch, if that has one. -/
theorem latest_append (h os : List Outcome) (token : String) :
    latest (h ++ os) token = (latest os token).or (latest h token) := by
  simp only [latest, List.reverse_append, List.find?_append]

/-- The last outcome of a device is one that was reported about it. -/
theorem mem_of_latest {h : List Outcome} {token : String} {o : Outcome}
    (ho : latest h token = some o) : o ∈ h ∧ o.deviceToken = token := by
  have hm := List.mem_of_find?_eq_some ho
  have hp := List.find?_some ho
  exact ⟨List.mem_reverse.mp hm, by simpa using hp⟩

/-- A device without a last outcome has none at all. -/
theorem latest_eq_none_iff {h : List Outcome} {token : String} :
    latest h token = none ↔ ∀ o ∈ h, o.deviceToken ≠ token := by
  simp [latest, List.find?_eq_none]

/-- If no device has two outcomes, any outcome is the last one of its device. -/
theorem latest_of_nodup {os : List Outcome} (hnd : (os.map (·.deviceToken)).Nodup) {o : Outcome}
    (ho : o ∈ os) : latest os o.deviceToken = some o := by
  induction os with
  | nil => cases ho
  | cons a rest ih =>
      rw [List.map_cons, List.nodup_cons] at hnd
      rw [show a :: rest = [a] ++ rest from rfl, latest_append]
      rcases List.mem_cons.mp ho with rfl | hr
      · have hnone : latest rest o.deviceToken = none :=
          latest_eq_none_iff.mpr fun p hp hpo => hnd.1 (List.mem_map.mpr ⟨p, hp, hpo⟩)
        rw [hnone, Option.none_or]
        exact List.find?_cons_of_pos (by simp)
      · rw [ih hnd.2 hr]
        rfl

/-- While the gateway reports once at most on each device, and only on devices that were not
reached, devices that were reached stay so. -/
theorem Steady.append {h os : List Outcome} (hs : Steady h)
    (hnd : (os.map (·.deviceToken)).Nodup) (hfresh : ∀ o ∈ os, ¬ Reached h o.deviceToken) :
    Steady (h ++ os) := by
  intro o ho hsucc
  rw [latest_append]
  rcases List.mem_append.mp ho with hh | hos
  · have hnone : latest os o.deviceToken = none :=
      latest_eq_none_iff.mpr fun p hp hpo => hfresh p hp (hpo ▸ ⟨o, hh, rfl, hsucc⟩)
    rw [hnone, Option.none_or]
    exact hs o hh hsucc
  · rw [latest_of_nodup hnd hos, Option.some_or]

/-! ### The ledger -/

/-- An outcome with the correlation of its job. -/
def stamped (correlationId : Option String) (o : Outcome) : Outcome := { o with correlationId }

/-- Outcomes are recorded one after the other or all together. -/
theorem record_record (l : Ledger) (h os : List Outcome) :
    (l.record h).record os = l.record (h ++ os) := by
  simp [Ledger.record]

/-- No outcome leaves the ledger as it is. -/
@[simp] theorem record_nil (l : Ledger) : l.record [] = l := rfl

/-- A ledger answers with the last outcome that was reported about a device. -/
theorem outcome?_record_empty (correlationId : Option String) (h : List Outcome) (token : String) :
    ((Ledger.empty correlationId).record h).outcome? token =
      (latest h token).map (stamped correlationId) := by
  simp only [Ledger.outcome?, Ledger.record, Ledger.empty, List.append_nil, latest,
    ← List.map_reverse, List.find?_map]
  rfl

/-- A ledger takes a device as reached if its last outcome is a success. -/
theorem isReached_record_empty (correlationId : Option String) (h : List Outcome)
    (token : String) :
    ((Ledger.empty correlationId).record h).isReached token = (latest h token).any (·.success) := by
  rw [Ledger.isReached, outcome?_record_empty]
  cases latest h token <;> rfl

/-- A ledger of steady outcomes takes exactly those devices as reached that were. -/
theorem Steady.isReached_iff {h : List Outcome} (hs : Steady h) (correlationId : Option String)
    (token : String) :
    ((Ledger.empty correlationId).record h).isReached token = true ↔ Reached h token := by
  rw [isReached_record_empty, Option.any_eq_true]
  constructor
  · rintro ⟨o, ho, hsucc⟩
    obtain ⟨hm, ht⟩ := mem_of_latest ho
    exact ⟨o, hm, ht, hsucc⟩
  · rintro ⟨o, ho, rfl, hsucc⟩
    exact ⟨o, hs o ho hsucc, hsucc⟩

end PushDelivery.Delivery
