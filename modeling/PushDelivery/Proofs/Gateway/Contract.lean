import Mathlib.Data.List.Forall2
import PushDelivery.Gateway.Client
import PushDelivery.Proofs.Delivery.Batches

/-!
# What the Gateway Promises

A delivery relies on the replies of the gateway: either the request failed as a whole, or there is
one outcome for each device of the request, in order. The gateway itself promises less. Its reply is
a document with a list of verdicts, which may be missing or null, or of any length. This module
states what such a document is without the reader, field by field, and shows that the client makes
the promise good for every reply: only a list that fits the devices reaches any of them, and then
each device has the verdict in its place.

## Main definitions

* `Document.IsVerdict`, `Document.IsAnswer`: the documents that are decoded.
* `Gateway.Fails`: the replies by which a request fails as a whole.
* `Gateway.SaysReached`: the replies that say of a device that it was reached.
* `Gateway.ReadFromReply`: the exchanges of a delivery over the client.

## Main results

* `Gateway.isSome_verdicts?`: the documents that are decoded are answers.
* `Gateway.readSendMany_contract`: what the client makes of every reply.
* `Gateway.faithful_of_readFromReply`: deliveries over the client can rely on it.
-/

namespace PushDelivery

/-! ### The documents of replies -/

namespace Document

/-- What may be left out or null, and is of some kind otherwise. -/
def Optionally (kind : Document → Prop) : Option Document → Prop
  | none | some .null => True
  | some d => kind d

/-- A string with a text. -/
def IsText (d : Document) : Prop := ∃ s, d = .str (some s)

/-- A list of documents of some kind. -/
def IsListOf (kind : Document → Prop) (d : Document) : Prop :=
  ∃ items, d = .arr items ∧ ∀ item ∈ items, kind item

/-- A record of a verdict, by name or by position: whether the device was reached, and perhaps the
texts of a message id and of an error. -/
def IsVerdict (d : Document) : Prop :=
  ∃ f, d.record? Gateway.Verdict.names = some f ∧
    (∃ b, f.given.lookup "success" = some (.bool b)) ∧
    Optionally IsText (f.given.lookup "message_id") ∧
    Optionally IsText (f.given.lookup "error")

/-- A record that says of its device that it was reached. -/
def SaysSuccess (d : Document) : Prop :=
  ∃ f, d.record? Gateway.Verdict.names = some f ∧ f.given.lookup "success" = some (.bool true)

/-- What a record holds as its list of responses. -/
def responses? (d : Document) : Option Document :=
  (d.record? ["responses"]).bind (·.given.lookup "responses")

/-- A record that may hold a list of verdicts. -/
def IsAnswer (d : Document) : Prop :=
  ∃ f, d.record? ["responses"] = some f ∧
    Optionally (IsListOf IsVerdict) (f.given.lookup "responses")

/-- Two kinds that are the same make no difference. -/
theorem optionally_congr {kind kind' : Document → Prop} (h : ∀ d, kind d ↔ kind' d)
    (d : Option Document) : Optionally kind d ↔ Optionally kind' d := by
  have same : kind = kind' := funext fun d => propext (h d)
  rw [same]

theorem isSome_text? (d : Document) : d.text?.isSome ↔ d.IsText := by
  cases d with
  | str s => cases s <;> simp [text?, IsText]
  | _ => simp [text?, IsText]

theorem isSome_bool? (d : Document) : d.bool?.isSome ↔ ∃ b, d = .bool b := by
  cases d <;> simp [bool?]

/-- A list is decoded item by item. -/
theorem mapM_eq_some_iff {α : Type} {part : Document → Option α} {items : List Document}
    {vs : List α} :
    items.mapM part = some vs ↔ List.Forall₂ (fun item v => part item = some v) items vs := by
  induction items generalizing vs with
  | nil => simp [eq_comm]
  | cons item rest ih =>
      simp only [List.mapM_cons, Option.bind_eq_bind, Option.bind_eq_some_iff, Option.pure_def,
        Option.some.injEq, List.forall₂_cons_left_iff, ih]
      constructor
      · rintro ⟨v, hv, more, hmore, rfl⟩
        exact ⟨v, more, hv, hmore, rfl⟩
      · rintro ⟨v, more, hv, hmore, rfl⟩
        exact ⟨v, hv, more, hmore, rfl⟩

theorem isSome_mapM {α : Type} (part : Document → Option α) (items : List Document) :
    (items.mapM part).isSome ↔ ∀ item ∈ items, (part item).isSome := by
  induction items with
  | nil => simp
  | cons item rest ih =>
      rw [List.forall_mem_cons, ← ih, List.mapM_cons]
      cases part item <;> cases rest.mapM part <;> simp

theorem isSome_list? {α : Type} (part : Document → Option α) (d : Document) :
    (d.list? part).isSome ↔ d.IsListOf fun item => (part item).isSome := by
  cases d with
  | arr items => simp [list?, IsListOf, isSome_mapM]
  | _ => simp [list?, IsListOf]

end Document

namespace Fields

variable {α : Type}

/-- A field that has to be given can be read if it is given and can be read. -/
theorem isSome_required (f : Fields) (name : String) (read : Document → Option α) :
    (f.required name read).isSome ↔ ∃ d, f.given.lookup name = some d ∧ (read d).isSome := by
  rw [required]
  cases f.given.lookup name <;> simp

/-- A field that may be null or not given can be read unless it is given, not null, and cannot be
read. -/
theorem isSome_optional (f : Fields) (name : String) (read : Document → Option α) :
    (f.optional name read).isSome ↔
      Document.Optionally (fun d => (read d).isSome) (f.given.lookup name) := by
  rw [optional]
  cases f.given.lookup name with
  | none => simp [Document.Optionally]
  | some d => cases d <;> simp [Document.Optionally]

end Fields

namespace Gateway

/-! ### Decoding -/

/-- The documents that are decoded as verdicts. -/
theorem Verdict.isSome_ofDocument? (d : Document) :
    (Verdict.ofDocument? d).isSome ↔ d.IsVerdict := by
  have success : ∀ f : Fields, (f.required "success" Document.bool?).isSome ↔
      ∃ b, f.given.lookup "success" = some (.bool b) := fun f => by
    rw [Fields.isSome_required]
    simp [Document.isSome_bool?]
    grind
  have text : ∀ (f : Fields) (name : String), (f.optional name Document.text?).isSome ↔
      Document.Optionally Document.IsText (f.given.lookup name) := fun f name =>
    (f.isSome_optional name _).trans (Document.optionally_congr Document.isSome_text? _)
  rw [Verdict.ofDocument?, Document.IsVerdict]
  cases d.record? names with
  | none => simp
  | some f =>
      simp only [Option.bind_eq_bind, Option.bind_some, Option.some.injEq, exists_eq_left',
        ← success, ← text]
      cases f.required "success" Document.bool? <;>
        cases f.optional "message_id" Document.text? <;>
        cases f.optional "error" Document.text? <;> simp

/-- A verdict says what its record says. -/
theorem Verdict.success_iff {d : Document} {v : Verdict} (h : Verdict.ofDocument? d = some v) :
    v.success = true ↔ d.SaysSuccess := by
  simp only [Verdict.ofDocument?, Option.bind_eq_bind, Option.bind_eq_some_iff, Option.pure_def,
    Option.some.injEq] at h
  obtain ⟨f, hf, success, hsuccess, -, -, -, -, rfl⟩ := h
  obtain ⟨field, hfield, hread⟩ := Option.bind_eq_some_iff.mp hsuccess
  cases field with
  | bool b =>
      obtain rfl : b = success := Option.some.inj hread
      simp [Document.SaysSuccess, hf, hfield]
  | _ => cases hread

/-- The documents that are decoded as answers. -/
theorem isSome_verdicts? (d : Document) : (verdicts? d).isSome ↔ d.IsAnswer := by
  rw [verdicts?, Document.IsAnswer]
  cases d.record? ["responses"] with
  | none => simp
  | some f =>
      simp only [Option.bind_eq_bind, Option.bind_some, Option.some.injEq, exists_eq_left']
      rw [Fields.isSome_optional]
      refine Document.optionally_congr (fun d => ?_) _
      rw [Document.isSome_list?]
      simp only [Verdict.isSome_ofDocument?]

/-- An answer with verdicts has a list of responses, which are decoded one by one. -/
theorem exists_responses {d : Document} {vs : List Verdict} (h : verdicts? d = some (some vs)) :
    ∃ items, d.responses? = some (.arr items) ∧
      List.Forall₂ (fun item v => Verdict.ofDocument? item = some v) items vs := by
  simp only [verdicts?, Option.bind_eq_bind, Option.bind_eq_some_iff] at h
  obtain ⟨f, hf, h⟩ := h
  rw [Document.responses?, hf, Option.bind_some]
  rw [Fields.optional] at h
  split at h
  · cases h
  · cases h
  · rename_i responses _ heq
    obtain ⟨vs', hvs, hsome⟩ := Option.map_eq_some_iff.mp h
    obtain rfl := Option.some.inj hsome
    cases responses with
    | arr items => exact ⟨items, heq, Document.mapM_eq_some_iff.mp hvs⟩
    | _ => cases hvs

/-- An answer without verdicts has no list of responses. -/
theorem responses?_ne_arr {d : Document} (h : verdicts? d = some none) (items : List Document) :
    d.responses? ≠ some (.arr items) := by
  intro hitems
  simp only [verdicts?, Option.bind_eq_bind, Option.bind_eq_some_iff] at h
  obtain ⟨f, hf, h⟩ := h
  rw [Document.responses?, hf, Option.bind_some] at hitems
  rw [Fields.optional, hitems] at h
  obtain ⟨vs, -, hsome⟩ := Option.map_eq_some_iff.mp h
  cases hsome

/-! ### What a reply says -/

/-- The document in the body of a reply. -/
def document? (r : Http.Reply) : Option Document := Document.read? (Text.Utf8.cells r.body)

/-- A status by which a gateway refuses a request. -/
def Refuses (r : Http.Reply) : Prop := 400 ≤ r.status ∧ r.status ≤ 499

/-- How a request fails as a whole: there is no reply; the gateway cannot work or wants fewer
requests; or the reply is no refusal and is not decoded. -/
def Fails : Except Http.Outage Http.Reply → Prop
  | .error _ => True
  | .ok r => (500 ≤ r.status ∧ r.status ≤ 599) ∨ r.status = 429 ∨
      ¬ Refuses r ∧ ¬ ∃ d, document? r = some d ∧ d.IsAnswer

/-- A reply that is no refusal says of the device at an index of a number of devices that it was
reached: it has a response for each device, and the one at the index says so. -/
def SaysReached (reply : Except Http.Outage Http.Reply) (devices index : Nat) : Prop :=
  ∃ r d items item, reply = .ok r ∧ ¬ Refuses r ∧ document? r = some d ∧
    d.responses? = some (.arr items) ∧ items.length = devices ∧ items[index]? = some item ∧
    item.SaysSuccess

theorem isRefusal_iff {r : Http.Reply} : r.isRefusal = true ↔ Refuses r := by
  simp only [Http.Reply.isRefusal, Refuses, Bool.and_eq_true, decide_eq_true_eq]
  omega

theorem isUnable_iff {r : Http.Reply} :
    r.isUnable = true ↔ (500 ≤ r.status ∧ r.status ≤ 599) ∨ r.status = 429 := by
  simp only [Http.Reply.isUnable, Bool.or_eq_true, Bool.and_eq_true, decide_eq_true_eq, beq_iff_eq]
  omega

/-- A request with a reply fails if the gateway is unable, or if the reply is no refusal and is not
decoded. -/
theorem fails_ok_iff {r : Http.Reply} : Fails (.ok r) ↔ r.isUnable = true ∨
    r.isRefusal = false ∧ (document? r).bind verdicts? = none := by
  have decoded : (∃ d, document? r = some d ∧ d.IsAnswer) ↔
      ((document? r).bind verdicts?).isSome := by
    cases document? r <;> simp [isSome_verdicts?]
  rw [Fails, decoded, ← isRefusal_iff, isUnable_iff, Bool.not_eq_true, or_assoc, Bool.not_eq_true,
    Option.isSome_eq_false_iff, Option.isNone_iff_eq_none]

/-! ### The outcomes -/

/-- Devices that were not reached keep their places. -/
theorem map_deviceToken_failed (tokens : List String) (reason : String) (now : Moment) :
    (tokens.map (Outcome.failed · reason now)).map (·.deviceToken) = tokens := by
  simp [Outcome.failed, Function.comp_def]

/-- A verdict is about its device, and the outcome is that of the verdict. -/
theorem Verdict.outcome_eq (v : Verdict) (token : String) (now : Moment) :
    (v.outcome token now).deviceToken = token ∧ (v.outcome token now).success = v.success := by
  rw [Verdict.outcome]
  cases h : v.success <;> exact ⟨rfl, rfl⟩

/-- There is one outcome for each device, in order. -/
theorem map_deviceToken_outcomes (tokens : List String) (now : Moment)
    (verdicts : Option (List Verdict)) :
    (outcomes tokens now verdicts).map (·.deviceToken) = tokens := by
  unfold outcomes
  split
  · rename_i vs
    split
    · rename_i fits
      refine List.ext_getElem (by simp [fits]) fun i _ _ => ?_
      simp [(Verdict.outcome_eq _ _ now).1]
    · exact map_deviceToken_failed tokens mismatch now
  · exact map_deviceToken_failed tokens mismatch now

/-- A device was reached if there is one verdict for each device and the one in its place says
so. -/
theorem success_outcomes_iff {tokens : List String} {now : Moment}
    {verdicts : Option (List Verdict)} {i : Nat} {o : Outcome}
    (h : (outcomes tokens now verdicts)[i]? = some o) :
    o.success = true ↔
      ∃ vs v, verdicts = some vs ∧ vs.length = tokens.length ∧ vs[i]? = some v ∧
        v.success = true := by
  have failed : ∀ {reason : String}, (tokens.map (Outcome.failed · reason now))[i]? = some o →
      o.success = false := fun {reason} h => by
    obtain ⟨t, -, rfl⟩ := List.mem_map.mp (List.mem_of_getElem? h)
    rfl
  unfold outcomes at h
  split at h
  · rename_i vs
    split at h
    · rename_i fits
      obtain ⟨v, t, hv, -, rfl⟩ := List.getElem?_zipWith_eq_some.mp h
      rw [(v.outcome_eq t now).2]
      simp [fits, hv]
    · rename_i misfit
      simp [failed h, misfit]
  · simp [failed h]

/-- What a decoded reply says of its devices is what its responses say in their places. -/
theorem saysReached_iff {r : Http.Reply} {d : Document} {verdicts : Option (List Verdict)}
    (answers : ¬ Refuses r) (read : document? r = some d)
    (decoded : verdicts? d = some verdicts) (devices index : Nat) :
    SaysReached (.ok r) devices index ↔
      ∃ vs v, verdicts = some vs ∧ vs.length = devices ∧ vs[index]? = some v ∧
        v.success = true := by
  constructor
  · rintro ⟨r', d', items, item, hr, -, hd, hitems, hlen, hitem, said⟩
    obtain rfl := Except.ok.inj hr
    obtain rfl := Option.some.inj (read.symm.trans hd)
    cases verdicts with
    | none => exact absurd hitems (responses?_ne_arr decoded items)
    | some vs =>
        obtain ⟨items', hitems', each⟩ := exists_responses decoded
        rw [hitems', Option.some.injEq, Document.arr.injEq] at hitems
        subst hitems
        have hi : index < vs.length := by
          rw [← each.length_eq]
          exact (List.getElem?_eq_some_iff.mp hitem).1
        refine ⟨vs, vs[index], rfl, each.length_eq.symm.trans hlen, List.getElem?_eq_getElem hi, ?_⟩
        obtain ⟨hi', rfl⟩ := List.getElem?_eq_some_iff.mp hitem
        exact (Verdict.success_iff (each.get hi' hi)).mpr said
  · rintro ⟨vs, v, rfl, hlen, hv, success⟩
    obtain ⟨items, hitems, each⟩ := exists_responses decoded
    obtain ⟨hi, rfl⟩ := List.getElem?_eq_some_iff.mp hv
    have hi' : index < items.length := by rwa [each.length_eq]
    exact ⟨r, d, items, items[index], rfl, answers, read, hitems, each.length_eq.trans hlen,
      List.getElem?_eq_getElem hi', (Verdict.success_iff (each.get hi' hi)).mp success⟩

/-- A request that does not fail has one outcome for each device, and a device was reached if the
reply says so. -/
theorem readSendMany_of_not_fails (tokens : List String) (now : Moment) {r : Http.Reply}
    (answered : ¬ Fails (.ok r)) :
    ∃ os, readSendMany tokens now (.ok r) = .ok os ∧
      os.map (·.deviceToken) = tokens.map Text.trim ∧
      ∀ i o, os[i]? = some o → (o.success = true ↔ SaysReached (.ok r) tokens.length i) := by
  rw [fails_ok_iff, not_or, Bool.not_eq_true] at answered
  obtain ⟨able, answered⟩ := answered
  cases refused : r.isRefusal with
  | true =>
      refine ⟨_, by simp only [readSendMany, read, able, refused]; rfl,
        map_deviceToken_failed _ _ now, fun i o h => ?_⟩
      obtain ⟨t, -, rfl⟩ := List.mem_map.mp (List.mem_of_getElem? h)
      refine ⟨nofun, ?_⟩
      rintro ⟨r', -, -, -, hr, answers, -⟩
      obtain rfl := Except.ok.inj hr
      exact absurd (isRefusal_iff.mp refused) answers
  | false =>
      obtain ⟨verdicts, hv⟩ := Option.ne_none_iff_exists'.mp fun h => answered ⟨refused, h⟩
      obtain ⟨d, hd, decoded⟩ := Option.bind_eq_some_iff.mp hv
      have ok : readSendMany tokens now (.ok r) =
          .ok (outcomes (tokens.map Text.trim) now verdicts) := by
        rw [document?] at hd
        simp [readSendMany, read, able, refused, hd, decoded]
      have answers : ¬ Refuses r := fun h => by simp [isRefusal_iff.mpr h] at refused
      refine ⟨_, ok, map_deviceToken_outcomes _ now verdicts, fun i o h => ?_⟩
      rw [success_outcomes_iff h, saysReached_iff answers hd decoded, List.length_map]

/-- A request that fails has an error. -/
theorem readSendMany_of_fails (tokens : List String) (now : Moment)
    {reply : Except Http.Outage Http.Reply} (fails : Fails reply) :
    ∃ e, readSendMany tokens now reply = .error e := by
  cases reply with
  | error outage => exact ⟨_, rfl⟩
  | ok r =>
      rcases fails_ok_iff.mp fails with unable | ⟨answers, undecoded⟩
      · exact ⟨_, by simp only [readSendMany, read, unable]; rfl⟩
      · cases able : r.isUnable with
        | true => exact ⟨_, by simp only [readSendMany, read, able]; rfl⟩
        | false =>
            have nothing : (Document.read? (Text.Utf8.cells r.body)).bind (fun d =>
                (verdicts? d).map (outcomes (tokens.map Text.trim) now)) = none := by
              cases hd : Document.read? (Text.Utf8.cells r.body) with
              | none => rfl
              | some d =>
                  rw [document?, hd, Option.bind_some] at undecoded
                  rw [Option.bind_some, undecoded, Option.map_none]
            exact ⟨unreadable, by simp [readSendMany, read, able, answers, nothing]⟩

/-- **What the client makes of a reply.** Whatever the reply to a request for some devices is,
either the request fails, which it does exactly if there is no reply, if the gateway is unable or
wants fewer requests, or if the reply is no refusal and is not decoded; or there is exactly one
outcome for each device, in their order and with the token that was sent. A device was reached if
and only if the reply is no refusal, has as many responses as there are devices, and the response in
the place of the device says so. So none is reached by a refusal, and none by a reply whose list of
responses is missing, null, or of another length. -/
theorem readSendMany_contract (tokens : List String) (now : Moment)
    (reply : Except Http.Outage Http.Reply) :
    match readSendMany tokens now reply with
    | .error _ => Fails reply
    | .ok os => ¬ Fails reply ∧ os.map (·.deviceToken) = tokens.map Text.trim ∧
        (∀ i o, os[i]? = some o → (o.success = true ↔ SaysReached reply tokens.length i)) ∧
        ((∀ r d items, reply = .ok r → document? r = some d → d.responses? = some (.arr items) →
            Refuses r ∨ items.length ≠ tokens.length) → ∀ o ∈ os, o.success = false) := by
  by_cases fails : Fails reply
  · obtain ⟨e, he⟩ := readSendMany_of_fails tokens now fails
    rw [he]
    exact fails
  · cases reply with
    | error outage => exact absurd trivial fails
    | ok r =>
        obtain ⟨os, ok, same, reached⟩ := readSendMany_of_not_fails tokens now fails
        rw [ok]
        refine ⟨fails, same, reached, fun misfits o ho => ?_⟩
        obtain ⟨i, hi⟩ := List.getElem?_of_mem ho
        rw [Bool.eq_false_iff, Ne, reached i o hi]
        rintro ⟨r', d, items, -, hr, answers, hd, hitems, fits, -⟩
        exact (misfits r' d items hr hd hitems).elim answers fun misfit => misfit fits

/-- A reply with three verdicts, two of them by position. -/
def threeVerdicts : Http.Reply where
  status := 200
  body := Text.Utf8.octets
    ("\x7b\"responses\": [\x7b\"success\": true, \"message_id\": null\x7d, " ++
      "[false, null, \"unregistered\"], [true]]\x7d")

/-- The number of its responses. -/
theorem length_threeVerdicts {d : Document} {items : List Document}
    (read : document? threeVerdicts = some d) (list : d.responses? = some (.arr items)) :
    items.length = 3 := by
  have length : ((document? threeVerdicts).bind (·.responses?)).bind
      (Document.list? fun _ => some ()) = some [(), (), ()] := by decide +kernel
  rw [read, Option.bind_some, list, Option.bind_some] at length
  have same := (Document.mapM_eq_some_iff.mp length).length_eq
  exact same

/-- Three devices have the verdicts in their places, and of two devices none is reached. -/
theorem readSendMany_contract_three :
    (∃ os, readSendMany [" a ", "b", "c"] default (.ok threeVerdicts) = .ok os ∧
      os.map (·.deviceToken) = ["a", "b", "c"] ∧ os.map (·.success) = [true, false, true] ∧
      SaysReached (.ok threeVerdicts) 3 2) ∧
    ∃ os, readSendMany [" a ", "b"] default (.ok threeVerdicts) = .ok os ∧
      os.map (·.deviceToken) = ["a", "b"] ∧ ∀ o ∈ os, o.success = false := by
  constructor
  · have contract := readSendMany_contract [" a ", "b", "c"] default (.ok threeVerdicts)
    have ok : readSendMany [" a ", "b", "c"] default (.ok threeVerdicts) = .ok
        [.delivered "a" "" default, .failed "b" "unregistered" default,
          .delivered "c" "" default] := by decide +kernel
    rw [ok] at contract
    obtain ⟨-, tokens, reached, -⟩ := contract
    exact ⟨_, ok, tokens, rfl, (reached 2 _ rfl).mp rfl⟩
  · have contract := readSendMany_contract [" a ", "b"] default (.ok threeVerdicts)
    have ok : readSendMany [" a ", "b"] default (.ok threeVerdicts) = .ok
        [.failed "a" mismatch default, .failed "b" mismatch default] := by decide +kernel
    rw [ok] at contract
    obtain ⟨-, tokens, -, misfit⟩ := contract
    refine ⟨_, ok, tokens, misfit fun r d items hr read list => .inr ?_⟩
    obtain rfl := Except.ok.inj hr
    rw [length_threeVerdicts read list]
    decide

/-! ### Deliveries over the client -/

open Delivery (interface Faithful targets)
open Run (Exchange Exchanges)

/-- The answer to a push is what the client makes of some reply. -/
def ReadFromReply : Exchange interface → Prop
  | ⟨.send token _, answer⟩ => ∃ now reply, answer = readSend token now reply
  | ⟨.sendMany tokens _, answer⟩ => ∃ now reply, answer = readSendMany tokens now reply
  | _ => True

/-- What is read off a reply is what a refusal says, or what some document does. -/
theorem read_eq_ok {α : Type} {reply : Except Http.Outage Http.Reply} {refused : String → α}
    {answer : Document → Option α} {a : α} (ok : read reply refused answer = .ok a) :
    (∃ reason, refused reason = a) ∨ ∃ d, answer d = some a := by
  cases reply with
  | error outage => cases ok
  | ok r =>
      simp only [read] at ok
      split_ifs at ok with able refusal
      · exact .inl ⟨_, Except.ok.inj ok⟩
      · split at ok
        · next said =>
            obtain ⟨d, -, said⟩ := Option.bind_eq_some_iff.mp said
            exact .inr ⟨d, Except.ok.inj ok ▸ said⟩
        · cases ok

/-- The outcome of a single device is that of its token, without the blanks around it. -/
theorem deviceToken_of_readSend {token : String} {now : Moment}
    {reply : Except Http.Outage Http.Reply} {o : Outcome} (ok : readSend token now reply = .ok o) :
    o.deviceToken = Text.trim token := by
  simp only [readSend] at ok
  rcases read_eq_ok ok with ⟨reason, rfl⟩ | ⟨d, said⟩
  · rfl
  · obtain ⟨v, -, rfl⟩ := Option.map_eq_some_iff.mp said
    exact (v.outcome_eq _ now).1

/-- The outcomes of several devices are those of their tokens, without the blanks around them. -/
theorem deviceTokens_of_readSendMany {tokens : List String} {now : Moment}
    {reply : Except Http.Outage Http.Reply} {os : List Outcome}
    (ok : readSendMany tokens now reply = .ok os) :
    os.map (·.deviceToken) = tokens.map Text.trim := by
  simp only [readSendMany] at ok
  rcases read_eq_ok ok with ⟨reason, rfl⟩ | ⟨d, said⟩
  · exact map_deviceToken_failed _ reason now
  · obtain ⟨verdicts, -, rfl⟩ := Option.map_eq_some_iff.mp said
    exact map_deviceToken_outcomes _ now verdicts

/-- **Deliveries over the client** have faithful answers, whatever the replies are: the devices of
their pushes are trimmed already. -/
theorem faithful_of_readFromReply {c : Courier} {job : Job} {es : List (Exchange interface)}
    {res : Except DeliveryError Unit × Job} (run : Exchanges (c.process job) es res)
    (replies : ∀ e ∈ es, ReadFromReply e) : ∀ e ∈ es, Faithful e := by
  rintro ⟨r, answer⟩ he
  have trimmed : ∀ token ∈ targets ⟨r, answer⟩, Text.trim token = token := fun token ht =>
    (Delivery.trim_of_mem_targets run he ht).1
  cases r with
  | send token content =>
      obtain ⟨now, reply, rfl⟩ := replies _ he
      cases ok : readSend token now reply with
      | error e => trivial
      | ok o => exact (deviceToken_of_readSend ok).trans (trimmed token (List.mem_singleton_self _))
  | sendMany tokens content =>
      obtain ⟨now, reply, rfl⟩ := replies _ he
      cases ok : readSendMany tokens now reply with
      | error e => trivial
      | ok os =>
          have same : tokens.map Text.trim = tokens :=
            (List.map_congr_left trimmed).trans (List.map_id' tokens)
          exact (deviceTokens_of_readSendMany ok).trans same
  | _ => trivial

end Gateway

end PushDelivery
