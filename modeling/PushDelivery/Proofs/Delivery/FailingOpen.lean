import PushDelivery.Delivery.Scene
import PushDelivery.Proofs.Delivery.Outages
import PushDelivery.Proofs.Guard.Agreement

/-!
# Failing Open

A delivery over a store that is offline goes on as one over a store that is online and empty. The
first is answered by failures, which it lets pass, and the second by counts and lookups that let it
pass, so that both come to the same result and leave the same scene, but for what the guard keeps:
the store itself, and the number of failures that were let pass.

The comparison is a frame argument. A part of a delivery that asks nothing of the guard does the
same in two scenes that differ only in what the guard keeps. The three decisions of the guard are
the other parts, and each of them is played over both stores.

A store in memory cannot compute an expiry that the clock does not reach, and an online store that
is asked for one crashes the delivery, while an offline one refuses the operation before. So the end
of the window and the expiry of the marker have to be within the reach of the clock.

## Main definitions

* `Scene.unguarded`: a scene without what the guard keeps.
* `Scene.EndAlike`: ends of deliveries that differ in what the guard keeps at most.

## Main results

* `Scene.play_bind`: deliveries in a row are played one after the other.
* `Scene.play_beside`: what asks nothing of the guard does not depend on what the guard keeps.
* `Scene.endAlike_process`: a delivery over an offline store and one over an empty one.
* `Delivery.fails_open`: a delivery comes to the same whether the store fails or lets it pass.
-/

namespace PushDelivery

open Delivery (Request guarded request dispatch)
open Run (OnlyAsks)

/-- Whether a request is made to the guard. -/
def Delivery.Request.isGuard : Request → Bool
  | .guard _ => true
  | _ => false

namespace Scene

variable {α β : Type} {cancelAt : Option Instant}

/-! ### What the guard keeps -/

/-- A scene with another store, and other failures that were let pass. -/
def beside (s : Scene) (store : Store) (errors : Tally) : Scene :=
  { s with store, metrics := { s.metrics with guardErrors := errors } }

/-- A scene without what the guard keeps. -/
def unguarded (s : Scene) : Scene := s.beside {} []

/-- Two scenes that differ only in what the guard keeps. -/
theorem eq_beside {s s' : Scene} (same : s.unguarded = s'.unguarded) :
    s' = s.beside s'.store s'.metrics.guardErrors := by
  change s'.unguarded.beside s'.store s'.metrics.guardErrors = _
  rw [← same]
  rfl

/-- The breaker changes alike, whatever the guard keeps. -/
theorem setBreaker_beside (s : Scene) (store : Store) (errors : Tally) (b : Breaker) :
    (s.beside store errors).setBreaker b = (s.setBreaker b).beside store errors := by
  by_cases kept : b.circuit = s.breaker.circuit
  · have kept' : b.circuit = (s.beside store errors).breaker.circuit := kept
    rw [setBreaker, setBreaker, if_pos kept, if_pos kept']
    rfl
  · have changed : b.circuit ≠ (s.beside store errors).breaker.circuit := kept
    rw [setBreaker, setBreaker, if_neg kept, if_neg changed]
    rfl

/-- It admits alike. -/
theorem permit_beside (s : Scene) (store : Store) (errors : Tally) :
    (s.beside store errors).permit = (s.permit.1, s.permit.2.beside store errors) := by
  cases asked : s.breaker.permit s.breakerConfig s.now with
  | mk admitted b =>
      have asked' : (s.beside store errors).breaker.permit (s.beside store errors).breakerConfig
          (s.beside store errors).now = (admitted, b) := asked
      rw [permit, permit, asked', asked]
      dsimp only
      rw [setBreaker_beside]
      cases admitted <;> rfl

/-- The answer to a request that is not made to the guard does not depend on what the guard keeps,
and the request changes nothing of that. -/
theorem perform_beside (s : Scene) (store : Store) (errors : Tally) {r : Request}
    (apart : r.isGuard = false) :
    (s.beside store errors).perform r =
      ((s.perform r).1, (s.perform r).2.beside store errors) := by
  cases r with
  | guard => cases apart
  | permit => rw [perform, perform, permit_beside]
  | settle success => exact congrArg (Prod.mk _) (setBreaker_beside ..)
  | note event => cases event <;> rfl
  | now | template | send | sendMany | pause | publish => rfl

/-- **What asks nothing of the guard** does the same whatever the guard keeps, and changes nothing
of it. -/
theorem play_beside {run : Run Delivery.interface α}
    (apart : OnlyAsks (fun r : Request => r.isGuard = false) run) (s : Scene) (store : Store)
    (errors : Tally) :
    play cancelAt run (s.beside store errors) =
      ((play cancelAt run s).1, (play cancelAt run s).2.beside store errors) := by
  induction run generalizing s with
  | done a => rfl
  | ask r next ih =>
      obtain ⟨first, more⟩ := apart
      rw [play, play, perform_beside s store errors first]
      cases s.perform r with
      | mk response t =>
          cases response with
          | now answer => exact ih answer (more answer) t
          | later due answer => exact ih answer (more answer) (t.moveTo cancelAt due)
          | pausing due answer => exact ih _ (more _) (t.moveTo cancelAt _)
          | crash | crashLater => rfl

/-- It leaves the store as it is. -/
theorem store_play {run : Run Delivery.interface α}
    (apart : OnlyAsks (fun r : Request => r.isGuard = false) run) (s : Scene) :
    (play cancelAt run s).2.store = s.store :=
  congrArg (·.2.store) (play_beside apart s s.store s.metrics.guardErrors)

/-- Two runs in a row are played one after the other, unless the first one crashes. -/
theorem play_bind (run : Run Delivery.interface α) (f : α → Run Delivery.interface β) (s : Scene) :
    play cancelAt (run >>= f) s =
      match play cancelAt run s with
      | (some a, t) => play cancelAt (f a) t
      | (none, t) => (none, t) := by
  induction run generalizing s with
  | done a => rfl
  | ask r next ih =>
      change play cancelAt (.ask r fun answer => next answer >>= f) s = _
      rw [play, play]
      cases s.perform r with
      | mk response t =>
          cases response with
          | now answer => exact ih answer t
          | later due answer => exact ih answer _
          | pausing due answer => exact ih _ _
          | crash | crashLater => rfl

variable {s : Scene}

/-- An operation that the store answers is answered at once. -/
theorem play_operation {r : Guard.Request} {answer : r.Answer} {store : Store}
    (h : s.store.perform s.now r = (some answer, store))
    (operation : (Request.guard r).isLetPass = false)
    (next : r.Answer → Run Delivery.interface α) :
    play cancelAt (.ask (.guard r) next) s = play cancelAt (next answer) { s with store } := by
  have performed : s.perform (.guard r) = (.now answer, { s with store }) := by
    cases r with
    | letPass => cases operation
    | increment | lookup | write => simp only [perform, guard, h]
  rw [play, performed]

/-- What comes after a run that has come to its end. -/
theorem play_bind_of_play {run : Run Delivery.interface α} {a : α} {t : Scene}
    (h : play cancelAt run s = (some a, t)) (f : α → Run Delivery.interface β) :
    play cancelAt (run >>= f) s = play cancelAt (f a) t := by
  rw [play_bind, h]

/-! ### Decisions over an offline store -/

/-- A failure was let pass. -/
def letPass (s : Scene) (operation : GuardOperation) : Scene :=
  { s with metrics := s.metrics.noteLetPass operation }

/-- The rate of a user is within the limit. -/
theorem play_checkRate_offline (offline : s.store.offline = true) (g : Guard) (userId : String) :
    play cancelAt (guarded (g.checkRate userId)) s = (some .allowed, s.letPass .rateLimit) := by
  have refused : s.store.perform s.now (.increment (Guard.counterKey userId) g.window) =
      (some (.error Store.outage), s.store) := if_pos offline
  exact play_operation refused rfl _

/-- A job was not completed before. -/
theorem play_isDuplicate_offline (offline : s.store.offline = true) (jobId : String) :
    play cancelAt (guarded (Guard.isDuplicate jobId)) s =
      (some false, s.letPass .duplicateCheck) := by
  have refused : s.store.perform s.now (.lookup (Guard.markerKey jobId)) =
      (some (.error Store.outage), s.store) := by
    simp only [Store.perform, Store.lookup, if_pos offline]
  exact play_operation refused rfl _

/-- A job is not marked. -/
theorem play_markProcessed_offline (offline : s.store.offline = true) (jobId : String) :
    play cancelAt (guarded (Guard.markProcessed jobId)) s =
      (some (), s.letPass .markProcessed) := by
  have refused : s.store.perform s.now (.write (Guard.markerKey jobId) Guard.markerText
      Guard.markerTtl) = (some (.error Store.outage), s.store) := by
    simp only [Store.perform, Store.write, if_pos offline]
  exact play_operation refused rfl _

/-! ### Decisions over an online store -/

/-- The rate of a user is within the limit if nothing was counted before, and after that no job is
marked. -/
theorem play_checkRate_empty (cancelAt : Option Instant) (online : s.store.offline = false)
    (empty : s.store.entries = []) {g : Guard} (room : 1 ≤ g.limit)
    (reached : s.now + g.window < Instant.horizon) (userId jobId : String) :
    ∃ store : Store, play cancelAt (guarded (g.checkRate userId)) s =
        (some .allowed, { s with store }) ∧
      store.offline = false ∧ store.Distinct ∧
      store.item? s.now (Guard.markerKey jobId) = none := by
  have distinct : s.store.Distinct := by
    rw [Store.Distinct, empty]
    exact List.nodup_nil
  have fresh : ∀ key, s.store.item? s.now key = none := fun key => by
    rw [Store.item?, Store.entry?, empty]
    rfl
  have counted : s.store.perform s.now (.increment (Guard.counterKey userId) g.window) = _ :=
    Store.increment_new online distinct (fresh _) reached
  refine ⟨(s.store.recordWrite s.now).put (Guard.counterKey userId)
    ⟨.counter 1, g.window, s.now + g.window⟩, ?_,
    (Store.offline_recordWrite s.store s.now).trans online,
    (distinct.recordWrite s.now).put _ _, ?_⟩
  · refine (play_operation counted rfl _).trans ?_
    change (some (if g.limit < 1 then Guard.Decision.exceeded 1 g.limit else .allowed), _) = _
    rw [if_neg (Nat.not_lt.mpr room)]
  · rw [Store.item?_put (distinct.recordWrite s.now),
      if_neg (Delivery.counterKey_ne_markerKey userId jobId).symm,
      Store.item?_recordWrite distinct, fresh]

/-- A job was not completed before if it is not marked. -/
theorem play_isDuplicate_unmarked (cancelAt : Option Instant) (online : s.store.offline = false)
    (distinct : s.store.Distinct) {jobId : String}
    (unmarked : s.store.item? s.now (Guard.markerKey jobId) = none) :
    ∃ store : Store, play cancelAt (guarded (Guard.isDuplicate jobId)) s =
      (some false, { s with store }) ∧ store.offline = false := by
  obtain ⟨answered, -, -⟩ := Store.lookup_ok online distinct (Guard.markerKey jobId)
  rw [unmarked] at answered
  have found : s.store.perform s.now (.lookup (Guard.markerKey jobId)) =
      (some (.ok false), (s.store.lookup (Guard.markerKey jobId) s.now).2) :=
    Prod.ext (congrArg some answered) rfl
  exact ⟨_, play_operation found rfl _,
    (Store.offline_perform s.store s.now (.lookup (Guard.markerKey jobId))).trans online⟩

/-- A job is marked if the clock reaches the expiry of the marker. -/
theorem play_markProcessed_online (cancelAt : Option Instant) (online : s.store.offline = false)
    (reached : s.now + Guard.markerTtl < Instant.horizon) (jobId : String) :
    ∃ store : Store, play cancelAt (guarded (Guard.markProcessed jobId)) s =
      (some (), { s with store }) := by
  have written : s.store.perform s.now (.write (Guard.markerKey jobId) Guard.markerText
      Guard.markerTtl) = s.store.write (Guard.markerKey jobId) Guard.markerText Guard.markerTtl
        s.now := rfl
  exact ⟨_, play_operation (written.trans (Store.write_ok online reached _ _)) rfl _⟩

/-! ### Parts of deliveries -/

/-- Two deliveries have come to one result, and to scenes that differ in what the guard keeps at
most. -/
structure EndAlike (x y : Option α × Scene) : Prop where
  result : x.1 = y.1
  scene : x.2.unguarded = y.2.unguarded

/-- A part of a delivery that does the same over an offline store and an online one, if the clock
reaches the expiry of a marker that is written at its end. -/
def PassesAlike (cancelAt : Option Instant) (run : Run Delivery.interface α) : Prop :=
  ∀ s s' : Scene, s.unguarded = s'.unguarded → s.store.offline = true → s'.store.offline = false →
    (play cancelAt run s).2.now + Guard.markerTtl < Instant.horizon →
    EndAlike (play cancelAt run s') (play cancelAt run s)

namespace PassesAlike

/-- A result is a result over any store. -/
theorem done (a : α) : PassesAlike cancelAt (.done a) := fun _ _ same _ _ _ => ⟨rfl, same.symm⟩

/-- What asks nothing of the guard comes first. -/
theorem bind {run : Run Delivery.interface α}
    (apart : OnlyAsks (fun r : Request => r.isGuard = false) run)
    {f : α → Run Delivery.interface β} (more : ∀ a, PassesAlike cancelAt (f a)) :
    PassesAlike cancelAt (run >>= f) := by
  intro s s' same offline online near
  have offline' : (play cancelAt run s).2.store.offline = true := by rwa [store_play apart]
  have played : play cancelAt run s' = ((play cancelAt run s).1,
      (play cancelAt run s).2.beside s'.store s'.metrics.guardErrors) := by
    rw [eq_beside same]
    exact play_beside apart s _ _
  rw [play_bind] at near ⊢
  rw [play_bind, played]
  cases hp : play cancelAt run s with
  | mk result t =>
      rw [hp] at near offline'
      cases result with
      | none => exact ⟨rfl, rfl⟩
      | some a => exact more a t _ rfl offline' online near

/-- What comes last changes the result only. -/
theorem map {run : Run Delivery.interface α} (h : PassesAlike cancelAt run) (f : α → β) :
    PassesAlike cancelAt (run >>= fun a => .done (f a)) := by
  intro s s' same offline online near
  have ends : ∀ t, play cancelAt (run >>= fun a => .done (f a)) t =
      ((play cancelAt run t).1.map f, (play cancelAt run t).2) := fun t => by
    rw [play_bind]
    rcases play cancelAt run t with ⟨_ | a, u⟩ <;> rfl
  rw [ends] at near
  obtain ⟨result, scene⟩ := h s s' same offline online near
  rw [ends, ends]
  exact ⟨congrArg (Option.map f) result, scene⟩

/-- A request that is not made to the guard. -/
theorem onlyAsks_request {r : Request} (apart : r.isGuard = false) :
    OnlyAsks (fun r : Request => r.isGuard = false) (request r) :=
  ⟨apart, fun _ => trivial⟩

/-- The marker is the last thing that a delivery asks for. -/
theorem markProcessed (jobId : String) :
    PassesAlike cancelAt (guarded (Guard.markProcessed jobId)) := by
  intro s s' same offline online near
  rw [play_markProcessed_offline offline] at near ⊢
  have clock : s'.unguarded.now = s.unguarded.now := congrArg Scene.now same.symm
  obtain ⟨store, marked⟩ := play_markProcessed_online cancelAt online (clock.symm ▸ near) jobId
  rw [marked]
  exact ⟨rfl, same.symm⟩

/-- The end of a delivery. -/
theorem finish (job : Job) (report : Report) (elapsed : Duration) :
    PassesAlike cancelAt (Courier.finish job report elapsed) := by
  refine .bind (onlyAsks_request rfl) fun _ => .bind (onlyAsks_request rfl) fun _ => ?_
  split
  · exact .done ()
  · exact .markProcessed job.id

/-- A refusal. -/
theorem refuse (job : Job) (started : Instant) (message : String) (error : DeliveryError) :
    PassesAlike cancelAt (Courier.refuse job started message error) :=
  .bind (onlyAsks_request rfl) fun _ => (PassesAlike.finish job _ _).map _

/-- The delivery of a job that was cleared. -/
theorem deliver (c : Courier) (job : Job) (started : Instant) (content : Content) :
    PassesAlike cancelAt (c.deliver job started content) := by
  have dispatched : OnlyAsks (fun r : Request => r.isGuard = false)
      (dispatch c.retry c.breaker content job.validTokens job.correlationId job.attemptCount) := by
    refine Delivery.onlyAsks_dispatch (fun r within => ?_) _ _ _ _ _ _
    cases r with
    | guard => cases within
    | _ => rfl
  rw [Delivery.deliver_eq]
  exact .bind dispatched fun _ => .bind (onlyAsks_request rfl) fun _ =>
    (PassesAlike.finish _ _ _).map _

/-- The delivery of a job that is not known as completed. -/
theorem unmarked (c : Courier) (job : Job) (started : Instant) :
    PassesAlike cancelAt (c.unmarked job started) := by
  refine .bind (Delivery.onlyAsks_prepare (fun _ => rfl) job) fun prepared => ?_
  cases prepared with
  | error e => exact .refuse job started _ _
  | ok content => exact .deliver c job started content

end PassesAlike

/-! ### Deliveries -/

/-- The delivery of a job of a user within the limit: nothing in the store tells against it. -/
theorem endAlike_withinLimit (c : Courier) (job : Job) (started : Instant) {s s' : Scene}
    (same : s.unguarded = s'.unguarded) (offline : s.store.offline = true)
    (online : s'.store.offline = false) (distinct : s'.store.Distinct)
    (unmarked : s'.store.item? s'.now (Guard.markerKey job.id) = none)
    (near : (play cancelAt (c.withinLimit job started) s).2.now + Guard.markerTtl <
      Instant.horizon) :
    EndAlike (play cancelAt (c.withinLimit job started) s')
      (play cancelAt (c.withinLimit job started) s) := by
  unfold Courier.withinLimit at near ⊢
  cases problem : job.problem? with
  | some problem' =>
      rw [problem] at near
      exact PassesAlike.refuse job started _ _ s s' same offline online near
  | none =>
      obtain ⟨store, found, online'⟩ := play_isDuplicate_unmarked cancelAt online distinct unmarked
      rw [problem] at near
      dsimp only at near ⊢
      rw [play_bind_of_play (play_isDuplicate_offline offline _)] at near ⊢
      rw [play_bind_of_play found]
      exact PassesAlike.unmarked c job started _ _ same offline online' near

/-- **A delivery over an offline store** comes to the same as one over an online store that is
empty, whatever limit its guard keeps to, unless that allows nothing. -/
theorem endAlike_process (c : Courier) (job : Job) (g : Guard) {store : Store}
    (offline : s.store.offline = true) (online : store.offline = false)
    (empty : store.entries = []) (room : 1 ≤ g.limit)
    (reached : s.now + g.window < Instant.horizon)
    (near : (play cancelAt (c.process job) s).2.now + Guard.markerTtl < Instant.horizon) :
    EndAlike (play cancelAt (Courier.process { c with guard := g } job) { s with store })
      (play cancelAt (c.process job) s) := by
  let begun := s.note .received
  have passed : play cancelAt (c.process job) s =
      play cancelAt (c.withinLimit job s.now) (begun.letPass .rateLimit) := by
    rw [Courier.process_eq]
    have offline' : begun.store.offline = true := offline
    exact play_bind_of_play (play_checkRate_offline offline' c.guard job.userId) _
  obtain ⟨counted, allowed, online', distinct, unmarked⟩ :=
    play_checkRate_empty (s := { begun with store }) cancelAt online empty room reached job.userId
      job.id
  have answered : play cancelAt (Courier.process { c with guard := g } job) { s with store } =
      play cancelAt (c.withinLimit job s.now) { begun with store := counted } := by
    rw [Courier.process_eq]
    exact play_bind_of_play allowed _
  rw [passed] at near ⊢
  rw [answered]
  exact endAlike_withinLimit c job s.now rfl offline online' distinct unmarked near

end Scene

namespace Delivery

open Run (Exchange Exchanges AnswersAs)

/-- **The guard fails open.** A delivery whose store fails at some of its operations is compared to
one that is answered the same up to dates, but for these operations: a count that failed is one
within the limit, a lookup that failed finds nothing, and a marker that was not written is taken.
There is such a delivery. Every such delivery sends the same, asks and tells the breaker the same,
publishes the same report up to dates, and comes to the same result, with the same attempts spent on
the job. In particular a delivery over an offline store comes to the same as one over an online
store that is empty, under any guard that allows one request, as long as the clock reaches the end
of a window that begins with the delivery and the expiry of a marker that is written at its end. -/
theorem fails_open (c : Courier) (job : Job) :
    (∀ (es : List (Exchange interface)) (res : Except DeliveryError Unit × Job),
      Exchanges (c.process job) es res →
        (∃ es' res', Exchanges (c.process job) es' res' ∧
          AnswersAs Request.isLetPass SameRequest (Mends c.guard.limit) es es') ∧
        ∀ (es' : List (Exchange interface)) (res' : Except DeliveryError Unit × Job),
          Exchanges (c.process job) es' res' →
          AnswersAs Request.isLetPass SameRequest (Mends c.guard.limit) es es' →
            Mended c.guard.limit es es' ∧ es'.filterMap push? = es.filterMap push? ∧
            es'.filterMap consultation? = es.filterMap consultation? ∧
            (publications es').map Report.undated = (publications es).map Report.undated ∧
            res' = res) ∧
    ∀ (cancelAt : Option Instant) (s : Scene) (g : Guard) (store : Store),
      s.store.offline = true → store.offline = false → store.entries = [] → 1 ≤ g.limit →
      s.now + g.window < Instant.horizon →
      (Scene.play cancelAt (c.process job) s).2.now + Guard.markerTtl < Instant.horizon →
        Scene.EndAlike
          (Scene.play cancelAt (Courier.process { c with guard := g } job) { s with store })
          (Scene.play cancelAt (c.process job) s) := by
  constructor
  · intro es res run
    constructor
    · obtain ⟨es', res', run', mended, -⟩ :=
        (keeps_process c job).exists_exchanges exists_mends run
      exact ⟨es', res', run', .of_forall₂ mended⟩
    · intro es' res' run' answered
      obtain ⟨related, same⟩ := (keeps_process c job).exchanges run run' answered
      have mended : Mended c.guard.limit es es' := related
      exact ⟨mended, mended.pushes, mended.consultations, mended.reports, same.symm⟩
  · intro cancelAt s g store offline online empty room reached near
    exact Scene.endAlike_process c job g offline online empty room reached near

/-- Surroundings in which the gateway reaches every device, and the store of the guard is down. -/
def storeDown : (r : Request) → r.Answer
  | .now => (0 : Nat)
  | .guard (.increment ..) => .error Store.outage
  | .guard (.lookup _) => .error Store.outage
  | .guard (.write ..) => .error Store.outage
  | .guard (.letPass _) => ()
  | .template code => .error (.notFound code)
  | .permit => true
  | .settle _ => ()
  | .send token _ => .ok (.delivered token "m1" (.ofInstant (0 : Nat)))
  | .sendMany tokens _ => .ok (tokens.map fun t => .delivered t "m1" (.ofInstant (0 : Nat)))
  | .pause _ => .elapsed
  | .publish _ => true
  | .note _ => ()

/-- The same surroundings with a store that holds nothing. -/
def storeUp : (r : Request) → r.Answer
  | .guard (.increment ..) => .ok (1 : Nat)
  | .guard (.lookup _) => .ok false
  | .guard (.write ..) => .ok ()
  | r => storeDown r

/-- A store that is up mends what fails in one that is down. -/
theorem mends_storeDown {limit : Nat} (room : 1 ≤ limit) {r r' : Request}
    (asks : SameRequest r r') :
    Mends limit ⟨r, storeDown r⟩ ⟨r', storeUp r'⟩ := by
  cases asks with
  | publish same => exact .keep rfl (.publish same true)
  | finished status elapsed elapsed' => exact .keep rfl (.finished status elapsed elapsed')
  | same r =>
      cases r with
      | guard r =>
          cases r with
          | increment => exact .count room
          | lookup => exact .lookup
          | write => exact .write
          | letPass => exact .keep rfl (.same _)
      | _ => exact .keep rfl (.same _)

/-- A delivery to a device while the store is down, and one while it is up. -/
def downRun : List (Exchange interface) × Except DeliveryError Unit × Job :=
  (({} : Courier).process (plainJob ["a"])).against fun _ => storeDown

@[inherit_doc downRun]
def upRun : List (Exchange interface) × Except DeliveryError Unit × Job :=
  (({} : Courier).process (plainJob ["a"])).against fun _ => storeUp

/-- The deliveries send the same, and so do two deliveries in scenes with such stores. -/
theorem fails_open_while_down :
    Exchanges (({} : Courier).process (plainJob ["a"])) downRun.1 downRun.2 ∧
    Exchanges (({} : Courier).process (plainJob ["a"])) upRun.1 upRun.2 ∧
    AnswersAs Request.isLetPass SameRequest (Mends 100) downRun.1 upRun.1 ∧
    upRun.1.filterMap push? = downRun.1.filterMap push? ∧ upRun.2 = downRun.2 ∧
    Scene.EndAlike (Scene.play none (({} : Courier).process (plainJob ["a"])) {})
      (Scene.play none (({} : Courier).process (plainJob ["a"]))
        { store := { offline := true } }) := by
  have down := Run.exchanges_against (({} : Courier).process (plainJob ["a"])) fun _ => storeDown
  have up := Run.exchanges_against (({} : Courier).process (plainJob ["a"])) fun _ => storeUp
  have answered : AnswersAs Request.isLetPass SameRequest (Mends 100) downRun.1 upRun.1 := by
    have isDown : ∀ e ∈ downRun.1, e = ⟨e.1, storeDown e.1⟩ :=
      Run.forall_mem_against _ _ fun _ _ => rfl
    have isUp : ∀ e ∈ upRun.1, e = ⟨e.1, storeUp e.1⟩ :=
      Run.forall_mem_against _ _ fun _ _ => rfl
    intro before e after before' e' after' split split' _ asks
    have loud : e ∈ Run.loud Request.isLetPass downRun.1 := by simp [split]
    rw [isDown e (List.mem_of_mem_filter loud), isUp e' (by simp [split'])]
    exact mends_storeDown (by decide) asks
  obtain ⟨same, played⟩ := fails_open {} (plainJob ["a"])
  obtain ⟨-, pushes, -, -, result⟩ := (same _ _ down).2 _ _ up answered
  refine ⟨down, up, answered, pushes, result, ?_⟩
  exact played none { store := { offline := true } } {} {} rfl rfl rfl (by decide) (by decide)
    (by decide +kernel)

/-- A guard with the longest window that there is a setting for. -/
def longWindow : Courier := { guard := { window := Duration.ofSeconds 18446744073709551615 } }

/-- The clock does not reach the end of such a window. A delivery over an online store crashes when
it is to compute that, and one over an offline store comes to its end. -/
theorem crashes_beyond_horizon :
    1 ≤ longWindow.guard.limit ∧
    (Scene.play none (longWindow.process (plainJob ["a"])) {}).1 = none ∧
    ∃ job, (Scene.play none (longWindow.process (plainJob ["a"]))
      { store := { offline := true } }).1 = some (.ok (), job) := by
  refine ⟨by decide, by decide +kernel, { plainJob ["a"] with attemptCount := 1 }, ?_⟩
  decide +kernel

end Delivery

end PushDelivery
