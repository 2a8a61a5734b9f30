import PushDelivery.Proofs.Delivery.Endings
import PushDelivery.Proofs.Delivery.Overlap
import PushDelivery.Proofs.Guard.Windows

/-!
# What a Delivery Asks the Store For

A delivery counts its user, looks its job up, and marks it, in this order and each once at most. The
three keys differ, and those of another job and another user differ from them. So nothing that is
done for other jobs, or was done for the same job before, changes what a count or a lookup finds.

## Main definitions

* `Delivery.operations`: the operations of the store among some exchanges.
* `Delivery.bookkeeping`: the operations of a delivery.
* `Delivery.Request.Spared`: a request learns nothing of another one through the store.

## Main results

* `Delivery.operations_sublist`: a delivery asks for these operations, in their order.
* `Delivery.bookkeeping_pairwise`, `Delivery.bookkeeping_apart`: none of them learns of an earlier
  one, or of those of another job and another user.
-/

namespace PushDelivery.Delivery

open Run (Exchange Exchanges OnlyAsks exchanges_ask_iff exchanges_done_iff)

/-! ### Operations -/

/-- Whether a request is an operation of the guard's store. -/
def Request.isOperation : Request → Bool
  | .guard (.letPass _) => false
  | .guard _ => true
  | _ => false

/-- The operations of the guard's store that some exchanges ask for. -/
def operations (es : List (Exchange interface)) : List Request :=
  (es.map Sigma.fst).filter (·.isOperation)

@[simp] theorem operations_append (es fs : List (Exchange interface)) :
    operations (es ++ fs) = operations es ++ operations fs := by
  simp [operations]

/-- Exchanges none of which is an operation have no operations. -/
theorem operations_eq_nil {es : List (Exchange interface)}
    (h : ∀ e ∈ es, e.1.isOperation = false) : operations es = [] := by
  rw [operations, List.filter_map, List.map_eq_nil_iff, List.filter_eq_nil_iff]
  intro e he
  simp [h e he]

/-- If operations change no key but others, neither do the exchanges. -/
theorem spares_of_operations {es : List (Exchange interface)} {key : String}
    (h : ∀ r ∈ operations es, r.Spares key) : ∀ e ∈ es, e.1.Spares key := by
  rintro ⟨r, answer⟩ he
  by_cases operation : r.isOperation = true
  · exact h r (List.mem_filter.mpr ⟨List.mem_map_of_mem he, operation⟩)
  · refine Request.spares_of_not_isUpdate ?_ key
    cases r with
    | guard r =>
        cases r with
        | letPass => rfl
        | _ => exact absurd rfl operation
    | _ => rfl

/-- A decision of the guard is one operation, after which a failure may be let pass. -/
theorem operations_of_guarded {α : Type} {r : Guard.Request}
    {next : r.Answer → Run Guard.interface α} {es : List (Exchange interface)} {a : α}
    (operation : (Request.guard r).isOperation = true)
    (quiet : ∀ answer, OnlyAsks (fun r => (Request.guard r).isOperation = false) (next answer))
    (h : Exchanges (guarded (.ask r next)) es a) : operations es = [.guard r] := by
  obtain ⟨answer, rest, rfl, go⟩ := exchanges_ask_iff.mp h
  have hrest := operations_eq_nil fun e he =>
    (onlyAsks_guarded (P := fun r => r.isOperation = false) (quiet answer)).of_exchanges go e he
  change List.filter _ (Request.guard r :: rest.map Sigma.fst) = _
  rw [List.filter_cons_of_pos operation]
  exact congrArg _ hrest

/-- A user is counted once. -/
theorem operations_of_checkRate {g : Guard} {userId : String} {es : List (Exchange interface)}
    {d : Guard.Decision} (h : Exchanges (guarded (g.checkRate userId)) es d) :
    operations es = [.guard (.increment (Guard.counterKey userId) g.window)] := by
  refine operations_of_guarded rfl (fun answer => ?_) h
  cases answer with
  | ok => trivial
  | error => exact ⟨rfl, fun _ => trivial⟩

/-- A job is looked up once. -/
theorem operations_of_isDuplicate {jobId : String} {es : List (Exchange interface)} {found : Bool}
    (h : Exchanges (guarded (Guard.isDuplicate jobId)) es found) :
    operations es = [.guard (.lookup (Guard.markerKey jobId))] := by
  refine operations_of_guarded rfl (fun answer => ?_) h
  cases answer with
  | ok => trivial
  | error => exact ⟨rfl, fun _ => trivial⟩

/-- A job is marked once at most. -/
theorem Marks.operations_sublist {job : Job} {es : List (Exchange interface)} (h : Marks job es) :
    (operations es).Sublist [markerWrite job] := by
  unfold Marks at h
  split at h
  · rw [h]
    exact List.nil_sublist _
  · rw [operations_of_guarded rfl (fun answer => ?_) h]
    · exact .refl _
    · cases answer with
      | ok => trivial
      | error => exact ⟨rfl, fun _ => trivial⟩

/-- The end of a delivery has the operations by which its job is marked. -/
theorem operations_closing (report : Report) (started now : Instant) (accepted : Bool)
    (marks : List (Exchange interface)) :
    operations (closing report started now accepted marks) = operations marks := rfl

/-! ### The operations of a delivery -/

/-- The operations of a delivery: its user is counted, its job is looked up, and its job is
marked. -/
def bookkeeping (c : Courier) (job : Job) : List Request :=
  [.guard (.increment (Guard.counterKey job.userId) c.guard.window),
    .guard (.lookup (Guard.markerKey job.id)), markerWrite job]

section

variable {c : Courier} {job : Job} {checks es : List (Exchange interface)} {started : Instant}

/-- A delivery begins with the time and a note. -/
theorem operations_begin (started : Instant) (event : Event) (es : List (Exchange interface)) :
    operations (⟨.now, started⟩ :: ⟨.note event, ()⟩ :: es) = operations es := rfl

/-- A note is no operation. -/
theorem operations_note (event : Event) : operations [⟨.note event, ()⟩] = [] := rfl

/-- Having the content of a job takes no operation. -/
theorem operations_of_prepare {a : Except TemplateError Content}
    (h : Exchanges (Courier.prepare job) es a) : operations es = [] := by
  have asks := onlyAsks_prepare (P := fun r => r.isOperation = false) (fun _ => rfl) job
  exact operations_eq_nil (asks.of_exchanges h)

/-- A job that is cleared was counted and looked up. -/
theorem Cleared.operations_eq {content : Content} (h : Cleared c job checks started content) :
    operations checks = (bookkeeping c job).take 2 := by
  cases h with
  | intro allowed valid fresh prepared =>
      rw [operations_begin, operations_append, operations_append, operations_of_checkRate allowed,
        operations_of_isDuplicate fresh, operations_of_prepare prepared]
      rfl

/-- A job that is suppressed was counted and looked up. -/
theorem Suppressed.operations_eq (h : Suppressed c job es) :
    operations es = (bookkeeping c job).take 2 := by
  cases h with
  | intro allowed valid known =>
      rw [operations_begin, operations_append, operations_append, operations_of_checkRate allowed,
        operations_of_isDuplicate known, operations_note]
      rfl

/-- A job that is refused was counted, and perhaps looked up. -/
theorem Refused.operations_sublist {message : String} {error : DeliveryError}
    (h : Refused c job checks started message error) :
    (operations checks).Sublist ((bookkeeping c job).take 2) := by
  cases h with
  | limited exceeded =>
      rw [operations_begin, operations_append, operations_of_checkRate exceeded, operations_note]
      exact .cons_cons _ (List.nil_sublist _)
  | invalid allowed invalid =>
      rw [operations_begin, operations_of_checkRate allowed]
      exact .cons_cons _ (List.nil_sublist _)
  | unprepared allowed valid fresh unprepared =>
      rw [operations_begin, operations_append, operations_append, operations_of_checkRate allowed,
        operations_of_isDuplicate fresh, operations_of_prepare unprepared]
      exact .refl _

/-- **A delivery asks for these operations**, in their order. -/
theorem operations_sublist {res : Except DeliveryError Unit × Job}
    (run : Exchanges (c.process job) es res) : (operations es).Sublist (bookkeeping c job) := by
  rcases exchanges_process_iff.mp run with ⟨suppressed, -⟩ |
    ⟨checks, rest, started, message, error, rfl, refused, go⟩ |
    ⟨checks, rest, started, content, rfl, cleared, go⟩
  · rw [suppressed.operations_eq]
    exact List.take_sublist 2 _
  · obtain ⟨now, accepted, marks, rfl, marked, -⟩ := exchanges_refuse_iff.mp go
    rw [operations_append, operations_closing]
    exact refused.operations_sublist.append marked.operations_sublist
  · obtain ⟨tries, result, progress, now, accepted, marks, dispatched, rfl, marked, -⟩ :=
      exchanges_deliver_iff.mp go
    have none : operations tries = [] := operations_eq_nil fun e he => by
      have inDispatch := (exchanges_dispatch_iff.mp dispatched).inDispatch e he
      obtain ⟨r, answer⟩ := e
      cases r with
      | guard => cases inDispatch
      | _ => rfl
    rw [operations_append, operations_append, operations_closing, none, cleared.operations_eq]
    exact (List.Sublist.refl _).append marked.operations_sublist

end

/-! ### Other operations -/

/-- The key at which a count or a lookup finds something or nothing. -/
def Request.key? : Request → Option String
  | .guard (.increment key _) | .guard (.lookup key) => some key
  | _ => none

/-- What a request finds does not depend on an earlier one. -/
def Request.Spared (earlier r : Request) : Prop := ∀ key, r.key? = some key → earlier.Spares key

/-- What a request finds does not depend on exchanges if it does not depend on their operations. -/
theorem spared_of_operations {es : List (Exchange interface)} {r : Request}
    (h : ∀ earlier ∈ operations es, earlier.Spared r) : ∀ e ∈ es, e.1.Spared r :=
  fun e he key hkey => spares_of_operations (fun earlier hm => h earlier hm key hkey) e he

/-- Only an operation finds something or nothing. -/
theorem Request.isOperation_of_key? {r : Request} {key : String} (h : r.key? = some key) :
    r.isOperation = true := by
  cases r with
  | guard r =>
      cases r with
      | letPass => cases h
      | _ => rfl
  | _ => cases h

/-- Marking a job changes the counter of no user. -/
theorem Request.spares_counter (job : Job) (userId : String) :
    (markerWrite job).Spares (Guard.counterKey userId) := by
  refine ⟨nofun, fun value ttl heq => ?_⟩
  injection heq with heq
  injection heq with hkey
  exact counterKey_ne_markerKey _ _ hkey.symm

/-- Counting a user changes the counter of no other. -/
theorem Request.spares_other {userId otherId : String} (other : userId ≠ otherId)
    (window : Duration) :
    (Request.guard (.increment (Guard.counterKey userId) window)).Spares
      (Guard.counterKey otherId) := by
  refine ⟨fun window heq => ?_, nofun⟩
  injection heq with heq
  injection heq with hkey
  exact other (Guard.counterKey_injective hkey)

variable (c : Courier)

/-- No operation of a delivery learns of an earlier one. -/
theorem bookkeeping_pairwise (job : Job) : (bookkeeping c job).Pairwise Request.Spared := by
  have unread : ∀ earlier : Request, earlier.Spared (markerWrite job) := fun _ => nofun
  refine .cons ?_ (.cons ?_ (.cons ?_ .nil))
  · refine List.forall_mem_cons.mpr ⟨?_, List.forall_mem_singleton.mpr (unread _)⟩
    rintro _ ⟨⟩
    exact Request.spares_count _ _ _
  · exact List.forall_mem_singleton.mpr (unread _)
  · exact nofun

/-- The keys of a delivery are spared by the operations of another job for another user. -/
theorem spares_of_bookkeeping {job other : Job} (id : other.id ≠ job.id)
    (user : other.userId ≠ job.userId) {earlier : Request} (h : earlier ∈ bookkeeping c other) :
    earlier.Spares (Guard.counterKey job.userId) ∧ earlier.Spares (Guard.markerKey job.id) := by
  simp only [bookkeeping, List.mem_cons, List.not_mem_nil, or_false] at h
  rcases h with rfl | rfl | rfl
  · exact ⟨Request.spares_other user _, Request.spares_count _ _ _⟩
  · exact ⟨Request.spares_of_not_isUpdate rfl _, Request.spares_of_not_isUpdate rfl _⟩
  · exact ⟨Request.spares_counter _ _, Request.spares_mark id⟩

/-- No operation of a delivery learns of those of another job and another user. -/
theorem bookkeeping_apart {job other : Job} (id : other.id ≠ job.id)
    (user : other.userId ≠ job.userId) :
    ∀ earlier ∈ bookkeeping c other, ∀ r ∈ bookkeeping c job, earlier.Spared r := by
  intro earlier hearlier r hr key hkey
  obtain ⟨counter, marker⟩ := spares_of_bookkeeping c id user hearlier
  simp only [bookkeeping, List.mem_cons, List.not_mem_nil, or_false] at hr
  rcases hr with rfl | rfl | rfl
  · obtain rfl := Option.some.inj hkey
    exact counter
  · obtain rfl := Option.some.inj hkey
    exact marker
  · cases hkey

end PushDelivery.Delivery
