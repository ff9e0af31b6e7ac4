import FunctionHost.Proofs.Gateway.Deed
import FunctionHost.Proofs.Pool.Input
import FunctionHost.Proofs.Pool.Writing
import FunctionHost.Proofs.RequestId.History
import Mathlib.Data.List.Nodup
/-!
# Requests and their ids

A gateway counts the ids that it gives, and gives one to each accepted request that comes without
(`ids_after`), so the ids that it gives are numbered without a gap (`minted_eq`). An id that a
request has is the id of its event, and stays so while its call waits, gets an interpreter and ends:
what is written for the call prints the markers of this id.

The count of a gateway is a natural number. With one of sixty-four bits all this holds of deeds that
serve fewer than 2^64 requests without an id, which is what `unnumbered` counts; the next request
would go with a number that was given before.

Main statement: `serves_under_ids`, for all that is done to a gateway.
-/

namespace FunctionHost

open FunctionHost.Http FunctionHost.Text

namespace Gateway

open FunctionHost.Pool

/-- A gateway that nothing was done to, before `n` newly launched interpreters. -/
def opened (accepts : String → Bool) (stem : String) (s : PoolSettings) (n : Nat) : Gateway where
  accepts := accepts
  ids := { stem }
  pool := launched s n

/-- A request is served that is accepted and comes without an id. -/
def Deed.isUnnumbered (accepts : String → Bool) : Deed → Bool
  | .serves _ r none _ => accepts r.uri.requestText
  | _ => false

/-- How many requests among deeds are accepted and come without an id. -/
def unnumbered (accepts : String → Bool) (ds : List Deed) : Nat :=
  ds.countP (Deed.isUnnumbered accepts)

/-- The id that a request without one goes with after a deed, if the deed serves such a request. -/
def mintedBy (g : Gateway) : Deed → List String
  | .serves name r none remote => (g.serve name r none remote).1.requestId?.toList
  | _ => []

/-- The ids that requests without one go with after deeds, in order. -/
def minted (g : Gateway) : List Deed → List String
  | [] => []
  | d :: ds => g.mintedBy d ++ (g.perform d).2.minted ds

/-! ### One deed -/

section

variable {g : Gateway} {name remote : String} {r : Request} {slot : Option String}

theorem serve_of_accepts (h : g.accepts r.uri.requestText = true) :
    g.serve name r slot remote = (.dispatched (g.ids.obtain slot).1, { g with
      ids := (g.ids.obtain slot).2
      pool := (g.pool.step (.dispatch (g.callOf name r (g.ids.obtain slot).1 remote))).2 }) :=
  if_pos h

theorem serve_of_rejects (h : g.accepts r.uri.requestText = false) :
    g.serve name r slot remote = (.skipped slot, { g with pool := g.pool.unseen }) :=
  if_neg (by simp [h])

end

@[simp] theorem accepts_perform (g : Gateway) (d : Deed) : (g.perform d).2.accepts = g.accepts := by
  cases d with
  | acts a => rfl
  | serves name r slot remote =>
    unfold perform serve
    dsimp only
    split <;> rfl

/-- A deed counts one id if it serves a request that is accepted and comes without one. -/
theorem ids_perform (g : Gateway) (d : Deed) : (g.perform d).2.ids =
    g.ids.advanced (unnumbered g.accepts [d]) := by
  cases d with
  | acts a => rfl
  | serves name r slot remote =>
    have hserve : (g.perform (.serves name r slot remote)).2.ids =
        (g.serve name r slot remote).2.ids := rfl
    cases ha : g.accepts r.uri.requestText with
    | false =>
      have hcount : unnumbered g.accepts [.serves name r slot remote] = 0 := by
        cases slot <;> simp [unnumbered, Deed.isUnnumbered, ha]
      rw [hserve, hcount, serve_of_rejects ha]
      rfl
    | true =>
      have hcount : unnumbered g.accepts [.serves name r slot remote] =
          if slot = none then 1 else 0 := by
        cases slot <;> simp [unnumbered, Deed.isUnnumbered, ha]
      rw [hserve, hcount, serve_of_accepts ha, RequestId.Counter.obtain_eq]

/-- The id that a deed gives is the next one. -/
theorem mintedBy_eq (g : Gateway) (d : Deed) : g.mintedBy d =
    (List.range' (g.ids.issued + 1) (unnumbered g.accepts [d])).map g.ids.idOf := by
  cases d with
  | acts a => rfl
  | serves name r slot remote =>
    cases slot with
    | some id => rfl
    | none =>
      cases ha : g.accepts r.uri.requestText with
      | false => simp [mintedBy, serve_of_rejects ha, unnumbered, Deed.isUnnumbered, ha,
          Served.requestId?]
      | true => simp [mintedBy, serve_of_accepts ha, unnumbered, Deed.isUnnumbered, ha,
          Served.requestId?, RequestId.Counter.obtain_eq]

/-! ### Runs -/

theorem unnumbered_append (accepts : String → Bool) (ds es : List Deed) :
    unnumbered accepts (ds ++ es) = unnumbered accepts ds + unnumbered accepts es :=
  List.countP_append

theorem after_cons (g : Gateway) (d : Deed) (ds : List Deed) :
    g.after (d :: ds) = (g.perform d).2.after ds := rfl

@[simp] theorem accepts_after (g : Gateway) (ds : List Deed) : (g.after ds).accepts = g.accepts := by
  induction ds generalizing g with
  | nil => rfl
  | cons d ds ih => rw [after_cons, ih, accepts_perform]

/-- As many ids are counted as requests were accepted that came without one. -/
theorem ids_after (g : Gateway) (ds : List Deed) : (g.after ds).ids =
    g.ids.advanced (unnumbered g.accepts ds) := by
  induction ds generalizing g with
  | nil => rfl
  | cons d ds ih =>
    rw [after_cons, ih, ids_perform, accepts_perform, ← List.singleton_append (l := ds),
      unnumbered_append, RequestId.Counter.advanced_add]

/-- The ids that are given are numbered without a gap. -/
theorem minted_eq (g : Gateway) (ds : List Deed) : g.minted ds =
    (List.range' (g.ids.issued + 1) (unnumbered g.accepts ds)).map g.ids.idOf := by
  induction ds generalizing g with
  | nil => rfl
  | cons d ds ih =>
    rw [minted, ih, mintedBy_eq, accepts_perform, ids_perform, RequestId.Counter.idOf_advanced,
      RequestId.Counter.issued_advanced, ← List.map_append, ← List.singleton_append (l := ds),
      unnumbered_append, ← List.range'_append_1, Nat.add_right_comm]

theorem nodup_minted (g : Gateway) (ds : List Deed) : (g.minted ds).Nodup := by
  rw [minted_eq]
  exact List.Nodup.map (fun _ _ h => RequestId.Counter.idOf_inj h) List.nodup_range'

/-- Only what acts on the pool makes calls to be refused. -/
theorem acts_of_mem_actions {g : Gateway} {ds : List Deed} {i : Nat} {c : Call}
    (h : .tryHandle i c ∈ g.actions ds) : .acts (.tryHandle i c) ∈ ds := by
  induction ds generalizing g with
  | nil => simp [actions] at h
  | cons d ds ih =>
    rw [actions, List.mem_append] at h
    rcases h with h | h
    · cases d with
      | acts a =>
        obtain rfl : .tryHandle i c = a := by simpa [actionsOf] using h
        exact List.mem_cons_self
      | serves name r slot remote =>
        by_cases ha : g.accepts r.uri.requestText = true
        · simp [actionsOf_of_accepts ha] at h
        · simp [actionsOf_of_rejects ha] at h
    · exact List.mem_cons_of_mem _ (ih h)

/-! ### What is seen -/

section

variable {s : PoolSettings} {n : Nat} {g : Gateway} (hg : g.pool = launched s n)
include hg

/-- Each text that is written is that of the call that has got the interpreter just before. -/
theorem written_seen (ds : List Deed) : Written (g.seen ds) := by
  rw [seen_eq_history, hg]
  exact written_after s n _

/-- A call that gets an interpreter was made. -/
theorem mem_made_of_obtained {ds : List Deed} {i : Nat} {c : Call}
    (h : .obtained i c ∈ g.seen ds) : c ∈ made g.pool (g.actions ds) := by
  rw [seen_eq_history] at h
  rw [hg] at h ⊢
  obtain ⟨gone, hl, -, -⟩ := ledger_after s n (g.actions ds)
  exact hl.mem_made_of_obtained (List.mem_append_left _ h)

/-- What is written for a call prints the markers of its request. -/
theorem asks_of_infix {ds : List Deed} {i : Nat} {c : Call} {t : String}
    (h : [.obtained i c, .wrote i t] <:+: g.seen ds) : Asks c.requestId t := by
  obtain ⟨es, fs, heq⟩ := h
  have hsplit : g.seen ds = (es ++ [.obtained i c]) ++ .wrote i t :: fs := by
    rw [← heq]
    simp
  obtain ⟨es', d, lead, hlast, -, rfl⟩ := written_seen hg ds _ i t fs hsplit
  obtain ⟨-, hcall⟩ := List.append_inj' hlast rfl
  obtain rfl : c = d := by simpa using hcall
  exact asks_text lead c

/-- How a call ends, and what its request is answered then. -/
theorem response_of_ended {ds : List Deed} {c : Call} {o : Outcome}
    (h : .ended c o ∈ g.seen ds) :
    (∃ y, o = .reply y ∧ o.response = y) ∨
      (∃ e, o = .failed e ∧ o.response = ⟨.internalServerError, "Internal Server Error"⟩) ∨
      o = .refused ∧ ∃ i, .acts (.tryHandle i c) ∈ ds := by
  cases o with
  | reply y => exact .inl ⟨y, rfl, rfl⟩
  | failed e => exact .inr (.inl ⟨e, rfl, rfl⟩)
  | refused =>
    rw [seen_eq_history, hg] at h
    obtain ⟨i, hi⟩ := refused_after h
    exact .inr (.inr ⟨rfl, i, acts_of_mem_actions hi⟩)

end

/-- Whatever is done to a gateway, requests are served under their ids. A request is skipped exactly
if the filter rejects the target that its event would have; then it keeps the id that it came with,
nothing is counted, and the pool is as before, with nothing new to be seen. Any other request goes
with its own id or with the next number; this is the id of the event that is dispatched, and what is
written for its call prints the markers of this id. Nothing is written but for a call that was made,
when it gets the interpreter. A call that ends with a reply is answered with it, and one that fails
with 500. The ids that requests without one go with are all different, and as many as are counted:
one for each request that is accepted and comes without. The numbers do not come to an end here; in
sixty-four bits they do after 2^64 of these requests. -/
theorem serves_under_ids (accepts : String → Bool) (stem : String) (s : PoolSettings) (n : Nat)
    (ds : List Deed) :
    let g := opened accepts stem s n
    (∀ before name r slot remote later, ds = before ++ .serves name r slot remote :: later →
      let g' := g.after before
      let id := slot.getD (g.ids.idOf (unnumbered accepts before + 1))
      let c := g'.callOf name r id remote
      c.event = r.event id remote ∧ c.event.requestId = id ∧
      ((accepts c.event.requestUri = false ∧
          g'.serve name r slot remote = (.skipped slot, { g' with pool := g'.pool.unseen })) ∨
        (accepts c.event.requestUri = true ∧
          g'.serve name r slot remote = (.dispatched id, { g' with
            ids := g'.ids.advanced (if slot = none then 1 else 0)
            pool := (g'.pool.step (.dispatch c)).2 }) ∧
          ∀ i t, [.obtained i c, .wrote i t] <:+: g.seen ds → Asks id t))) ∧
    (∀ es i t fs, g.seen ds = es ++ .wrote i t :: fs →
      ∃ es' c, es = es' ++ [.obtained i c] ∧ c ∈ made g.pool (g.actions ds)) ∧
    (∀ c o, .ended c o ∈ g.seen ds → (∃ y, o = .reply y ∧ o.response = y) ∨
      (∃ e, o = .failed e ∧ o.response = ⟨.internalServerError, "Internal Server Error"⟩) ∨
      o = .refused ∧ ∃ i, .acts (.tryHandle i c) ∈ ds) ∧
    (g.minted ds).Nodup ∧ (g.minted ds).length = unnumbered accepts ds ∧
      (g.after ds).ids.issued = unnumbered accepts ds := by
  intro g
  have hg : g.pool = launched s n := rfl
  refine ⟨?_, ?_, fun c o h => response_of_ended hg h, nodup_minted g ds, ?_, ?_⟩
  · rintro before name r slot remote later rfl g' id c
    have hids : g'.ids = g.ids.advanced (unnumbered accepts before) := ids_after g before
    have haccepts : g'.accepts = accepts := accepts_after g before
    have hid : g'.ids.obtain slot = (id, g'.ids.advanced (if slot = none then 1 else 0)) := by
      rw [RequestId.Counter.obtain_eq, hids]
      simp [id, g, opened]
    refine ⟨rfl, rfl, ?_⟩
    cases ha : accepts r.uri.requestText with
    | false =>
      left
      exact ⟨ha, serve_of_rejects (haccepts ▸ ha)⟩
    | true =>
      right
      refine ⟨ha, ?_, ?_⟩
      · rw [serve_of_accepts (haccepts ▸ ha), hid]
      · intro i t h
        have hrequest : c.requestId = id := rfl
        rw [← hrequest]
        exact asks_of_infix hg h
  · intro es i t fs h
    obtain ⟨es', c, -, rfl, -⟩ := written_seen hg ds es i t fs h
    have hc : .obtained i c ∈ g.seen ds := by
      rw [h]
      simp
    exact ⟨es', c, rfl, mem_made_of_obtained hg hc⟩
  · rw [minted_eq, List.length_map, List.length_range']
    rfl
  · rw [ids_after]
    exact Nat.zero_add _

theorem infix_of_neighbours {α : Type} {xs : List α} {a b : α} {k : Nat} (ha : xs[k]? = some a)
    (hb : xs[k + 1]? = some b) : [a, b] <:+: xs := by
  refine ⟨xs.take k, xs.drop (k + 2), ?_⟩
  obtain ⟨hk, rfl⟩ := List.getElem?_eq_some_iff.1 ha
  obtain ⟨hk', rfl⟩ := List.getElem?_eq_some_iff.1 hb
  rw [List.append_assoc, List.cons_append, List.singleton_append,
    List.getElem_cons_drop, List.getElem_cons_drop, List.take_append_drop]

theorem eq_wrote_of_textTo? {i : Nat} {e : Effect} {t : String} (h : e.textTo? i = some t) :
    e = .wrote i t := by
  cases e with
  | wrote j u => simpa [Effect.textTo?] using h
  | _ => cases h

/-- A request for the path that is a slash and one more byte. -/
def requestFor (b : UInt8) : Request := { method := "GET", uri := ⟨none, [], [47, b]⟩ }

/-- Four requests for one interpreter: the first comes without an id, the second is rejected, the
third has an id and waits, the fourth waits behind it. The first is answered, and then the
interpreter dies. -/
def fourRequests : List Deed := [
  .serves "a" (requestFor 97) none "", .serves "b" (requestFor 98) none "",
  .serves "c" (requestFor 99) (some "up-7") "", .serves "d" (requestFor 100) none "",
  .acts (.stdout 0 (blockBytes "req-1" ⟨.ok, "x"⟩)), .acts (.exit 0)]

/-- The ids are those of the requests, and the third one's id is printed by what is written when its
turn has come. -/
theorem serves_under_ids_of_four :
    let g := opened (· != "/b") "req" .plain 1
    let c := (g.after (fourRequests.take 2)).callOf "c" (requestFor 99) "up-7" ""
    g.minted fourRequests = ["req-1", "req-2"] ∧
      (∃ t, [.obtained 0 c, .wrote 0 t] <:+: g.seen fourRequests ∧ Asks "up-7" t) ∧
      .ended c (.failed (.closed 0)) ∈ g.seen fourRequests ∧
      (g.after fourRequests).ids.issued = 2 := by
  intro g c
  obtain ⟨hserves, -, -, -, -, hissued⟩ :=
    serves_under_ids (· != "/b") "req" .plain 1 fourRequests
  obtain ⟨-, -, ⟨hrejects, -⟩ | ⟨-, -, hwritten⟩⟩ :=
    hserves (fourRequests.take 2) "c" (requestFor 99) (some "up-7") "" (fourRequests.drop 3) rfl
  · have haccepts : (c.event.requestUri != "/b") = true := by decide +kernel
    cases hrejects.symm.trans haccepts
  · have hobtained : (g.seen fourRequests)[4]? = some (.obtained 0 c) := by decide +kernel
    have hwrote : ((g.seen fourRequests)[5]?.bind (Effect.textTo? 0)).isSome = true := by
      decide +kernel
    obtain ⟨t, ht⟩ := Option.isSome_iff_exists.1 hwrote
    obtain ⟨e, he, ht⟩ := Option.bind_eq_some_iff.1 ht
    have hinfix := infix_of_neighbours hobtained (eq_wrote_of_textTo? ht ▸ he)
    exact ⟨by decide +kernel, ⟨t, hinfix, hwritten 0 t hinfix⟩, by decide +kernel, hissued⟩

end Gateway

end FunctionHost
