import FunctionHost.Proofs.Pool.Once
/-!
# Every call is answered once

What becomes of a call is read off a run: it is pending, or it ended in an action with an outcome,
or an action dropped it while it was pending (`Befalls`). The ledger has each call that was made as
held, ended or dropped, and in no two of these ways (`befalls_unique`), and what has become of a
call that is no longer pending is final (`Befalls.final`).

Main statement: `answered_once`, if no two calls of a run have one name, exactly one thing becomes
of each call.
-/

namespace FunctionHost.Pool

/-- What has become of a call. -/
inductive Lot where
  /-- It is pending. -/
  | pending
  /-- It ended in action `k`. -/
  | done (k : Nat) (o : Outcome)
  /-- It was dropped in action `k`. -/
  | dropped (k : Nat)
deriving DecidableEq, Repr

/-- What has become of a call after a run. -/
inductive Befalls (p : Pool) (as : List Action) (c : Call) : Lot → Prop where
  /-- Its name is among those of the calls that have not ended. -/
  | stays : c.name ∈ (p.after as).pending → Befalls p as c .pending
  /-- Its end was seen in action `k`. -/
  | ends {k : Nat} {a : Action} {o : Outcome} : as[k]? = some a →
      .ended c o ∈ ((p.after (as.take k)).step a).2.effects → Befalls p as c (.done k o)
  /-- Action `k` cancelled its name and found it pending. -/
  | leaves {k : Nat} : as[k]? = some (.cancel c.name) →
      c.name ∈ (p.after (as.take k)).pending → Befalls p as c (.dropped k)

/-! ### The names of the calls that are held -/

section

variable {p : Pool} {name : String}

/-- A name is pending exactly if a worker runs it, or it is in a queue, or in the line. -/
theorem mem_pending_iff : name ∈ p.pending ↔
    (∃ w ∈ p.workers, runs name w = true) ∨ (∃ w ∈ p.workers, queues name w = true) ∨
      p.waiting.any (·.call.name == name) = true := by
  have hruns : ∀ w : Worker,
      name ∈ (w.running?.map (·.call.name)).toList ↔ runs name w = true := by
    intro w
    unfold runs
    cases w.running? with
    | none => simp
    | some inv =>
      simp only [Option.map_some, Option.toList_some, List.mem_singleton, beq_iff_eq]
      exact eq_comm
  have hqueues : ∀ w : Worker, name ∈ w.queue.map (·.name) ↔ queues name w = true := by
    intro w
    simp [queues]
  have hwaits : name ∈ p.waiting.map (·.call.name) ↔
      p.waiting.any (·.call.name == name) = true := by
    simp
  rw [pending, List.mem_append, hwaits, List.mem_flatMap, ← or_assoc, ← exists_or]
  simp only [List.mem_append, hruns, hqueues, and_or_left]

/-- A settled pool has as pending the names of the calls that it holds. -/
theorem mem_pending_iff_calls (ht : p.HasTurns) (hr : p.ready = []) :
    name ∈ p.pending ↔ ∃ c ∈ p.calls, c.name = name := by
  rw [mem_pending_iff, calls_of_settled hr]
  constructor
  · rintro (⟨w, hw, hn⟩ | ⟨w, hw, hn⟩ | hn)
    · obtain ⟨inv, hinv, hname⟩ := runs_eq_true_iff.1 hn
      refine ⟨inv.call, List.mem_append_left _ (List.mem_flatMap.2 ⟨w, hw, ?_⟩), hname⟩
      simp [Worker.calls, Hold.calls, hinv]
    · obtain ⟨c, hc, hname⟩ := List.any_eq_true.1 hn
      refine ⟨c, List.mem_append_left _ (List.mem_flatMap.2 ⟨w, hw, ?_⟩), by simpa using hname⟩
      exact List.mem_append_right _ hc
    · obtain ⟨d, hd, hname⟩ := List.any_eq_true.1 hn
      exact ⟨d.call, List.mem_append_right _ (List.mem_map_of_mem hd), by simpa using hname⟩
  · rintro ⟨c, hc, rfl⟩
    rcases List.mem_append.1 hc with hc | hc
    · obtain ⟨w, hw, hc⟩ := List.mem_flatMap.1 hc
      rcases List.mem_append.1 hc with hc | hc
      · have hfree : w.hold ≠ .free := fun hf => by simp [hf, Hold.calls] at hc
        obtain ⟨inv, hinv⟩ := running_of_not_free ht hr hw hfree
        rw [hinv] at hc
        refine .inl ⟨w, hw, runs_eq_true_iff.2 ⟨inv, hinv, ?_⟩⟩
        rw [List.mem_singleton.1 hc]
      · exact .inr (.inl ⟨w, hw, List.any_eq_true.2 ⟨c, hc, beq_self_eq_true _⟩⟩)
    · obtain ⟨d, hd, rfl⟩ := List.mem_map.1 hc
      exact .inr (.inr (List.any_eq_true.2 ⟨d, hd, beq_self_eq_true _⟩))

/-- A name that is not pending is not dropped. -/
theorem cancel_of_not_pending (h : name ∉ p.pending) : p.cancel name = (.noCall, p) := by
  rw [mem_pending_iff, not_or, not_or] at h
  obtain ⟨hruns, hqueues, hwaits⟩ := h
  have hnone : ∀ {f : Worker → Bool}, (¬ ∃ w ∈ p.workers, f w = true) →
      p.workers.findIdx? f = none := by
    intro f hf
    refine List.findIdx?_eq_none_iff.2 fun w hw => ?_
    exact Bool.eq_false_iff.2 fun hfw => hf ⟨w, hw, hfw⟩
  unfold cancel
  rw [hnone hruns, hnone hqueues]
  exact if_neg hwaits

/-- A pending name is dropped. -/
theorem cancel_of_pending (h : name ∈ p.pending) : (p.cancel name).1 = .ok := by
  unfold cancel
  split
  next => rfl
  next hruns =>
    split
    next => rfl
    next hqueues =>
      rw [List.findIdx?_eq_none_iff] at hruns hqueues
      rw [mem_pending_iff] at h
      rcases h with ⟨w, hw, hn⟩ | ⟨w, hw, hn⟩ | hn
      · rw [hruns w hw] at hn
        cases hn
      · rw [hqueues w hw] at hn
        cases hn
      · rw [if_pos hn]

end

/-! ### What becomes of a call -/

/-- An action of a run splits it. -/
theorem take_append_of_getElem? {as : List Action} {k : Nat} {a : Action} (h : as[k]? = some a) :
    as.take k ++ a :: as.drop (k + 1) = as := by
  obtain ⟨hk, rfl⟩ := List.getElem?_eq_some_iff.1 h
  rw [← List.drop_eq_getElem_cons hk, List.take_append_drop]

section

variable {s : PoolSettings} {n : Nat} {as bs cs : List Action} {c : Call} {k : Nat} {a : Action}
  {o : Outcome}

/-- What ends in an action was made by then. -/
theorem mem_made_of_ended (h : as[k]? = some a)
    (he : .ended c o ∈ (((launched s n).after (as.take k)).step a).2.effects) :
    c ∈ made (launched s n) (as.take (k + 1)) := by
  obtain ⟨gone, out, q, -, -, hq, hm⟩ := ledger_step s n (as.take k) a
  have hbalance := (hq.moves hm).balance c
  have hended := List.count_pos_iff.2 (mem_endings_iff.2 ⟨o, he⟩)
  rw [endings_append, List.count_append] at hbalance
  rw [List.take_add_one, h, Option.toList_some]
  exact List.count_pos_iff.1 (by omega)

/-- What ends in an action ends in the run. -/
theorem ended_of_getElem? (h : as[k]? = some a)
    (he : .ended c o ∈ (((launched s n).after (as.take k)).step a).2.effects) :
    .ended c o ∈ history (launched s n) as :=
  mem_along_iff.2 ⟨_, a, _, (take_append_of_getElem? h).symm, he⟩

/-- What is cancelled while it is pending is dropped. -/
theorem mem_dropped_of_getElem? (h : as[k]? = some (.cancel c.name))
    (hp : c.name ∈ ((launched s n).after (as.take k)).pending) :
    c.name ∈ dropped (launched s n) as := by
  refine mem_along_iff.2 ⟨_, _, _, (take_append_of_getElem? h).symm, ?_⟩
  have hok : (((launched s n).after (as.take k)).step (.cancel c.name)).1 = .ok :=
    cancel_of_pending (p := unseen _) hp
  rw [droppedBy, if_pos hok]
  exact List.mem_singleton_self _

/-- An action of a run is at the same place in a longer part of it. -/
theorem getElem?_take_take {l : Nat} (h : as[k]? = some a) (hkl : k < l) :
    (as.take l)[k]? = some a ∧ (as.take l).take k = as.take k := by
  rw [List.getElem?_take_of_lt hkl, List.take_take, Nat.min_eq_left (Nat.le_of_lt hkl)]
  exact ⟨h, rfl⟩

/-- What has become of a call that is not pending is seen or was done in the run. -/
theorem Befalls.ended_or_dropped {x : Lot} (hx : Befalls (launched s n) as c x)
    (hne : x ≠ .pending) :
    (∃ o, .ended c o ∈ history (launched s n) as) ∨ c.name ∈ dropped (launched s n) as := by
  cases hx with
  | stays _ => exact absurd rfl hne
  | ends ha he => exact .inl ⟨_, ended_of_getElem? ha he⟩
  | leaves ha hp => exact .inr (mem_dropped_of_getElem? ha hp)

/-- What ended or was dropped at a place of the run has become of the call. -/
theorem exists_befalls
    (h : (∃ o, .ended c o ∈ history (launched s n) as) ∨ c.name ∈ dropped (launched s n) as) :
    ∃ x, Befalls (launched s n) as c x := by
  rcases h with ⟨o, ho⟩ | hd
  · obtain ⟨bs, a, cs, rfl, he⟩ := mem_along_iff.1 ho
    refine ⟨.done bs.length o, .ends (a := a) ?_ ?_⟩
    · simp
    · rwa [List.take_left]
  · obtain ⟨bs, a, cs, rfl, hin⟩ := mem_along_iff.1 hd
    cases a with
    | cancel name =>
      have hok : c.name = name ∧ (((launched s n).after bs).step (.cancel name)).1 = .ok := by
        simp only [droppedBy] at hin
        split at hin
        next hok => exact ⟨List.mem_singleton.1 hin, hok⟩
        next => cases hin
      obtain ⟨rfl, hok⟩ := hok
      refine ⟨.dropped bs.length, .leaves ?_ ?_⟩
      · simp
      · rw [List.take_left]
        by_contra hno
        have hcancel := cancel_of_not_pending (p := unseen _) hno
        rw [show ((launched s n).after bs).step (.cancel c.name) = _ from hcancel] at hok
        cases hok
    | _ => cases hin

variable (h : ((made (launched s n) as).map (·.name)).Nodup)
include h

/-- The names of a part of a run are distinct if those of the run are. -/
theorem nodup_names_of_prefix (hbs : bs <+: as) :
    ((made (launched s n) bs).map (·.name)).Nodup := by
  obtain ⟨cs, rfl⟩ := hbs
  rw [made, along_append, List.map_append] at h
  exact (List.nodup_append.1 h).1

/-- A call ends at most once. -/
theorem count_endings_le_one (c : Call) :
    (endings (history (launched s n) as)).count c ≤ 1 := by
  obtain ⟨gone, hl, -, -⟩ := ledger_after s n as
  have hbalance := hl.read.1 c
  have hle := List.nodup_iff_count_le_one.1 h.of_map c
  omega

/-- The name of a call that was made in the run is pending in a part of it exactly if the call
is. -/
theorem name_pending_iff (hbs : bs <+: as) (hc : c ∈ made (launched s n) as) :
    c.name ∈ ((launched s n).after bs).pending ↔ Pending (launched s n) bs c := by
  have hnames := nodup_names_of_prefix h hbs
  rw [mem_pending_iff_calls (hasTurns_after s n bs) (ready_after rfl bs),
    pending_iff_mem_calls hnames c]
  refine ⟨fun ⟨d, hd, hname⟩ => ?_, fun hc => ⟨c, hc, rfl⟩⟩
  obtain ⟨cs, rfl⟩ := hbs
  have hmade : d ∈ made (launched s n) (bs ++ cs) := by
    rw [made, along_append]
    exact List.mem_append_left _ ((pending_iff_mem_calls hnames d).2 hd).1
  rwa [← List.inj_on_of_nodup_map h hmade hc hname]

/-- A call that ended was not dropped. -/
theorem not_dropped_of_ended (he : .ended c o ∈ history (launched s n) as) :
    c.name ∉ dropped (launched s n) as := by
  intro hd
  obtain ⟨gone, hl, -, hdropped⟩ := ledger_after s n as
  obtain ⟨hbalance, -, -⟩ := hl.read
  obtain ⟨d, hd, hname⟩ := hdropped _ hd
  have hended := List.count_pos_iff.2 (mem_endings_iff.2 ⟨o, he⟩)
  have hgone := List.count_pos_iff.2 hd
  have hmadec : c ∈ made (launched s n) as :=
    List.count_pos_iff.1 (by have := hbalance c; omega)
  have hmaded : d ∈ made (launched s n) as :=
    List.count_pos_iff.1 (by have := hbalance d; omega)
  obtain rfl := List.inj_on_of_nodup_map h hmaded hmadec hname
  have hle := List.nodup_iff_count_le_one.1 h.of_map d
  have := hbalance d
  omega

omit h in
/-- What ended in a part of a run does not end in the rest. -/
theorem not_ended_again (h : ((made (launched s n) (bs ++ cs)).map (·.name)).Nodup)
    (he : .ended c o ∈ history (launched s n) bs) (o' : Outcome) :
    .ended c o' ∉ history ((launched s n).after bs) cs := by
  intro hagain
  have hcount := count_endings_le_one h c
  rw [history_append, endings_append, List.count_append] at hcount
  have hpast := List.count_pos_iff.2 (mem_endings_iff.2 ⟨o, he⟩)
  have hnow := List.count_pos_iff.2 (mem_endings_iff.2 ⟨o', hagain⟩)
  omega

/-- A call ends in one action at most. -/
theorem done_unique {l : Nat} {b : Action} {o' : Outcome} (ha : as[k]? = some a)
    (he : .ended c o ∈ (((launched s n).after (as.take k)).step a).2.effects)
    (hb : as[l]? = some b)
    (he' : .ended c o' ∈ (((launched s n).after (as.take l)).step b).2.effects) : ¬ k < l := by
  intro hkl
  obtain ⟨hak, htake⟩ := getElem?_take_take ha hkl
  have hbefore : .ended c o ∈ history (launched s n) (as.take l) :=
    ended_of_getElem? hak (by rwa [htake])
  rw [← take_append_of_getElem? hb] at h
  exact not_ended_again h hbefore o' (List.mem_append_left _ he')

/-- A call that was made is dropped in one action at most. -/
theorem dropped_unique {l : Nat} (hc : c ∈ made (launched s n) as)
    (ha : as[k]? = some (.cancel c.name))
    (hp : c.name ∈ ((launched s n).after (as.take k)).pending)
    (hp' : c.name ∈ ((launched s n).after (as.take l)).pending) : ¬ k < l := by
  intro hkl
  obtain ⟨hak, htake⟩ := getElem?_take_take ha hkl
  have hpending := (name_pending_iff h (List.take_prefix l as) hc).1 hp'
  exact hpending.2.2 (mem_dropped_of_getElem? hak (by rwa [htake]))

/-- One thing becomes of a call that was made. -/
theorem befalls_unique {x y : Lot} (hc : c ∈ made (launched s n) as)
    (hx : Befalls (launched s n) as c x) (hy : Befalls (launched s n) as c y) : x = y := by
  have hpending := name_pending_iff h (List.prefix_refl as) hc
  have final : ∀ {z : Lot}, Befalls (launched s n) as c z →
      c.name ∈ ((launched s n).after as).pending → z = .pending := by
    intro z hz hp
    obtain ⟨-, hended, hdropped⟩ := hpending.1 hp
    by_contra hne
    rcases hz.ended_or_dropped hne with ⟨o, ho⟩ | hd
    · exact hended o ho
    · exact hdropped hd
  cases hx with
  | stays hp => exact (final hy hp).symm
  | @ends k a o ha he =>
    have hended := ended_of_getElem? ha he
    cases hy with
    | stays hp => exact final (.ends ha he) hp
    | @ends l b o' hb he' =>
      obtain rfl : k = l :=
        Nat.le_antisymm (Nat.not_lt.1 (done_unique h hb he' ha he))
          (Nat.not_lt.1 (done_unique h ha he hb he'))
      rw [outcome_unique h.of_map hended (ended_of_getElem? hb he')]
    | leaves hb hp => exact absurd (mem_dropped_of_getElem? hb hp) (not_dropped_of_ended h hended)
  | @leaves k ha hp =>
    cases hy with
    | stays hq => exact final (.leaves ha hp) hq
    | ends hb he =>
      exact absurd (mem_dropped_of_getElem? ha hp)
        (not_dropped_of_ended h (ended_of_getElem? hb he))
    | @leaves l hb hq =>
      obtain rfl : k = l :=
        Nat.le_antisymm (Nat.not_lt.1 (dropped_unique h hc hb hq hp))
          (Nat.not_lt.1 (dropped_unique h hc ha hp hq))
      rfl

omit h in
/-- What has become of a call that is no longer pending is final. -/
theorem Befalls.final {x : Lot} (h : ((made (launched s n) (bs ++ cs)).map (·.name)).Nodup)
    (hc : c ∈ made (launched s n) bs) (hx : Befalls (launched s n) bs c x) (hne : x ≠ .pending) :
    c.name ∉ ((launched s n).after (bs ++ cs)).pending ∧
      ∀ o, .ended c o ∉ history ((launched s n).after bs) cs := by
  have hmade : c ∈ made (launched s n) (bs ++ cs) := by
    rw [made, along_append]
    exact List.mem_append_left _ hc
  rcases hx.ended_or_dropped hne with ⟨o, ho⟩ | hd
  · have hended : .ended c o ∈ history (launched s n) (bs ++ cs) := by
      rw [history_append]
      exact List.mem_append_left _ ho
    refine ⟨fun hp => ?_, not_ended_again h ho⟩
    exact ((name_pending_iff h (List.prefix_refl _) hmade).1 hp).2.1 o hended
  · have hdropped : c.name ∈ dropped (launched s n) (bs ++ cs) := by
      rw [dropped, along_append]
      exact List.mem_append_left _ hd
    refine ⟨fun hp => ?_, fun o ho => ?_⟩
    · exact ((name_pending_iff h (List.prefix_refl _) hmade).1 hp).2.2 hdropped
    · refine not_dropped_of_ended h (o := o) ?_ hdropped
      rw [history_append]
      exact List.mem_append_right _ ho

end

/-- After every run in which no two calls have one name, each call that was made is pending, or
ended in one action with one outcome, or was dropped by one action that found it pending, and only
one of these; each end is seen once. A call that ended or was dropped in a part of the run is not
pending afterwards and its end is not seen again. Only calls that were made end, and a cancel of a
name that is not pending changes nothing. -/
theorem answered_once (s : PoolSettings) (n : Nat) (as : List Action)
    (h : ((made (launched s n) as).map (·.name)).Nodup) :
    (∀ c ∈ made (launched s n) as, ∃! x, Befalls (launched s n) as c x) ∧
    (∀ c, (endings (history (launched s n) as)).count c ≤ 1) ∧
    (∀ bs cs c x, as = bs ++ cs → c ∈ made (launched s n) bs → Befalls (launched s n) bs c x →
      x ≠ .pending → c.name ∉ ((launched s n).after as).pending ∧
        ∀ o, .ended c o ∉ history ((launched s n).after bs) cs) ∧
    (∀ k a c o, as[k]? = some a →
      .ended c o ∈ (((launched s n).after (as.take k)).step a).2.effects →
        c ∈ made (launched s n) (as.take (k + 1))) ∧
    ∀ name, name ∉ ((launched s n).after as).pending →
      ((launched s n).after as).step (.cancel name) =
        (.noCall, ((launched s n).after as).unseen) := by
  refine ⟨fun c hc => ?_, count_endings_le_one h, ?_, fun k a c o ha he => mem_made_of_ended ha he,
    fun name hname => cancel_of_not_pending (p := unseen _) hname⟩
  · have hlot : ∃ x, Befalls (launched s n) as c x := by
      by_cases hp : c.name ∈ ((launched s n).after as).pending
      · exact ⟨_, .stays hp⟩
      · refine exists_befalls ?_
        by_contra hno
        rw [not_or, not_exists] at hno
        exact hp ((name_pending_iff h (List.prefix_refl as) hc).2 ⟨hc, hno⟩)
    obtain ⟨x, hx⟩ := hlot
    exact ⟨x, hx, fun y hy => befalls_unique h hc hy hx⟩
  · rintro bs cs c x rfl hc hx hne
    exact hx.final h hc hne

/-- Of three calls on a pool of one worker the second is cancelled while it waits for the worker,
and then the interpreter dies: the first ends with the interpreter. -/
theorem answered_once_of_three :
    let as := [Action.dispatch (.plain "a"), .handle 0 (.plain "b"), .dispatch (.plain "c"),
      .cancel "b", .exit 0]
    ((made (launched .plain 1) as).map (·.name)).Nodup ∧
      (∃! x, Befalls (launched .plain 1) as (.plain "a") x) ∧
      Befalls (launched .plain 1) as (.plain "a") (.done 4 (.failed (.closed 0))) ∧
      Befalls (launched .plain 1) as (.plain "b") (.dropped 3) := by
  intro as
  have hnames : ((made (launched .plain 1) as).map (·.name)).Nodup := by decide +kernel
  have honce := (answered_once .plain 1 as hnames).1 (.plain "a") (by decide +kernel)
  refine ⟨hnames, honce, .ends (a := .exit 0) rfl ?_, .leaves rfl ?_⟩
  · decide +kernel
  · decide +kernel

end FunctionHost.Pool
