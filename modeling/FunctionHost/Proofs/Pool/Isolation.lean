import FunctionHost.Proofs.Pool.Served
import FunctionHost.Proofs.Pool.Track
/-!
# Isolation of replies

The output of a worker's interpreter is tracked from its launch (`Track`), whichever calls begin and
end on the worker. A call that ends early leaves its lines to the next one, a call that begins is
for a request of which nothing was printed before (`Ledger.new_id`), and what is printed continues a
transcript (`Orderly`). So each move and each action keeps the worker isolated (`Isolated`).

Main statement: `reply_isolation`, if the interpreter of a worker is orderly, each reply read from
its output is the reply printed for the call, however the calls before it ended.
-/

namespace FunctionHost.Pool

open FunctionHost.Output FunctionHost.Marker

/-- The calls whose statements were written to worker `i`, in order. -/
def sent (i : Nat) : List Effect → List Call
  | .obtained j c :: .wrote k _ :: es => if j = i ∧ k = i then c :: sent i es else sent i es
  | _ :: es => sent i es
  | [] => []

/-- The interpreter of worker `i` is orderly in a run: whenever it prints, all that it has printed
is the beginning of a transcript of calls that were written to it before. -/
def Orderly (answer : Call → Reply) (i : Nat) (p : Pool) (as : List Action) : Prop :=
  ∀ bs data, bs ++ [.stdout i data] <+: as → ∃ cs whole, cs <+: sent i (history p bs) ∧
    Transcript answer cs whole ∧ printed i p (bs ++ [.stdout i data]) <+: whole

/-! ### Calls that were sent -/

section

variable {i : Nat} {es fs : List Effect}

theorem sent_append (h : ∀ k t gs, fs ≠ .wrote k t :: gs) :
    sent i (es ++ fs) = sent i es ++ sent i fs := by
  induction es using sent.induct i with
  | case1 j c k t es hj ih =>
    rw [List.cons_append, List.cons_append, sent, sent, if_pos hj, if_pos hj, ih, List.cons_append]
  | case2 j c k t es hj ih =>
    rw [List.cons_append, List.cons_append, sent, sent, if_neg hj, if_neg hj, ih]
  | case3 e es hne ih =>
    rw [List.cons_append, sent, ih, sent]
    · exact hne
    · intro j c k t gs he hgs
      cases es with
      | nil => exact h k t gs hgs
      | cons f es => exact hne j c k t es he (congrArg (· :: es) (List.cons.inj hgs).1)
  | case4 => rfl

/-- Nothing is sent if no call gets a worker. -/
theorem sent_eq_nil (h : ∀ j c, .obtained j c ∉ fs) : sent i fs = [] := by
  induction fs using sent.induct i with
  | case1 j c k t es hj ih => exact absurd List.mem_cons_self (h j c)
  | case2 j c k t es hj ih => exact absurd List.mem_cons_self (h j c)
  | case3 e es hne ih =>
    rw [sent]
    · exact ih fun j c hm => h j c (List.mem_cons_of_mem _ hm)
    · exact hne
  | case4 => rfl

theorem sent_append_of_notMem (hno : ∀ j c, .obtained j c ∉ fs) (hw : ∀ k t, .wrote k t ∉ fs) :
    sent i (es ++ fs) = sent i es := by
  have hhead : ∀ k t gs, fs ≠ .wrote k t :: gs := by
    intro k t gs hfs
    rw [hfs] at hw
    exact hw k t List.mem_cons_self
  rw [sent_append hhead, sent_eq_nil hno, List.append_nil]

/-- A call that was sent got the worker. -/
theorem obtained_of_mem_sent {c : Call} (h : c ∈ sent i es) : .obtained i c ∈ es := by
  induction es using sent.induct i with
  | case1 j d k t es hj ih =>
    rw [sent, if_pos hj] at h
    rcases List.mem_cons.1 h with rfl | h
    · rw [hj.1]
      exact List.mem_cons_self
    · exact List.mem_cons_of_mem _ (List.mem_cons_of_mem _ (ih h))
  | case2 j d k t es hj ih =>
    rw [sent, if_neg hj] at h
    exact List.mem_cons_of_mem _ (List.mem_cons_of_mem _ (ih h))
  | case3 e es hne ih =>
    rw [sent] at h
    · exact List.mem_cons_of_mem _ (ih h)
    · exact hne
  | case4 => cases h

end

/-! ### One thing at a time -/

/-- Worker `i` has been orderly so far: its interpreter has printed `bytes`, and `E` was seen. -/
structure Isolated (answer : Call → Reply) (i : Nat) (bytes : List UInt8) (E : List Effect)
    (p : Pool) : Prop where
  /-- The worker keeps track of its output. -/
  track : ∀ w, p.workers[i]? = some w → Track (sent i E) bytes w
  /-- What was printed is the beginning of a transcript of calls that were sent. -/
  orderly : ∃ cs whole, cs <+: sent i E ∧ Transcript answer cs whole ∧ bytes <+: whole
  /-- The calls that were sent are for requests of distinct ids. -/
  distinct : ((sent i E).map Call.requestId).Nodup
  /-- Each reply that was read is the one printed for the call. -/
  right : ∀ c r, .completed i c r ∈ E → r = answer c

section

variable {answer : Call → Reply} {i k : Nat} {bytes : List UInt8} {E fs : List Effect} {p q : Pool}
  {w v : Worker}

/-- If one worker changes, only its own track changes. -/
theorem track_of_set {calls : List Call} (h : ∀ w, p.workers[i]? = some w → Track calls bytes w)
    (hw : p.workers[k]? = some w) (hws : q.workers = p.workers.set k v)
    (hv : k = i → Track calls bytes w → Track calls bytes v) :
    ∀ u, q.workers[i]? = some u → Track calls bytes u := by
  intro u hu
  obtain ⟨rfl, rfl⟩ | ⟨-, hu⟩ := worker_of_set hws hu
  · exact hv rfl (h w hw)
  · exact h u hu

variable (h : Isolated answer i bytes E p)
include h

/-- Nothing is sent, and the replies that are read are right. -/
theorem Isolated.extend (hsent : sent i (E ++ fs) = sent i E)
    (hright : ∀ c r, .completed i c r ∈ fs → r = answer c)
    (ht : ∀ u, q.workers[i]? = some u → Track (sent i E) bytes u) :
    Isolated answer i bytes (E ++ fs) q := by
  refine ⟨?_, ?_, ?_, fun c r hc => ?_⟩
  · rwa [hsent]
  · rw [hsent]
    exact h.orderly
  · rw [hsent]
    exact h.distinct
  · rcases List.mem_append.1 hc with hc | hc
    · exact h.right c r hc
    · exact hright c r hc

/-- The workers stay. -/
theorem Isolated.same (hws : q.workers = p.workers) (hsent : sent i (E ++ fs) = sent i E)
    (hno : ∀ c r, .completed i c r ∉ fs) : Isolated answer i bytes (E ++ fs) q :=
  h.extend hsent (fun c r hc => absurd hc (hno c r)) (hws ▸ h.track)

/-- A worker changes to one like it. -/
theorem Isolated.like (hw : p.workers[k]? = some w) (hws : q.workers = p.workers.set k v)
    (hl : Like v w) (hsent : sent i (E ++ fs) = sent i E) (hno : ∀ c r, .completed i c r ∉ fs) :
    Isolated answer i bytes (E ++ fs) q :=
  h.extend hsent (fun c r hc => absurd hc (hno c r))
    (track_of_set h.track hw hws fun _ ht => ht.like hl)

theorem Isolated.same_of_unseen (hws : q.workers = p.workers) : Isolated answer i bytes E q :=
  ⟨hws ▸ h.track, h.orderly, h.distinct, h.right⟩

theorem Isolated.like_of_unseen (hw : p.workers[k]? = some w)
    (hws : q.workers = p.workers.set k v) (hl : Like v w) : Isolated answer i bytes E q :=
  ⟨track_of_set h.track hw hws fun _ ht => ht.like hl, h.orderly, h.distinct, h.right⟩

/-- A call of a new request is sent. -/
theorem Isolated.begins {c : Call} {now : Nat} {t : String} (hw : p.workers[k]? = some w)
    (ha : w.alive = true) (hws : q.workers = p.workers.set k (w.seizedBy c now))
    (hfit : ∀ d ∈ sent i E, Fit d.requestId)
    (hnew : c.requestId ∉ (sent i E).map Call.requestId) :
    Isolated answer i bytes (E ++ [.obtained k c, .wrote k t]) q := by
  have hseen : ∀ {d : Call} {r : Reply},
      .completed i d r ∈ E ++ [.obtained k c, .wrote k t] → r = answer d := fun hd =>
    h.right _ _ (by simpa using hd)
  have hsent : sent i (E ++ [.obtained k c, .wrote k t]) =
      sent i E ++ if k = i then [c] else [] := by
    rw [sent_append (by simp)]
    simp [sent]
  by_cases hki : k = i
  · subst hki
    rw [if_pos rfl] at hsent
    obtain ⟨cs, whole, hcs, hs, hp⟩ := h.orderly
    refine ⟨fun u hu => ?_, ⟨cs, whole, ?_, hs, hp⟩, ?_, fun d r => hseen⟩
    · rw [hws, List.getElem?_set_self (List.getElem?_eq_some_iff.1 hw).1] at hu
      cases hu
      rw [hsent]
      refine (h.track w hw).seizedBy ha (hs.silent (fun d hd => hfit d (hcs.subset hd)) hp ?_) now
      exact fun hm => hnew ((hcs.sublist.map _).subset hm)
    · rw [hsent]
      exact hcs.trans (List.prefix_append _ _)
    · rw [hsent, List.map_append]
      refine List.nodup_append.2 ⟨h.distinct, List.nodup_singleton _, fun x hx y hy hxy => ?_⟩
      rw [hxy, List.mem_singleton.1 hy] at hx
      exact hnew hx
  · rw [if_neg hki, List.append_nil] at hsent
    exact h.extend hsent (by simp) (track_of_set h.track hw hws fun hi _ => absurd hi hki)

end

section

variable {answer : Call → Reply} {i : Nat} {bytes : List UInt8} {made gone : List Call}
  {es fs : List Effect} {p q : Pool}

theorem Isolated.seen (he : q.effects = p.effects ++ fs)
    (h : Isolated answer i bytes (es ++ p.effects ++ fs) q) :
    Isolated answer i bytes (es ++ q.effects) q := by
  rwa [he, ← List.append_assoc]

variable (hl : Ledger made gone es p) (hids : (made.map Call.requestId).Nodup)
include hl hids

/-- A call that comes for a worker is for a request of a new id. -/
theorem Ledger.new_id {k : Nat} {c : Call} (hc : Comes p k c q) :
    c.requestId ∉ (sent i (es ++ p.effects)).map Call.requestId := by
  intro hm
  obtain ⟨d, hd, hdc⟩ := List.mem_map.1 hm
  have ho := obtained_of_mem_sent hd
  have heq : d = c := List.inj_on_of_nodup_map hids (hl.mem_made_of_obtained ho)
    (hl.mem_made hc.mem_calls) hdc
  rw [heq] at ho
  exact (hl.fresh hids.of_map hc).2 i ho

variable (hfit : ∀ c ∈ made, Fit c.requestId)
include hfit

theorem Isolated.stir (hm : Stir p q) (hs : p.Sound)
    (h : Isolated answer i bytes (es ++ p.effects) p) :
    Isolated answer i bytes (es ++ q.effects) q := by
  have quiet : ∀ {fs : List Effect}, (∀ j c, .obtained j c ∉ fs) → (∀ j t, .wrote j t ∉ fs) →
      sent i (es ++ p.effects ++ fs) = sent i (es ++ p.effects) := sent_append_of_notMem
  have hfit : ∀ c ∈ sent i (es ++ p.effects), Fit c.requestId := fun c hc =>
    hfit c (hl.mem_made_of_obtained (obtained_of_mem_sent hc))
  cases hm with
  | @begins q k c w hc hw hr =>
    rw [hc.workers] at hw
    have ha : w.alive = true := by
      by_contra hf
      rw [(hs.at hw).reading (Bool.eq_false_iff.2 hf)] at hr
      cases hr
    exact .seen (hc.effects_seize w)
      (h.begins hw ha (hc.workers_seize w) hfit (hl.new_id hids hc))
  | @fails q k c w hc hw hr =>
    have hws := hc.workers_fail hw (.failed (.write k))
    have heff := hc.effects_fail hw (.failed (.write k))
    rw [hc.workers] at hw
    refine .seen heff (h.like hw hws (Like.refl w).passedOn ?_ (by simp))
    rw [sent_append (by simp)]
    exact List.append_nil _
  | turnsAway b hr hf hd =>
    exact .seen (effects_note _ _) (h.same rfl (quiet (by simp) (by simp)) (by simp))
  | @reads k w inv hw hinv hd =>
    exact .seen rfl (h.extend (quiet (by simp) (by simp)) (by simp)
      (track_of_set h.track hw rfl fun _ ht => ht.reads hinv hd))
  | @completes k w inv hw hinv hd =>
    refine .seen (effects_finish_notes hw _ _ _ _ _) (h.extend (quiet (by simp) (by simp)) ?_
      (track_of_set h.track hw (workers_finish_notes hw _ _ _ _ _) fun _ ht => ht.completes hd))
    intro c r hr
    obtain ⟨rfl, rfl, rfl⟩ :
        i = k ∧ c = inv.call ∧ r = (inv.decoder.run w.unread).decoder.reply := by simpa using hr
    obtain ⟨cs, whole, hcs, hscript, hp⟩ := h.orderly
    exact (h.track w hw).reply_eq hinv hscript hp (fun d hd => hfit d (hcs.subset hd)) hcs
      h.distinct hd
  | @closes k w inv hw hinv ha hu =>
    have hlike : Like { w with terminated := true } w := ⟨rfl, rfl, rfl, fun _ hi => hi⟩
    exact .seen (effects_finish_setWorker hw _ _ _) (h.like hw (workers_finish_setWorker hw _ _ _)
      hlike.passedOn (quiet (by simp) (by simp)) (by simp))
  | @expires k w inv hw hinv ht =>
    exact .seen (effects_finish hw _ _) (h.like hw (workers_finish hw _ _) (Like.refl w).passedOn
      (quiet (by simp) (by simp)) (by simp))
  | givesUp =>
    exact .seen (effects_expireWaiting p _) (h.same rfl (quiet (by simp) (by simp)) (by simp))
  | errs data hw =>
    exact .seen rfl (h.like hw rfl ⟨rfl, rfl, rfl, fun _ hi => hi⟩
      (quiet (not_mem_said _ _) (by simp [said])) (by simp [said]))
  | deafens hw => exact h.like_of_unseen hw rfl ⟨rfl, rfl, rfl, fun _ hi => hi⟩
  | _ => exact h.same_of_unseen rfl

theorem Isolated.move (hm : Move p q) (hs : p.Sound)
    (h : Isolated answer i bytes (es ++ p.effects) p) :
    Isolated answer i bytes (es ++ q.effects) q := by
  cases hm with
  | stirs hm => exact h.stir hl hids hfit hm hs
  | wakesAll => exact h.same_of_unseen rfl
  | dies hw ha =>
    exact .seen rfl (h.extend (sent_append_of_notMem (not_mem_said _ _) (by simp [said]))
      (by simp [said]) (track_of_set h.track hw rfl fun _ ht => ht.die ha))
  | reports =>
    exact .seen (effects_note _ _) (h.same rfl (sent_append_of_notMem (by simp) (by simp)) (by simp))
  | marks hw ha => exact h.like_of_unseen hw rfl ⟨rfl, rfl, rfl, fun _ hi => hi⟩

end

/-! ### Actions and runs -/

section

variable {answer : Call → Reply} {i : Nat} {bytes data : List UInt8} {E : List Effect}
  {p q : Pool} (h : Isolated answer i bytes E p)
include h

theorem Isolated.unseen : Isolated answer i bytes (E ++ p.unseen.effects) p.unseen := by
  rw [show E ++ p.unseen.effects = E from List.append_nil E]
  exact h.same_of_unseen rfl

theorem Isolated.enters {c : Call} (he : Enters p.unseen c q) :
    Isolated answer i bytes (E ++ q.effects) q := by
  have hu := h.unseen
  cases he with
  | looks => exact hu.same_of_unseen rfl
  | granted hw hf =>
    refine hu.like_of_unseen hw rfl ⟨rfl, rfl, rfl, fun inv hinv => ?_⟩
    cases hinv
  | queued hw ht hf => exact hu.like_of_unseen hw rfl ⟨rfl, rfl, rfl, fun _ hi => hi⟩
  | @rejected k w o hw ho =>
    have hsent : sent i (E ++ [.ended c o]) = sent i E :=
      sent_append_of_notMem (by simp) (by simp)
    have hno : ∀ d r, .completed i d r ∉ [Effect.ended c o] := by simp
    exact h.same rfl hsent hno

theorem Isolated.drops {name : String} (hd : Drops p.unseen name q) :
    Isolated answer i bytes (E ++ q.effects) q := by
  have hu := h.unseen
  cases hd with
  | @running k w inv hw hinv hn =>
    rw [effects_release hw]
    exact hu.like_of_unseen hw (workers_release hw) (Like.refl w).passedOn
  | queued hw hq => exact hu.like_of_unseen hw rfl ⟨rfl, rfl, rfl, fun _ hi => hi⟩
  | waiting hw => exact hu.same_of_unseen rfl

/-- The interpreter of the worker prints, and is orderly as before. -/
theorem Isolated.prints (hp : Prints p.unseen i data q)
    (horderly : ∃ cs whole, cs <+: sent i E ∧ Transcript answer cs whole ∧
      bytes ++ data <+: whole) :
    Isolated answer i (bytes ++ data) (E ++ q.effects) q := by
  cases hp with
  | @feeds w hw ha =>
    rw [show E ++ (p.unseen.setWorker i _).effects = E from List.append_nil E]
    refine ⟨fun u hu => ?_, horderly, h.distinct, h.right⟩
    rw [workers_setWorker, List.getElem?_set_self (List.getElem?_eq_some_iff.1 hw).1] at hu
    cases hu
    exact (h.track w hw).feed ha data

/-- The interpreter of another worker prints. -/
theorem Isolated.prints_other {k : Nat} (hki : k ≠ i) (hp : Prints p.unseen k data q) :
    Isolated answer i bytes (E ++ q.effects) q := by
  cases hp with
  | feeds hw ha =>
    rw [show E ++ (p.unseen.setWorker k _).effects = E from List.append_nil E]
    exact ⟨track_of_set h.track hw rfl fun hi _ => absurd hi hki, h.orderly, h.distinct, h.right⟩

end

theorem orderly_nil (answer : Call → Reply) (i : Nat) (p : Pool) : Orderly answer i p [] := by
  intro bs data h
  simp at h

section

variable {answer : Call → Reply} {i : Nat} {p : Pool} {as : List Action} {a : Action}

/-- An interpreter that is orderly in a run was so before. -/
theorem Orderly.of_concat (h : Orderly answer i p (as ++ [a])) : Orderly answer i p as :=
  fun bs data hb => h bs data (hb.trans (List.prefix_append _ _))

/-- An interpreter stays orderly if what it prints next continues a transcript. -/
theorem Orderly.concat (h : Orderly answer i p as)
    (ha : ∀ data, a = .stdout i data → ∃ cs whole, cs <+: sent i (history p as) ∧
      Transcript answer cs whole ∧ printed i p (as ++ [a]) <+: whole) :
    Orderly answer i p (as ++ [a]) := by
  intro bs data hb
  rcases List.prefix_concat_iff.1 hb with heq | hb
  · obtain ⟨rfl, hlast⟩ := List.append_inj' heq rfl
    cases hlast
    exact ha data rfl
  · exact h bs data hb

end

/-- The output of an orderly interpreter is tracked in every run. -/
theorem isolated_after (s : PoolSettings) (n : Nat) (as : List Action) (i : Nat)
    (answer : Call → Reply) (hids : ((made (launched s n) as).map Call.requestId).Nodup)
    (hfit : ∀ c ∈ made (launched s n) as, Fit c.requestId)
    (horderly : Orderly answer i (launched s n) as) :
    Isolated answer i (printed i (launched s n) as) (history (launched s n) as)
      ((launched s n).after as) := by
  refine seen_induction s n (motive := fun as E p =>
    ((made (launched s n) as).map Call.requestId).Nodup →
      (∀ c ∈ made (launched s n) as, Fit c.requestId) → Orderly answer i (launched s n) as →
        Isolated answer i (printed i (launched s n) as) E p)
    ?_ ?_ (fun hl hs hm ih hids hfit ho => (ih hids hfit ho).move hl hids hfit hm hs) as
    hids hfit horderly
  · intro _ _ _
    refine ⟨fun w hw => ?_, ⟨[], [], List.prefix_rfl, .nil, List.prefix_rfl⟩, List.nodup_nil,
      by simp⟩
    rw [launched_worker (List.mem_of_getElem? hw)]
    exact ⟨fun _ => rfl, ⟨[], rfl, fun inv hinv => nomatch hinv⟩, fun inv hinv => nomatch hinv⟩
  · intro as a q hd ih hids hfit ho
    rw [made_concat, List.map_append] at hids
    have h := ih (List.nodup_append.1 hids).1
      (fun c hc => hfit c (by rw [made_concat]; exact List.mem_append_left _ hc)) ho.of_concat
    rw [printed_concat]
    cases hd with
    | enters _ _ hprint he =>
      rw [hprint, List.append_nil]
      exact h.enters he
    | drops _ _ hprint hd =>
      rw [hprint, List.append_nil]
      exact h.drops hd
    | @prints k data q _ _ ha hself hother hp =>
      by_cases hki : k = i
      · subst hki
        have hnow := ho as data (ha ▸ List.prefix_rfl)
        rw [← ha, printed_concat, hself] at hnow
        rw [hself]
        exact h.prints hp hnow
      · rw [hother i (Ne.symm hki), List.append_nil]
        exact h.prints_other hki hp
    | other _ _ hprint =>
      rw [hprint, List.append_nil]
      exact h.unseen

/-! ### The result -/

/-- In every run in which calls are for requests of distinct ids that fit into markers, and the
interpreter of worker `i` is orderly: each reply read from its output is the one printed for the
call, and the call ends with it; and if a call that got the worker ends with a reply, it was read
so, unless the call's time was up. -/
theorem reply_isolation (s : PoolSettings) (n : Nat) (as : List Action) (i : Nat)
    (answer : Call → Reply) (hids : ((made (launched s n) as).map Call.requestId).Nodup)
    (hfit : ∀ c ∈ made (launched s n) as, Fit c.requestId)
    (horderly : Orderly answer i (launched s n) as) :
    (∀ c r, .completed i c r ∈ history (launched s n) as →
      r = answer c ∧ .ended c (.reply r) ∈ history (launched s n) as) ∧
    ∀ c r, .obtained i c ∈ history (launched s n) as →
      .ended c (.reply r) ∈ history (launched s n) as →
      .completed i c r ∈ history (launched s n) as ∨ r = .canonical .requestTimeout := by
  have hserved := served_after s n as hids.of_map
  have h := isolated_after s n as i answer hids hfit horderly
  refine ⟨fun c r hc => ⟨h.right c r hc, (hserved.completed i c r hc).2⟩, fun c r ho he => ?_⟩
  rcases hserved.replied c r he with ⟨j, hj⟩ | htime | hnone
  · rw [hserved.once i j c ho (hserved.completed j c r hj).1]
    exact .inl hj
  · exact .inr htime
  · exact absurd ho (hnone i)

/-- Replies for concrete runs: the body is the name of the call. -/
def naming (c : Call) : Reply := ⟨.ok, c.name⟩

/-- A call's time is up when its block is printed in part. The next call on the worker finds the
rest of that block, another line and its own block, and ends with the reply in its own. -/
theorem reply_isolation_after_timeout :
    let a := Call.plain "a"
    let b := Call.plain "b"
    let as := [Action.dispatch a, .stdout 0 ((blockBytes "a" (naming a)).take 40), .advance 100,
      .dispatch b, .stdout 0 ((blockBytes "a" (naming a)).drop 40 ++ joined [lineBytes "loading"] ++
        blockBytes "b" (naming b))]
    (((made (launched .plain 1) as).map Call.requestId).Nodup ∧
      (∀ c ∈ made (launched .plain 1) as, Fit c.requestId) ∧
      Orderly naming 0 (launched .plain 1) as) ∧
    .ended a timedOut ∈ history (launched .plain 1) as ∧
    .ended b (.reply (naming b)) ∈ history (launched .plain 1) as := by
  intro a b as
  have hids : ((made (launched .plain 1) as).map Call.requestId).Nodup := by decide +kernel
  have hfit : ∀ c ∈ made (launched .plain 1) as, Fit c.requestId := by
    intro c hc
    have hmade : made (launched .plain 1) as = [a, b] := by decide +kernel
    rw [hmade, List.mem_cons, List.mem_singleton] at hc
    rcases hc with rfl | rfl
    · exact ⟨by decide, by decide, by decide⟩
    · exact ⟨by decide, by decide, by decide⟩
  have ha : Transcript naming [a] ([] ++ blockBytes "a" (naming a)) :=
    .block .nil ⟨by decide, ⟨by decide, by decide⟩, by decide⟩
  have hb : Transcript naming ([a] ++ [b]) ([] ++ blockBytes "a" (naming a) ++
      joined [lineBytes "loading"] ++ blockBytes "b" (naming b)) :=
    .block (.line ha (by decide +kernel) ⟨by decide +kernel, by decide +kernel⟩)
      ⟨by decide, ⟨by decide, by decide⟩, by decide⟩
  have hpart : Orderly naming 0 (launched .plain 1) (as.take 2) :=
    ((orderly_nil naming 0 (launched .plain 1)).concat (a := .dispatch a) nofun).concat
      fun _ _ => ⟨_, _, by decide +kernel, ha, by decide +kernel⟩
  have hnext : Orderly naming 0 (launched .plain 1) (as.take 4) :=
    (hpart.concat (a := .advance 100) nofun).concat (a := .dispatch b) nofun
  have horderly : Orderly naming 0 (launched .plain 1) as :=
    hnext.concat fun _ _ => ⟨_, _, by decide +kernel, hb, by decide +kernel⟩
  obtain ⟨hreply, -⟩ := reply_isolation .plain 1 as 0 naming hids hfit horderly
  exact ⟨⟨hids, hfit, horderly⟩, by decide +kernel, (hreply b (naming b) (by decide +kernel)).2⟩

end FunctionHost.Pool
