import FunctionHost.Proofs.Pool.Once
import FunctionHost.Proofs.Pool.Pace
/-!
# Calls take a bounded time

A call has a time by which it begins at the latest when it comes in (`Paced.looks`, `Paced.handle`),
no millisecond of the run puts it off (`Paced.step`), and once it has begun it lasts less than the
worker timeout (`punctual_after`). What is seen of it is seen one millisecond after the pool still
held it at the latest (`mem_calls_of_obtained`, `mem_calls_of_ended`), so this bounds the times at
which it gets a worker and ends.

Main statement: `bounded_calls`. The times are those of the `timeline`.
-/

namespace FunctionHost.Pool

open Relation

/-- Call `c` is over by time `t`: it ends no later, and from then on it has ended or was dropped. -/
structure OverBy (p : Pool) (as : List Action) (c : Call) (t : Nat) : Prop where
  /-- It ends no later. -/
  ends : ∀ u o, (u, .ended c o) ∈ timeline p as → u ≤ t
  /-- From then on it is over. -/
  past : t ≤ (p.after as).clock →
    c.name ∈ dropped p as ∨ ∃ u o, (u, .ended c o) ∈ timeline p as

/-- A latest time is set for one call only. -/
def Bound (x : Call) (t : Nat) : Call → Nat → Prop := fun c u => c = x → u ≤ t

/-- Every action takes a millisecond or no time. -/
def Brief (us : List Action) : Prop := ∀ n, .advance n ∈ us → n = 1

theorem Bound.mono {x : Call} {b : Nat} (c : Call) (t u : Nat) (h : t ≤ u) (hb : Bound x b c u) :
    Bound x b c t := fun hc => Nat.le_trans h (hb hc)

theorem brief_moments (as : List Action) : Brief (moments as) := by
  intro n hn
  obtain ⟨a, -, ha⟩ := List.mem_flatMap.1 hn
  cases a with
  | advance m =>
    cases List.eq_of_mem_replicate ha
    rfl
  | _ => cases List.mem_singleton.1 ha

theorem Brief.takes_le {us : List Action} (h : Brief us) {u : Action} (hu : u ∈ us) :
    u.takes ≤ 1 := by
  cases u with
  | advance n => exact Nat.le_of_eq (h n hu)
  | _ => exact Nat.zero_le 1

/-! ### A settled pool -/

section

variable {p : Pool} {B : Call → Nat → Prop} {i : Nat} {w : Worker} {c : Call} {t : Nat}

/-- A call that is held has not been in progress for the worker timeout since the latest time, and
before it is in progress that time has not come. -/
theorem Paced.clock_lt (h : p.Paced (Bound c t)) (hp : p.Regular) (hr : p.ready = [])
    (hpunctual : p.Punctual) (hc : c ∈ p.calls) :
    p.clock < t + p.settings.workerTimeout ∧
      ((∀ i, p.callOn i ≠ some c) → p.clock < t) := by
  rw [calls_of_settled hr] at hc
  rcases List.mem_append.1 hc with hc | hc
  · obtain ⟨i, w, hw, hc⟩ := mem_callsOn_iff.1 hc
    obtain ⟨j, hj⟩ := List.mem_iff_getElem?.1 hc
    obtain ⟨inv, hinv, hat⟩ := running_of_calls hp.sound hp.turns hr hw hj
    have hbegins := (h.at hw).begins j c hj rfl
    have hlt := hpunctual.inTime i w hw inv hinv
    rw [Worker.since, hinv] at hbegins
    cases j with
    | zero =>
      rw [Nat.zero_mul] at hbegins
      refine ⟨by dsimp only at hbegins; omega, fun hno => absurd ?_ (hno i)⟩
      exact (callOn_eq hw).trans (Worker.call?_eq_some_iff.2 ⟨inv, hinv, Option.some.inj hat⟩)
    | succ j =>
      rw [Nat.succ_mul] at hbegins
      dsimp only at hbegins
      exact ⟨by omega, fun _ => by omega⟩
  · obtain ⟨d, hd, rfl⟩ := List.mem_map.1 hc
    have hdeadline := (h.line d (.inl hd)).2 rfl
    have hlt := hpunctual.hopeful d hd
    exact ⟨by omega, fun _ => by omega⟩

/-- A call that is made on a worker begins after those that are on it. -/
theorem Paced.handle (hB : ∀ c t u, t ≤ u → B c u → B c t) (h : p.Paced B) (hs : p.Sound)
    (hr : p.ready = []) (hw : p.workers[i]? = some w)
    (hc : B c (p.clock + w.calls.length * p.settings.workerTimeout)) : (p.handle i c).Paced B := by
  unfold Pool.handle
  rw [hw]
  dsimp only
  split
  next => exact h.same rfl rfl fun _ => id
  next =>
    split
    next hf =>
      have hgranted := h.granted hs hw hf (hB _ _ _ (Nat.le_add_right _ _) hc)
      have hsound := hs.setWorker (i := i) (w := { w with hold := .granted c })
        ⟨nofun, (hs.at hw).terminated, (hs.at hw).reading⟩
      refine hgranted.moves hB hsound (moves_of_stirs (start_stirs_of_free hr hw c)) ?_
      exact clock_of_scene ((scene_settle _).trans (scene_start _ _ _))
    next hf =>
      have hsince : w.since p.clock ≤ p.clock := by
        unfold Worker.since
        split
        next inv hinv => exact ((h.at hw).started inv hinv).1
        next => exact Nat.le_refl _
      exact h.queued hw (hB _ _ _ (Nat.add_le_add_right hsince _) hc)

/-- A call that is made on the pool begins before its deadline. -/
theorem Paced.dispatch (hB : ∀ c t u, t ≤ u → B c u → B c t) (h : p.Paced B) (hs : p.Sound)
    (hc : B c (p.clock + p.settings.dispatchTimeout)) : (p.dispatch c).Paced B :=
  (h.looks hc).moves hB hs (moves_of_stirs (settle_stirs _)) (clock_of_scene (scene_settle _))

end

/-! ### A run, millisecond by millisecond -/

section

variable {s : PoolSettings} {n : Nat} {us vs : List Action} {a : Action} {c : Call} {t : Nat}
  {B : Call → Nat → Prop}

theorem paced_launched (s : PoolSettings) (n : Nat) : (launched s n).Paced B := by
  refine ⟨fun w hw => ?_, fun d hd => ?_⟩
  · rw [launched_worker hw]
    exact ⟨nofun, fun j c hc => by simp [Worker.calls, Hold.calls] at hc⟩
  · rcases hd with hd | hd <;> cases hd

/-- What no action puts off is not put off in a run. -/
theorem Paced.run (hB : ∀ c t u, t ≤ u → B c u → B c t) (h : ((launched s n).after us).Paced B)
    (hbrief : Brief vs) (hnew : ∀ c ∈ made ((launched s n).after us) vs, ∀ t, B c t) :
    ((launched s n).after (us ++ vs)).Paced B := by
  induction vs generalizing us with
  | nil => rwa [List.append_nil]
  | cons v vs ih =>
    have hstep : ((launched s n).after (us ++ [v])).Paced B := by
      rw [after_concat]
      refine h.step hB (regular_after s n us) (ready_after rfl us) (punctual_after s n us)
        (fun m hm => hbrief m (hm ▸ List.mem_cons_self)) fun c hc => ?_
      exact hnew c (List.mem_append_left _ hc)
    have hrest := ih hstep (fun m hm => hbrief m (List.mem_cons_of_mem _ hm)) fun c hc => by
      rw [after_concat] at hc
      exact hnew c (List.mem_append_right _ hc)
    rwa [List.append_assoc, List.singleton_append] at hrest

/-- What is seen of a call was made. -/
theorem mem_made_of_seen {as : List Action} (h : (∃ i, .obtained i c ∈ history (launched s n) as) ∨
    ∃ o, .ended c o ∈ history (launched s n) as) : c ∈ made (launched s n) as := by
  obtain ⟨gone, hl, -, -⟩ := ledger_after s n as
  rcases h with ⟨i, ho⟩ | ⟨o, he⟩
  · exact hl.mem_made_of_obtained (List.mem_append_left _ ho)
  · have hbalance := hl.read.1 c
    have hpos := List.count_pos_iff.2 (mem_endings_iff.2 ⟨o, he⟩)
    exact List.count_pos_iff.1 (by omega)

/-- What is seen of a call in a run, and not before it is made, is seen in the action that makes it
or in a later one. -/
theorem mem_timed_cases {e : Effect} (hno : e ∉ history (launched s n) us)
    (he : (t, e) ∈ along timed (launched s n) (us ++ a :: vs)) :
    (e ∈ (((launched s n).after us).step a).2.effects ∧
      t = (((launched s n).after us).step a).2.clock) ∨
    ∃ ks v ls, vs = ks ++ v :: ls ∧
      e ∈ (((launched s n).after (us ++ a :: ks)).step v).2.effects ∧
      t = (((launched s n).after (us ++ a :: ks)).step v).2.clock := by
  obtain ⟨bs, b, cs, heq, hb⟩ := mem_along_iff.1 he
  obtain ⟨e', he', hpair⟩ := List.mem_map.1 hb
  cases hpair
  rcases List.append_eq_append_iff.1 heq with ⟨ks, rfl, hks⟩ | ⟨ks, rfl, hks⟩
  · cases ks with
    | nil =>
      cases hks
      rw [List.append_nil] at he' ⊢
      exact .inl ⟨he', rfl⟩
    | cons k ks =>
      cases hks
      exact .inr ⟨ks, b, cs, rfl, he', rfl⟩
  · cases ks with
    | nil =>
      cases hks
      rw [List.append_nil] at *
      exact .inl ⟨he', rfl⟩
    | cons k ks =>
      cases hks
      exact absurd (mem_along_iff.2 ⟨bs, b, ks, rfl, he'⟩) hno

section

variable (h : (made (launched s n) (us ++ a :: vs)).Nodup)
  (hmade : madeBy ((launched s n).after us) a = [c])
include h hmade

/-- A call is made once. -/
theorem not_mem_made : c ∉ made (launched s n) us ∧
    c ∉ made ((launched s n).after (us ++ [a])) vs := by
  have hsplit : made (launched s n) (us ++ a :: vs) =
      made (launched s n) us ++ ([c] ++ made ((launched s n).after (us ++ [a])) vs) := by
    rw [made, along_append, along, hmade, after_concat]
    rfl
  rw [hsplit] at h
  obtain ⟨-, hrest, hdisjoint⟩ := List.nodup_append.1 h
  refine ⟨fun hc => hdisjoint c hc c (List.mem_append_left _ (List.mem_singleton_self c)) rfl,
    fun hc => (List.nodup_append.1 hrest).2.2 c (List.mem_singleton_self c) c hc rfl⟩

/-- If a call begins by time `t` at the latest when it has come in, this holds on. -/
theorem paced_later (hbrief : Brief vs)
    (hpaced : ((launched s n).after (us ++ [a])).Paced (Bound c t)) (ks ls : List Action)
    (hvs : vs = ks ++ ls) : ((launched s n).after (us ++ a :: ks)).Paced (Bound c t) := by
  have hno := (not_mem_made h hmade).2
  rw [hvs, made, along_append] at hno
  have hbrief' : Brief ks := fun m hm => hbrief m (hvs ▸ List.mem_append_left _ hm)
  have hrun := hpaced.run Bound.mono hbrief' fun d hd u hdc => by
    rw [hdc] at hd
    exact absurd (List.mem_append_left _ hd) hno
  rwa [List.append_assoc, List.singleton_append] at hrun

/-- If a call begins by time `t` at the latest when it has come in, it is held no longer than the
worker timeout after that, and not beyond `t` unless it is in progress. -/
theorem clock_lt_of_held (hbrief : Brief vs)
    (hpaced : ((launched s n).after (us ++ [a])).Paced (Bound c t)) {ks ls : List Action}
    (hvs : vs = ks ++ ls) (hc : c ∈ ((launched s n).after (us ++ a :: ks)).calls) :
    ((launched s n).after (us ++ a :: ks)).clock < t + s.workerTimeout ∧
      ((∀ i, ((launched s n).after (us ++ a :: ks)).callOn i ≠ some c) →
        ((launched s n).after (us ++ a :: ks)).clock < t) := by
  have hlt := (paced_later h hmade hbrief hpaced ks ls hvs).clock_lt
    (regular_after s n _) (ready_after rfl _) (punctual_after s n _) hc
  rwa [settings_after] at hlt

/-- A later action is one of a run in which no call is made twice and this one was made before, and
it takes a millisecond at most. -/
theorem later_action (hbrief : Brief vs) {ks ls : List Action} {v : Action}
    (hvs : vs = ks ++ v :: ls) :
    (made (launched s n) (us ++ a :: ks ++ [v])).Nodup ∧
      c ∈ made (launched s n) (us ++ a :: ks) ∧
      (((launched s n).after (us ++ a :: ks)).step v).2.clock ≤
        ((launched s n).after (us ++ a :: ks)).clock + 1 := by
  refine ⟨?_, ?_, ?_⟩
  · have hsplit : us ++ a :: vs = us ++ a :: ks ++ [v] ++ ls := by simp [hvs]
    rw [hsplit, made, along_append] at h
    exact (List.nodup_append.1 h).1
  · rw [made, along_append, along, hmade]
    exact List.mem_append_right _ List.mem_cons_self
  · have hv : v.takes ≤ 1 := hbrief.takes_le (by rw [hvs]; simp)
    have hscene := congrArg Prod.fst (scene_step ((launched s n).after (us ++ a :: ks)) v)
    exact Nat.le_trans (Nat.le_of_eq hscene) (Nat.add_le_add_left hv _)

/-- If a call begins by time `t` at the latest when it has come in, it gets a worker no later, ends
within the worker timeout after that, and is not held then. -/
theorem bounded_of_paced (htakes : a.takes = 0) (hbrief : Brief vs)
    (ht : ((launched s n).after us).clock ≤ t)
    (hpaced : ((launched s n).after (us ++ [a])).Paced (Bound c t)) :
    (∀ u i, (u, .obtained i c) ∈ along timed (launched s n) (us ++ a :: vs) → u ≤ t) ∧
    (∀ u o, (u, .ended c o) ∈ along timed (launched s n) (us ++ a :: vs) →
      u ≤ t + s.workerTimeout) ∧
    (c ∈ ((launched s n).after (us ++ a :: vs)).calls →
      ((launched s n).after (us ++ a :: vs)).clock < t + s.workerTimeout) := by
  have hbefore := (not_mem_made h hmade).1
  have hclock : (((launched s n).after us).step a).2.clock ≤ t := by
    have hscene := congrArg Prod.fst (scene_step ((launched s n).after us) a)
    rw [htakes] at hscene
    exact Nat.le_trans (Nat.le_of_eq hscene) ht
  refine ⟨fun u i hu => ?_, fun u o hu => ?_, fun hc => ?_⟩
  · rcases mem_timed_cases (fun ho => hbefore (mem_made_of_seen (.inl ⟨i, ho⟩))) hu with
      ⟨-, rfl⟩ | ⟨ks, v, ls, hvs, he, rfl⟩
    · exact hclock
    · obtain ⟨hnodup, hc, hstep⟩ := later_action h hmade hbrief hvs
      obtain ⟨hheld, hno⟩ := mem_calls_of_obtained hnodup hc he
      have := (clock_lt_of_held h hmade hbrief hpaced hvs hheld).2 hno
      omega
  · rcases mem_timed_cases (fun ho => hbefore (mem_made_of_seen (.inr ⟨o, ho⟩))) hu with
      ⟨-, rfl⟩ | ⟨ks, v, ls, hvs, he, rfl⟩
    · exact Nat.le_add_right_of_le hclock
    · obtain ⟨hnodup, hc, hstep⟩ := later_action h hmade hbrief hvs
      have hheld := mem_calls_of_ended hnodup hc he
      have := (clock_lt_of_held h hmade hbrief hpaced hvs hheld).1
      omega
  · exact (clock_lt_of_held h hmade hbrief hpaced (List.append_nil vs).symm hc).1

end

/-- A call that gets a worker at time `t` began no later, as long as it is held. -/
theorem paced_of_obtained (h : (made (launched s n) us).Nodup) (hbrief : Brief us) {i : Nat}
    (ho : .obtained i c ∈ history (launched s n) us) (ht : ((launched s n).after us).clock ≤ t) :
    ((launched s n).after us).Paced (Bound c t) := by
  obtain ⟨gone, hl, -, -⟩ := ledger_after s n us
  have hr : ((launched s n).after us).ready = [] := ready_after rfl us
  have hreg := regular_after s n us
  have hany : ((launched s n).after us).Paced fun _ _ => True := by
    have hstart : ((launched s n).after []).Paced fun _ _ => True := paced_launched s n
    have hrun := hstart.run (fun _ _ _ _ h => h) hbrief fun _ _ _ => trivial
    exact hrun
  have honly : ∀ x, ((launched s n).after us).callAt x = some c → x = .worker i := by
    intro x hx
    have hon := (hl.held h (mem_calls_of_place hr hx)).2 i (List.mem_append_left _ ho)
    exact place_unique hr (hl.nodup_calls h) hx hon
  refine ⟨fun w hw => ⟨(hany.workers w hw).started, fun j d hd hdc => ?_⟩,
    fun d hd => ⟨(hany.line d hd).1, fun hdc => ?_⟩⟩
  · rw [hdc] at hd
    obtain ⟨k, hk⟩ := List.mem_iff_getElem?.1 hw
    obtain ⟨inv, hinv, hat⟩ := running_of_calls hreg.sound hreg.turns hr hk hd
    cases j with
    | zero =>
      have hstarted := ((hany.workers w hw).started inv hinv).1
      rw [Worker.since, hinv, Nat.zero_mul]
      exact Nat.le_trans hstarted ht
    | succ j =>
      have hqueue : ((launched s n).after us).callAt (.queue k j) = some c :=
        Option.bind_eq_some_iff.2 ⟨w, hk, hat⟩
      cases honly _ hqueue
  · rcases hd with hd | hd
    · obtain ⟨m, hm⟩ := List.mem_iff_getElem?.1 (List.mem_map_of_mem (f := (·.call)) hd)
      have hline : ((launched s n).after us).callAt (.line m) = some c := hm.trans (by rw [hdc])
      cases honly _ hline
    · rw [hr] at hd
      cases hd

/-- A call in progress has not been so for the worker timeout. -/
theorem clock_lt_of_inProgress (h : (made (launched s n) us).Nodup) (hbrief : Brief us) {i : Nat}
    (ho : (t, .obtained i c) ∈ along timed (launched s n) us)
    (hon : ((launched s n).after us).callOn i = some c) :
    ((launched s n).after us).clock < t + s.workerTimeout := by
  obtain ⟨bs, b, cs, rfl, hb⟩ := mem_along_iff.1 ho
  obtain ⟨e, he, hpair⟩ := List.mem_map.1 hb
  cases hpair
  have hsplit : bs ++ b :: cs = bs ++ [b] ++ cs := by simp
  rw [hsplit] at hbrief hon ⊢
  rw [hsplit, made, along_append] at h
  obtain ⟨hfirst, -, hdisjoint⟩ := List.nodup_append.1 h
  have hobtained : .obtained i c ∈ history (launched s n) (bs ++ [b]) := by
    rw [history_concat]
    exact List.mem_append_right _ he
  have hpaced := paced_of_obtained hfirst
    (fun m hm => hbrief m (List.mem_append_left _ hm)) hobtained (Nat.le_refl _)
  have hlater := hpaced.run Bound.mono
    (fun m hm => hbrief m (List.mem_append_right _ hm)) fun d hd u hdc => by
      refine absurd rfl (hdisjoint c (mem_made_of_seen (.inl ⟨i, hobtained⟩)) c ?_)
      rwa [← hdc]
  rw [after_concat] at hlater
  have hr : ((launched s n).after (bs ++ [b] ++ cs)).ready = [] := ready_after rfl _
  have hlt := (hlater.clock_lt (regular_after s n _) hr (punctual_after s n _)
    (mem_calls_of_place (x := .worker i) hr hon)).1
  rwa [settings_after] at hlt

end

/-! ### The result -/

section

variable {s : PoolSettings} {n : Nat} {as bs : List Action} {c : Call} {t : Nat}

/-- The moments of a run in which an action takes no time. -/
theorem moments_split {a : Action} (ha : momentsOf a = [a]) (h : bs ++ [a] <+: as) :
    ∃ cs, moments as = moments bs ++ a :: moments cs := by
  obtain ⟨cs, rfl⟩ := h
  refine ⟨cs, ?_⟩
  have hone : moments [a] = [a] := (List.append_nil _).trans ha
  rw [moments_append, moments_append, hone, List.append_assoc, List.singleton_append]

theorem clock_moments (p : Pool) (as : List Action) :
    (p.after (moments as)).clock = (p.after as).clock := by
  have hclock := congrArg clock (after_moments p as)
  exact hclock

theorem workers_moments (p : Pool) (as : List Action) :
    (p.after (moments as)).workers = (p.after as).workers := by
  have hworkers := congrArg workers (after_moments p as)
  exact hworkers

/-- A call that ends in time, and is not held afterwards, is over in time. -/
theorem overBy_of_bounded (hc : c ∈ made (launched s n) as)
    (hends : ∀ u o, (u, .ended c o) ∈ timeline (launched s n) as → u ≤ t)
    (hheld : c ∈ ((launched s n).after (moments as)).calls →
      ((launched s n).after (moments as)).clock < t) : OverBy (launched s n) as c t := by
  refine ⟨hends, fun hle => ?_⟩
  by_contra hno
  obtain ⟨hkept, hnone⟩ := not_or.1 hno
  have hpending : Pending (launched s n) as c := by
    refine ⟨hc, fun o ho => ?_, hkept⟩
    rw [← map_timeline] at ho
    obtain ⟨⟨u, e⟩, hu, rfl⟩ := List.mem_map.1 ho
    exact hnone ⟨u, o, hu⟩
  have hcalls := congrArg calls (after_moments (launched s n) as)
  have hlt := hheld (hcalls ▸ mem_calls_of_pending hpending)
  rw [clock_moments] at hlt
  omega

variable (h : (made (launched s n) as).Nodup)
include h

/-- What follows when a call has come in that begins by time `t` at the latest. -/
theorem bounded_of_entered {a : Action} (ha : momentsOf a = [a]) (htakes : a.takes = 0)
    (hbs : bs ++ [a] <+: as) (hmade : madeBy ((launched s n).after (moments bs)) a = [c])
    (ht : ((launched s n).after bs).clock ≤ t)
    (henters : ((launched s n).after (moments bs)).Paced (Bound c t) →
      (((launched s n).after (moments bs)).step a).2.Paced (Bound c t)) :
    (∀ u i, (u, .obtained i c) ∈ timeline (launched s n) as → u ≤ t) ∧
    OverBy (launched s n) as c (t + s.workerTimeout) ∧
    ((launched s n).after (moments as)).Paced (Bound c t) := by
  obtain ⟨cs, hsplit⟩ := moments_split ha hbs
  have hnodup := h
  rw [← made_moments, hsplit] at hnodup
  have hbrief := brief_moments cs
  have hbefore := (not_mem_made hnodup hmade).1
  have hearlier : ((launched s n).after (moments bs)).Paced (Bound c t) := by
    have hstart : ((launched s n).after []).Paced (Bound c t) := paced_launched s n
    have hrun := hstart.run Bound.mono (brief_moments bs) fun d hd u hdc => by
      rw [hdc] at hd
      exact absurd hd hbefore
    exact hrun
  have hin : ((launched s n).after (moments bs ++ [a])).Paced (Bound c t) := by
    rw [after_concat]
    exact henters hearlier
  obtain ⟨hobtained, hended, hheld⟩ := bounded_of_paced hnodup hmade htakes hbrief
    (by rwa [clock_moments]) hin
  have hlater := paced_later hnodup hmade hbrief hin _ [] (List.append_nil _).symm
  rw [← hsplit] at hobtained hended hheld hlater
  have hc : c ∈ made (launched s n) as := by
    rw [← made_moments, hsplit, made, along_append, along, hmade]
    exact List.mem_append_right _ List.mem_cons_self
  exact ⟨hobtained, overBy_of_bounded hc hended hheld, hlater⟩

/-- What follows when a call is made on the pool. -/
theorem bounded_of_dispatch (hbs : bs ++ [.dispatch c] <+: as) :
    (∀ u i, (u, .obtained i c) ∈ timeline (launched s n) as →
      u ≤ ((launched s n).after bs).clock + s.dispatchTimeout) ∧
    OverBy (launched s n) as c
      (((launched s n).after bs).clock + s.dispatchTimeout + s.workerTimeout) ∧
    ((launched s n).after (moments as)).Paced
      (Bound c (((launched s n).after bs).clock + s.dispatchTimeout)) := by
  refine bounded_of_entered h rfl rfl hbs rfl (Nat.le_add_right _ _) fun hpaced => ?_
  refine hpaced.unseen.dispatch Bound.mono (sound_after s n _) fun _ => ?_
  refine Nat.le_of_eq (congrArg₂ (· + ·) (clock_moments _ bs) ?_)
  exact congrArg PoolSettings.dispatchTimeout (settings_after s n (moments bs))

/-- What follows when a call is made on a worker. -/
theorem overBy_of_handle {i : Nat} {w : Worker} (hbs : bs ++ [.handle i c] <+: as)
    (hw : ((launched s n).after bs).workers[i]? = some w) : OverBy (launched s n) as c
      (((launched s n).after bs).clock + (w.calls.length + 1) * s.workerTimeout) := by
  have hi := (List.getElem?_eq_some_iff.1 hw).1
  have hw' : ((launched s n).after (moments bs)).workers[i]? = some w := by
    rwa [workers_moments]
  have hmade : madeBy ((launched s n).after (moments bs)) (.handle i c) = [c] := by
    rw [madeBy, workers_moments, if_pos hi]
  have hbounded := bounded_of_entered h
    (t := ((launched s n).after bs).clock + w.calls.length * s.workerTimeout) rfl rfl hbs hmade
    (Nat.le_add_right _ _) fun hpaced => by
      refine hpaced.unseen.handle Bound.mono (sound_after s n _) (ready_after rfl _) hw'
        fun _ => ?_
      refine Nat.le_of_eq (congrArg₂ (· + ·) (clock_moments _ bs) ?_)
      exact congrArg (fun s : PoolSettings => w.calls.length * s.workerTimeout)
        (settings_after s n (moments bs))
  rw [Nat.succ_mul, ← Nat.add_assoc]
  exact hbounded.2.1

end

/-- In a run in which no call is made twice, at every time: a call that waits for any worker has
waited less than the dispatch timeout; a call in progress has been so for less than the worker
timeout; a call made on the pool gets its worker within the dispatch timeout, is in progress or over
after that, and is over when the worker timeout has passed as well; and a call made on a worker is
over when the worker timeout has passed once for each call that was on the worker and once for
itself. -/
theorem bounded_calls (s : PoolSettings) (n : Nat) (as : List Action)
    (h : (made (launched s n) as).Nodup) :
    (∀ bs c, bs ++ [.dispatch c] <+: as →
      c ∈ ((launched s n).after as).waiting.map (·.call) →
      ((launched s n).after as).clock < ((launched s n).after bs).clock + s.dispatchTimeout) ∧
    (∀ i c, ((launched s n).after as).callOn i = some c →
      ∃ t, (t, .obtained i c) ∈ timeline (launched s n) as ∧
        ∀ t, (t, .obtained i c) ∈ timeline (launched s n) as →
          ((launched s n).after as).clock < t + s.workerTimeout) ∧
    (∀ bs c, bs ++ [.dispatch c] <+: as →
      (∀ t i, (t, .obtained i c) ∈ timeline (launched s n) as →
        t ≤ ((launched s n).after bs).clock + s.dispatchTimeout) ∧
      (((launched s n).after bs).clock + s.dispatchTimeout ≤ ((launched s n).after as).clock →
        c ∈ ((launched s n).after as).calls → ∃ i, ((launched s n).after as).callOn i = some c) ∧
      OverBy (launched s n) as c
        (((launched s n).after bs).clock + s.dispatchTimeout + s.workerTimeout)) ∧
    ∀ bs i c w, bs ++ [.handle i c] <+: as → ((launched s n).after bs).workers[i]? = some w →
      OverBy (launched s n) as c
        (((launched s n).after bs).clock + (w.calls.length + 1) * s.workerTimeout) := by
  have hwaiting := congrArg waiting (after_moments (launched s n) as)
  refine ⟨fun bs c hbs hc => ?_, fun i c hon => ?_, fun bs c hbs => ?_, fun bs i c w hbs hw => ?_⟩
  · obtain ⟨d, hd, rfl⟩ := List.mem_map.1 hc
    obtain ⟨-, -, hpaced⟩ := bounded_of_dispatch h hbs
    have hd' : d ∈ ((launched s n).after (moments as)).waiting := hwaiting ▸ hd
    have hlt := (punctual_after s n _).hopeful d hd'
    have hle := (hpaced.line d (.inl hd')).2 rfl
    rw [clock_moments] at hlt
    exact Nat.lt_of_lt_of_le hlt hle
  · obtain ⟨gone, hl, -, -⟩ := ledger_after s n as
    have ho := hl.read.2.2 i c hon
    rw [← map_timeline] at ho
    obtain ⟨⟨t, e⟩, ht, rfl⟩ := List.mem_map.1 ho
    refine ⟨t, ht, fun u hu => ?_⟩
    rw [← clock_moments]
    refine clock_lt_of_inProgress (by rwa [made_moments]) (brief_moments as) hu ?_
    rw [callOn, workers_moments]
    exact hon
  · obtain ⟨hobtained, hover, hpaced⟩ := bounded_of_dispatch h hbs
    refine ⟨hobtained, fun hle hc => ?_, hover⟩
    by_contra hno
    have hcalls : c ∈ ((launched s n).after (moments as)).calls := by
      have hsame := congrArg calls (after_moments (launched s n) as)
      exact hsame ▸ hc
    have hlt := (hpaced.clock_lt (regular_after s n _) (ready_after rfl _) (punctual_after s n _)
      hcalls).2 fun i hi => hno ⟨i, by rwa [callOn, workers_moments] at hi⟩
    rw [clock_moments] at hlt
    omega
  · exact overBy_of_handle h hbs hw

/-- The only interpreter never answers. Of two calls on the worker, the second is over when two
worker timeouts have passed; then the worker is free for a call on the pool, which came last. -/
theorem bounded_calls_of_three :
    let a := Call.plain "a"
    let b := Call.plain "b"
    let c := Call.plain "c"
    let as := [Action.handle 0 a, .advance 30, .handle 0 b, .dispatch c, .advance 200]
    (made (launched .plain 1) as).Nodup ∧
      (∃ t o, (t, .ended b o) ∈ timeline (launched .plain 1) as ∧ t ≤ 230) ∧
      ∃ t, (t, .obtained 0 c) ∈ timeline (launched .plain 1) as ∧ t ≤ 1030 ∧ 230 < t + 100 := by
  intro a b c as
  have hmade : (made (launched .plain 1) as).Nodup := by decide +kernel
  obtain ⟨-, hprogress, hdispatched, hhandled⟩ := bounded_calls .plain 1 as hmade
  have hclock : ((launched .plain 1).after as).clock = 230 := by decide +kernel
  obtain ⟨w, hw, hone⟩ : ∃ w, ((launched .plain 1).after
      [.handle 0 a, .advance 30]).workers[0]? = some w ∧ w.calls.length = 1 := by
    refine ⟨_, List.getElem?_eq_getElem (by decide +kernel), ?_⟩
    decide +kernel
  refine ⟨hmade, ?_, ?_⟩
  · have hover := hhandled [.handle 0 a, .advance 30] 0 b w ⟨[.dispatch c, .advance 200], rfl⟩ hw
    have hbound : ((launched .plain 1).after [.handle 0 a, .advance 30]).clock +
        (w.calls.length + 1) * PoolSettings.plain.workerTimeout = 230 := by
      rw [hone]
      decide +kernel
    rw [hbound] at hover
    have hnone : dropped (launched .plain 1) as = [] := by decide +kernel
    rcases hover.past (Nat.le_of_eq hclock.symm) with hdropped | ⟨t, o, ho⟩
    · rw [hnone] at hdropped
      cases hdropped
    · exact ⟨t, o, ho, hover.ends t o ho⟩
  · obtain ⟨t, ht, hlt⟩ := hprogress 0 c (by decide +kernel)
    have hle := (hdispatched [.handle 0 a, .advance 30, .handle 0 b] c
      ⟨[.advance 200], rfl⟩).1 t 0 ht
    have hstart :
        ((launched .plain 1).after [.handle 0 a, .advance 30, .handle 0 b]).clock = 30 := by
      decide +kernel
    rw [hstart] at hle
    have hnow := hlt t ht
    rw [hclock] at hnow
    exact ⟨t, ht, hle, hnow⟩

end FunctionHost.Pool
