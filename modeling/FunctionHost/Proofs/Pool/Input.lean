import FunctionHost.Proofs.Pool.Served
/-!
# What an interpreter is sent

The statements that load a module are written with the first text that reaches an interpreter, and
never again: a call that cannot be written leaves the worker as it was, and one that was written and
then abandoned does not. So all that is written to a worker is read off the calls that got it and
did not end with a failure to write (`unfailed`). A failure to write follows at once when a call
gets the worker, which is why what is seen later changes nothing about earlier calls
(`unfailed_append`).

Main statement: `written_eq_input`, what is written to a worker is the loading of the first such
call's module and then the statements of each such call.
-/

namespace FunctionHost

/-- What an interpreter is sent for calls: the loading of the first one's module, then the
statements of each. -/
def Call.input : List Call → String
  | [] => ""
  | c :: cs => Call.bootstrap c.module ++ String.join ((c :: cs).map Call.text)

/-- Worker `i` gets a call. -/
def Effect.obtains (i : Nat) : Effect → Bool
  | .obtained j _ => j == i
  | _ => false

/-- The text that is written to worker `i`. -/
def Effect.textTo? (i : Nat) : Effect → Option String
  | .wrote j t => if j = i then some t else none
  | _ => none

namespace Pool

/-- All that is written to worker `i`, in order. -/
def textTo (i : Nat) (es : List Effect) : String := String.join (es.filterMap (Effect.textTo? i))

/-- The calls that got worker `i`, in order, but those that ended with a failure to write to it
before it got another. -/
def unfailed (i : Nat) : List Effect → List Call
  | [] => []
  | .obtained j c :: es =>
    if j = i ∧ .ended c (.failed (.write i)) ∉ es.takeWhile (!·.obtains i) then c :: unfailed i es
    else unfailed i es
  | _ :: es => unfailed i es

/-- One more call is sent: its module is loaded if it is the first. -/
theorem input_concat (cs : List Call) (c : Call) : Call.input (cs ++ [c]) =
    Call.input cs ++ ((if cs.isEmpty then Call.bootstrap c.module else "") ++ c.text) := by
  cases cs with
  | nil => simp [Call.input]
  | cons d ds => simp [Call.input, String.append_assoc]

section

variable {i : Nat} {es fs : List Effect}

theorem textTo_append : textTo i (es ++ fs) = textTo i es ++ textTo i fs := by
  simp [textTo]

theorem textTo_eq_empty (h : ∀ t, .wrote i t ∉ fs) : textTo i fs = "" := by
  have hnone : fs.filterMap (Effect.textTo? i) = [] := by
    refine List.filterMap_eq_nil_iff.2 fun e he => ?_
    cases e with
    | wrote j t =>
      refine if_neg fun hj => h t ?_
      rwa [← hj]
    | _ => rfl
  rw [textTo, hnone]
  rfl

theorem textTo_begin (c : Call) (t : String) : textTo i [.obtained i c, .wrote i t] = t := by
  have ht : Effect.textTo? i (.wrote i t) = some t := if_pos rfl
  rw [textTo, List.filterMap_cons_none rfl, List.filterMap_cons_some ht, List.filterMap_nil,
    String.join_cons, String.join_nil, String.append_empty]

theorem takeWhile_append_of_mem {α : Type} {p : α → Bool} {xs ys : List α} {x : α}
    (h : x ∈ (xs ++ ys).takeWhile p) : x ∈ xs.takeWhile p ∨ x ∈ ys.takeWhile p := by
  rw [List.takeWhile_append] at h
  split at h
  next hall =>
    rw [(List.takeWhile_prefix p).eq_of_length hall]
    exact List.mem_append.1 h
  next => exact .inl h

/-- What is seen next adds its own calls if it does not begin with a failure to write. -/
theorem unfailed_append (h : ∀ c, .ended c (.failed (.write i)) ∉ fs.takeWhile (!·.obtains i)) :
    unfailed i (es ++ fs) = unfailed i es ++ unfailed i fs := by
  induction es using unfailed.induct i with
  | case1 => rfl
  | case2 j c es hj ih =>
    obtain ⟨hj, hno⟩ := hj
    have hno' : .ended c (.failed (.write i)) ∉ (es ++ fs).takeWhile (!·.obtains i) := fun hm =>
      (takeWhile_append_of_mem hm).elim hno (h c)
    rw [List.cons_append, unfailed, unfailed, if_pos ⟨hj, hno'⟩, if_pos ⟨hj, hno⟩, ih,
      List.cons_append]
  | case3 j c es hj ih =>
    have hj' : ¬ (j = i ∧
        .ended c (.failed (.write i)) ∉ (es ++ fs).takeWhile (!·.obtains i)) := by
      rintro ⟨hji, hno⟩
      refine hj ⟨hji, fun hm => hno ?_⟩
      rw [List.takeWhile_append]
      split
      · exact List.mem_append_left _ ((List.takeWhile_prefix _).subset hm)
      · exact hm
    rw [List.cons_append, unfailed, unfailed, if_neg hj', if_neg hj, ih]
  | case4 e es hne ih =>
    rw [List.cons_append, unfailed, unfailed, ih]
    · exact hne
    · exact hne

theorem unfailed_eq_nil (h : ∀ j c, .obtained j c ∉ fs) : unfailed i fs = [] := by
  induction fs using unfailed.induct i with
  | case1 => rfl
  | case2 j c es _ _ => exact absurd List.mem_cons_self (h j c)
  | case3 j c es _ _ => exact absurd List.mem_cons_self (h j c)
  | case4 e es hne ih =>
    rw [unfailed]
    · exact ih fun j c hm => h j c (List.mem_cons_of_mem _ hm)
    · exact hne

/-- A call that fails to write to worker `k` is not among those that did not, and changes nothing
about the calls before it. -/
theorem unfailed_fail (k : Nat) (c : Call) :
    unfailed i (es ++ [.obtained k c, .ended c (.failed (.write k))]) = unfailed i es := by
  rw [unfailed_append]
  · by_cases hki : k = i
    · subst hki
      simp [unfailed, Effect.obtains]
    · simp [unfailed, hki]
  · intro d hm
    by_cases hki : k = i
    · simp [Effect.obtains, hki] at hm
    · simp [Effect.obtains, hki, Ne.symm hki] at hm

/-- A call that is written to worker `k` is one more there. -/
theorem unfailed_begin (k : Nat) (c : Call) (t : String) :
    unfailed i (es ++ [.obtained k c, .wrote k t]) =
      unfailed i es ++ if k = i then [c] else [] := by
  rw [unfailed_append]
  · by_cases hki : k = i
    · simp [unfailed, Effect.obtains, hki]
    · simp [unfailed, hki]
  · intro d hm
    have := (List.takeWhile_prefix _).subset hm
    simp at this

end

/-! ### One thing at a time -/

/-- What was written to worker `i`, of which `E` was seen, is the input of its calls. -/
structure Fed (i : Nat) (E : List Effect) (w : Worker) : Prop where
  /-- The worker remembers what was written to it. -/
  text : textTo i E = w.written
  /-- What was written is the input of its calls. -/
  written : w.written = Call.input (unfailed i E)
  /-- The module has been loaded exactly if there was such a call. -/
  loaded : w.bootstrapped = !(unfailed i E).isEmpty

/-- Every worker is fed right. -/
def AllFed (E : List Effect) (p : Pool) : Prop := ∀ i w, p.workers[i]? = some w → Fed i E w

section

variable {i k : Nat} {E fs : List Effect} {p q : Pool} {v w : Worker}

/-- Of the other workers nothing is written. -/
theorem Fed.same (h : Fed i E w) (hwritten : v.written = w.written)
    (hload : v.bootstrapped = w.bootstrapped) (htext : ∀ t, .wrote i t ∉ fs)
    (hcalls : unfailed i (E ++ fs) = unfailed i E) : Fed i (E ++ fs) v := by
  refine ⟨?_, ?_, ?_⟩
  · rw [textTo_append, textTo_eq_empty htext, h.text, hwritten, String.append_empty]
  · rw [hwritten, hcalls, h.written]
  · rw [hload, hcalls, h.loaded]

/-- The worker is sent one more call. -/
theorem Fed.begins (h : Fed i E w) (c : Call) (now : Nat) :
    Fed i (E ++ [.obtained i c, .wrote i (textFor w c)]) (w.seizedBy c now) := by
  have hcalls : unfailed i (E ++ [.obtained i c, .wrote i (textFor w c)]) =
      unfailed i E ++ [c] := by
    rw [unfailed_begin, if_pos rfl]
  have hwritten : (w.seizedBy c now).written = w.written ++ textFor w c := rfl
  refine ⟨?_, ?_, ?_⟩
  · rw [textTo_append, h.text, hwritten, textTo_begin]
  · rw [hwritten, hcalls, input_concat, h.written, textFor, h.loaded]
    cases (unfailed i E).isEmpty <;> rfl
  · rw [hcalls]
    simp [Worker.seizedBy]

/-- If one worker changes, the others are fed as before. -/
theorem AllFed.set (h : AllFed E p) (hw : p.workers[k]? = some w)
    (hws : q.workers = p.workers.set k v)
    (htext : ∀ i t, i ≠ k → .wrote i t ∉ fs)
    (hcalls : ∀ i, i ≠ k → unfailed i (E ++ fs) = unfailed i E)
    (hv : Fed k E w → Fed k (E ++ fs) v) : AllFed (E ++ fs) q := by
  intro i u hu
  obtain ⟨rfl, rfl⟩ | ⟨hik, hu⟩ := worker_of_set hws hu
  · exact hv (h i w hw)
  · exact (h i u hu).same rfl rfl (htext i · hik) (hcalls i hik)

/-- Nobody gets a worker, nothing is written, and no failure to write is seen. -/
structure Silent (fs : List Effect) : Prop where
  /-- Nobody gets a worker. -/
  obtained : ∀ j c, .obtained j c ∉ fs
  /-- Nothing is written. -/
  wrote : ∀ j t, .wrote j t ∉ fs
  /-- No failure to write is seen. -/
  failed : ∀ j c, .ended c (.failed (.write j)) ∉ fs

theorem Silent.unfailed (h : Silent fs) (i : Nat) : unfailed i (E ++ fs) = unfailed i E := by
  rw [unfailed_append fun c hm => h.failed i c ((List.takeWhile_prefix _).subset hm),
    unfailed_eq_nil h.obtained, List.append_nil]

/-- Nothing is written, and a worker changes in other ways. -/
theorem AllFed.silent (h : AllFed E p) (hw : p.workers[k]? = some w)
    (hws : q.workers = p.workers.set k v) (hwritten : v.written = w.written)
    (hload : v.bootstrapped = w.bootstrapped) (hfs : Silent fs) : AllFed (E ++ fs) q :=
  h.set hw hws (fun i t _ => hfs.wrote i t) (fun i _ => hfs.unfailed i) fun hk =>
    hk.same hwritten hload (hfs.wrote k) (hfs.unfailed k)

/-- Nothing is written, and the workers stay. -/
theorem AllFed.same (h : AllFed E p) (hws : q.workers = p.workers) (hfs : Silent fs) :
    AllFed (E ++ fs) q := by
  intro i w hw
  rw [hws] at hw
  exact (h i w hw).same rfl rfl (hfs.wrote i) (hfs.unfailed i)

theorem AllFed.seen {es : List Effect} (he : q.effects = p.effects ++ fs)
    (h : AllFed (es ++ p.effects ++ fs) q) : AllFed (es ++ q.effects) q := by
  rwa [he, ← List.append_assoc]

/-- Nothing is seen. -/
theorem AllFed.unseen (h : AllFed E p) : AllFed (E ++ p.unseen.effects) p.unseen := by
  have he : E ++ p.unseen.effects = E := List.append_nil E
  rw [he]
  exact h

end

theorem silent_nil : Silent [] := ⟨by simp, by simp, by simp⟩

theorem silent_said (i : Nat) (ls : List String) : Silent (said i ls) :=
  ⟨not_mem_said i ls, by simp [said], by simp [said]⟩

section

variable {E es : List Effect} {p q : Pool}

theorem AllFed.stir (hm : Stir p q) (h : AllFed (es ++ p.effects) p) :
    AllFed (es ++ q.effects) q := by
  cases hm with
  | @begins q k c w hc hw hr =>
    rw [hc.workers] at hw
    refine .seen (hc.effects_seize w) (h.set hw (hc.workers_seize w) ?_ ?_ fun hk => hk.begins c _)
    · intro i t hik ht
      simp [hik] at ht
    · intro i hik
      rw [unfailed_begin, if_neg (Ne.symm hik), List.append_nil]
  | @fails q k c w hc hw hr =>
    have hws := hc.workers_fail hw (.failed (.write k))
    have heff := hc.effects_fail hw (.failed (.write k))
    rw [hc.workers] at hw
    refine .seen heff (h.set hw hws (by simp) (fun i _ => unfailed_fail k c) fun hk => ?_)
    exact hk.same w.written_passedOn w.bootstrapped_passedOn (by simp) (unfailed_fail k c)
  | turnsAway b hr hf hd =>
    exact .seen (effects_note _ _) (h.same rfl ⟨by simp, by simp, by simp [unavailable]⟩)
  | reads hw hinv hd =>
    exact .seen rfl (h.silent hw rfl rfl rfl ⟨by simp, by simp, by simp⟩)
  | completes hw hinv hd =>
    exact .seen (effects_finish_notes hw _ _ _ _ _) (h.silent hw
      (workers_finish_notes hw _ _ _ _ _) (Worker.written_passedOn _)
      (Worker.bootstrapped_passedOn _) ⟨by simp, by simp, by simp⟩)
  | closes hw hinv ha hu =>
    exact .seen (effects_finish_setWorker hw _ _ _) (h.silent hw (workers_finish_setWorker hw _ _ _)
      (Worker.written_passedOn _) (Worker.bootstrapped_passedOn _) ⟨by simp, by simp, by simp⟩)
  | expires hw hinv ht =>
    exact .seen (effects_finish hw _ _) (h.silent hw (workers_finish hw _ _)
      (Worker.written_passedOn _) (Worker.bootstrapped_passedOn _)
      ⟨by simp, by simp, by simp [timedOut]⟩)
  | givesUp =>
    exact .seen (effects_expireWaiting p _) (h.same rfl ⟨by simp, by simp, by simp [unavailable]⟩)
  | errs data hw => exact .seen rfl (h.silent hw rfl rfl rfl (silent_said _ _))
  | deafens hw => exact .seen (List.append_nil _).symm (h.silent hw rfl rfl rfl silent_nil)
  | _ => exact h

theorem AllFed.move (hm : Move p q) (h : AllFed (es ++ p.effects) p) :
    AllFed (es ++ q.effects) q := by
  cases hm with
  | stirs hs => exact h.stir hs
  | dies hw ha => exact .seen rfl (h.silent hw rfl rfl rfl (silent_said _ _))
  | reports => exact .seen (effects_note _ _) (h.same rfl ⟨by simp, by simp, by simp⟩)
  | marks hw ha => exact .seen (List.append_nil _).symm (h.silent hw rfl rfl rfl silent_nil)
  | wakesAll => exact h

theorem AllFed.does {a : Action} (hd : Does p a q) (h : AllFed E p) :
    AllFed (E ++ q.effects) q := by
  have h := h.unseen
  have quiet : p.unseen.effects = p.unseen.effects ++ [] := (List.append_nil _).symm
  cases hd with
  | enters _ _ _ he =>
    cases he with
    | looks => exact h
    | granted hw hf => exact .seen quiet (h.silent hw rfl rfl rfl silent_nil)
    | queued hw ht hf => exact .seen quiet (h.silent hw rfl rfl rfl silent_nil)
    | rejected hw ho =>
      refine .seen (effects_note _ _) (h.same rfl ⟨by simp, by simp, ?_⟩)
      rcases ho with ⟨-, rfl⟩ | ⟨-, rfl⟩ <;> simp
  | drops _ _ _ hd =>
    cases hd with
    | running hw hinv hn =>
      refine .seen ((effects_release hw).trans quiet) (h.silent hw (workers_release hw)
        (Worker.written_passedOn _) (Worker.bootstrapped_passedOn _) silent_nil)
    | queued hw hq => exact .seen quiet (h.silent hw rfl rfl rfl silent_nil)
    | waiting hw => exact h
  | prints _ _ _ _ _ hp =>
    cases hp with
    | feeds hw ha => exact .seen quiet (h.silent hw rfl rfl rfl silent_nil)
  | other _ _ _ => exact h

end

/-! ### Runs -/

theorem allFed_after (s : PoolSettings) (n : Nat) (as : List Action) :
    AllFed (history (launched s n) as) ((launched s n).after as) := by
  refine seen_induction s n (motive := fun _ E p => AllFed E p) ?_
    (fun as a q hd h => h.does hd) (fun _ _ hm h => h.move hm) as
  intro i w hw
  rw [launched_worker (List.mem_of_getElem? hw)]
  exact ⟨rfl, rfl, rfl⟩

/-- After every run, all that was written to a worker is the loading of a module and the statements
of the calls that got the worker and did not end with a failure to write, in the order in which they
got it. The module is that of the first of them, and two statements load it; if there was none,
nothing was written. -/
theorem written_eq_input (s : PoolSettings) (n : Nat) (as : List Action) (i : Nat) (w : Worker)
    (hw : ((launched s n).after as).workers[i]? = some w) :
    textTo i (history (launched s n) as) = Call.input (unfailed i (history (launched s n) as)) ∧
      w.written = textTo i (history (launched s n) as) ∧
      (w.bootstrapped = true ↔ unfailed i (history (launched s n) as) ≠ []) ∧
      ∀ c cs, unfailed i (history (launched s n) as) = c :: cs →
        textTo i (history (launched s n) as) = "from " ++ c.module ++ " import *\nimport json\n" ++
          String.join ((c :: cs).map Call.text) := by
  have h := allFed_after s n as i w hw
  refine ⟨h.text.trans h.written, h.text.symm, ?_, fun c cs hcalls => ?_⟩
  · rw [h.loaded]
    simp
  · rw [h.text, h.written, hcalls]
    rfl

/-- The first call runs out of time, the second names another module and is dropped, and the third
cannot be written: the interpreter was sent the first call's module and two calls. -/
theorem written_eq_input_of_three :
    let a := Call.plain "a"
    let b : Call := { Call.plain "b" with module := "other" }
    let c := Call.plain "c"
    let as := [Action.handle 0 a, .advance 100, .handle 0 b, .cancel "b", .closeStdin 0,
      .handle 0 c, .exit 0]
    .ended c (.failed (.write 0)) ∈ history (launched .plain 1) as ∧
      ∃ w, ((launched .plain 1).after as).workers[0]? = some w ∧
        w.written = Call.bootstrap "m" ++ String.join [a.text, b.text] := by
  intro a b c as
  have hlt : 0 < ((launched .plain 1).after as).workers.length := by decide +kernel
  obtain ⟨w, hw⟩ : ∃ w, ((launched .plain 1).after as).workers[0]? = some w :=
    ⟨_, List.getElem?_eq_getElem hlt⟩
  have hcalls : unfailed 0 (history (launched .plain 1) as) = [a, b] := by decide +kernel
  obtain ⟨htext, hwritten, -⟩ := written_eq_input .plain 1 as 0 w hw
  rw [hcalls] at htext
  exact ⟨by decide +kernel, w, hw, hwritten.trans htext⟩

end Pool

end FunctionHost
