import FunctionHost.Proofs.Call.Printing
import FunctionHost.Proofs.Pool.Once
/-!
# For which call a text is written

A text is written in the very move in which a call gets an interpreter, so each text that is seen
follows the call that it is written for (`Written`), and what it makes the interpreter print is the
block of this call's request (`Asks`). The other way round, a call is refused only by the action
that makes it (`refused_of_step`).

Main statements: `written_after` and `refused_after`, for every run.
-/

namespace FunctionHost

open FunctionHost.Call

/-- A text makes an interpreter print the block of a request, whatever the reply is: the print
statements at its end print the start marker, the reply and the end marker. -/
def Asks (requestId text : String) : Prop :=
  ∀ y, (printStatements text).mapM (printed? y) = some (block requestId y)

namespace Pool

/-- Each text that is written follows a call that gets the interpreter, and is the text of this call,
after the loading of its module or alone. -/
def Written (E : List Effect) : Prop :=
  ∀ es i t fs, E = es ++ .wrote i t :: fs → ∃ es' c lead, es = es' ++ [.obtained i c] ∧
    (lead = "" ∨ lead = Call.bootstrap c.module) ∧ t = lead ++ c.text

/-- What is seen in a move: a call begins, or nothing is written and nobody is refused. -/
inductive Tells : List Effect → Prop where
  /-- A call begins. -/
  | begins (i : Nat) (w : Worker) (c : Call) : Tells [.obtained i c, .wrote i (textFor w c)]
  /-- Nothing is written and nobody is refused. -/
  | other {fs : List Effect} : (∀ i t, .wrote i t ∉ fs) → (∀ c, .ended c .refused ∉ fs) → Tells fs

theorem asks_text (lead : String) (c : Call) : Asks c.requestId (lead ++ c.text) := by
  intro y
  rw [Call.text, printStatements_append_script, mapM_printed?_prints]

section

variable {p q : Pool} {E fs : List Effect} {c : Call}

/-! ### One move -/

theorem Stir.tells (hm : Stir p q) : ∃ fs, q.effects = p.effects ++ fs ∧ Tells fs := by
  have quiet : ∀ {r : Pool}, r.effects = p.effects →
      ∃ fs, r.effects = p.effects ++ fs ∧ Tells fs := fun he =>
    ⟨[], he.trans (List.append_nil _).symm, .other (by simp) (by simp)⟩
  cases hm with
  | begins hc hw hr => exact ⟨_, hc.effects_seize _, .begins _ _ _⟩
  | fails hc hw hr => exact ⟨_, hc.effects_fail hw _, .other (by simp) (by simp)⟩
  | turnsAway b hr hf hd =>
    exact ⟨_, effects_note _ _, .other (by simp) (by simp [unavailable])⟩
  | reads hw hinv hd => exact ⟨_, rfl, .other (by simp) (by simp)⟩
  | completes hw hinv hd =>
    exact ⟨_, effects_finish_notes hw _ _ _ _ _, .other (by simp) (by simp)⟩
  | closes hw hinv ha hu =>
    exact ⟨_, effects_finish_setWorker hw _ _ _, .other (by simp) (by simp)⟩
  | expires hw hinv ht =>
    exact ⟨_, effects_finish hw _ _, .other (by simp) (by simp [timedOut])⟩
  | givesUp =>
    exact ⟨_, effects_expireWaiting p _, .other (by simp) (by simp [unavailable])⟩
  | errs data hw => exact ⟨_, rfl, .other (by simp [said]) (by simp [said])⟩
  | _ => exact quiet rfl

theorem Move.tells (hm : Move p q) : ∃ fs, q.effects = p.effects ++ fs ∧ Tells fs := by
  cases hm with
  | stirs hs => exact hs.tells
  | dies hw ha => exact ⟨_, rfl, .other (by simp [said]) (by simp [said])⟩
  | reports => exact ⟨_, effects_note _ _, .other (by simp) (by simp)⟩
  | wakesAll => exact ⟨[], (List.append_nil _).symm, .other (by simp) (by simp)⟩
  | marks hw ha => exact ⟨[], (List.append_nil _).symm, .other (by simp) (by simp)⟩

/-! ### Texts -/

theorem written_nil : Written [] := by
  intro es i t fs h
  simp at h

theorem Written.append (hE : Written E) (hfs : Written fs) : Written (E ++ fs) := by
  intro es i t gs h
  rcases List.append_eq_append_iff.1 h with ⟨as, rfl, heq⟩ | ⟨as, rfl, heq⟩
  · obtain ⟨es', c, lead, rfl, ht⟩ := hfs as i t gs heq
    exact ⟨E ++ es', c, lead, (List.append_assoc _ _ _).symm, ht⟩
  · cases as with
    | nil =>
      obtain ⟨es', c, lead, hnil, -⟩ := hfs [] i t gs heq.symm
      simp at hnil
    | cons e as =>
      obtain ⟨rfl, -⟩ := List.cons.inj heq
      exact hE es i t as rfl

theorem written_of_notMem (h : ∀ i t, .wrote i t ∉ fs) : Written fs := by
  rintro es i t gs rfl
  exact absurd (List.mem_append_right es List.mem_cons_self) (h i t)

theorem Tells.written (h : Tells fs) : Written fs := by
  cases h with
  | begins i w c =>
    intro es k t gs heq
    rcases es with _ | ⟨e, _ | ⟨e', es⟩⟩
    · simp at heq
    · simp only [List.cons_append, List.nil_append, List.cons.injEq, Effect.wrote.injEq] at heq
      obtain ⟨rfl, ⟨rfl, rfl⟩, -⟩ := heq
      refine ⟨[], c, _, rfl, ?_, rfl⟩
      split
      · exact .inl rfl
      · exact .inr rfl
    · simp at heq
  | other hno _ => exact written_of_notMem hno

theorem Written.move {es : List Effect} (hm : Move p q) (h : Written (es ++ p.effects)) :
    Written (es ++ q.effects) := by
  obtain ⟨fs, heff, htells⟩ := hm.tells
  rw [heff, ← List.append_assoc]
  exact h.append htells.written

theorem Does.written {a : Action} (hd : Does p a q) : Written q.effects := by
  apply written_of_notMem
  intro i t ht
  cases hd.worker? _ ht

/-! ### Refusals -/

theorem Moves.refused (hm : Moves p q) (h : .ended c .refused ∈ q.effects) :
    .ended c .refused ∈ p.effects := by
  induction hm with
  | refl => exact h
  | tail _ hm ih =>
    obtain ⟨fs, heff, htells⟩ := hm.tells
    rw [heff] at h
    rcases List.mem_append.1 h with h | h
    · exact ih h
    · cases htells with
      | begins i w d => simp at h
      | other _ hno => exact absurd h (hno c)

/-- A call on a worker for which it would wait is not refused. -/
theorem not_refused_of_handle {i : Nat} {d : Call} (hr : p.ready = []) (hp : p.effects = []) :
    .ended c .refused ∉ (p.handle i d).effects := by
  intro h
  unfold handle at h
  cases hw : p.workers[i]? with
  | none => simp [hw, hp] at h
  | some w =>
    simp only [hw] at h
    split at h
    · simp [hp] at h
    · split at h
      · rw [← settle_granted hr hw d] at h
        have hnone := Moves.refused (moves_of_stirs (settle_stirs _)) h
        simp [hp] at hnone
      · simp [hp] at h

end

/-- A call is refused only by the action that makes it on a worker that is not free. -/
theorem refused_of_step {p : Pool} {a : Action} {c : Call} (hr : p.ready = [])
    (h : .ended c .refused ∈ (p.step a).2.effects) : ∃ i, a = .tryHandle i c := by
  obtain ⟨⟨q, hd, hm, -⟩, -⟩ := step_cases p a hr
  have hmade := hd.made_of_ended (hm.refused h)
  cases a with
  | dispatch d =>
    have hnone := Moves.refused (moves_of_stirs (settle_stirs _)) h
    cases hnone
  | handle i d => exact absurd h (not_refused_of_handle (p := p.unseen) hr rfl)
  | tryHandle i d =>
    have hmade : (if i < p.workers.length then [d] else []) = [c] := hmade
    split at hmade
    · obtain ⟨rfl, -⟩ := List.cons.inj hmade
      exact ⟨i, rfl⟩
    · cases hmade
  | _ => cases hmade

/-! ### Runs -/

/-- Each text that is written in a run is that of the call that has got the interpreter just
before. -/
theorem written_after (s : PoolSettings) (n : Nat) (as : List Action) :
    Written (history (launched s n) as) := by
  refine seen_induction s n (motive := fun _ E _ => Written E) written_nil ?_ ?_ as
  · intro as a q hd h
    exact h.append hd.written
  · intro as gone es p q _ _ hm h
    exact h.move hm

/-- A call that is refused in a run was made on a worker to be refused if it is not free. -/
theorem refused_after {s : PoolSettings} {n : Nat} {as : List Action} {c : Call}
    (h : .ended c .refused ∈ history (launched s n) as) : ∃ i, .tryHandle i c ∈ as := by
  obtain ⟨bs, a, cs, rfl, ha⟩ := mem_along_iff.1 h
  obtain ⟨i, rfl⟩ := refused_of_step (ready_after (p := launched s n) rfl bs) ha
  exact ⟨i, by simp⟩

end Pool

end FunctionHost
