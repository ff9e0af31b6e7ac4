import FunctionHost.Config.File
import Mathlib.Order.WellFounded
/-!
# What is wrong with a configuration

Settings can have several faults at once, each of which is a condition on a single setting
(`Fault.In`). The first of them in a fixed order is complained about (`check_eq_error_iff`);
settings without a fault give a configuration, every part of which the settings say
(`Settings.Gives`).

Main statement: `complains_in_order`, for all settings and however filters are read.
-/

namespace FunctionHost

/-! ### Faults -/

/-- A setting that is absent or empty. -/
def Missing (o : Option String) : Prop := o = none ∨ o = some ""

instance (o : Option String) : Decidable (Missing o) :=
  inferInstanceAs (Decidable (o = none ∨ o = some ""))

/-- The settings of the function; without a table of them all are absent. -/
def Settings.ofFunction (s : Settings) : FunctionSettings := s.function.getD {}

/-- What can be wrong with settings, in the order in which it is complained about. -/
inductive Fault where
  /-- The listen address is none. -/
  | badListen
  /-- The runtime is missing. -/
  | noRuntime
  /-- The runtime is not supported. -/
  | otherRuntime
  /-- The name is missing. -/
  | noName
  /-- The source file is missing. -/
  | noEntrypoint
  /-- The handler is missing. -/
  | noHandler
  /-- The filter cannot be read. -/
  | badFilter
deriving DecidableEq, Repr

namespace Fault

/-- A fault is complained about before another. -/
instance : LT Fault := ⟨fun j k => j.ctorIdx < k.ctorIdx⟩

instance (j k : Fault) : Decidable (j < k) := inferInstanceAs (Decidable (j.ctorIdx < k.ctorIdx))

theorem badListen_lt {k : Fault} (h : k ≠ badListen) : badListen < k := by
  cases k with
  | badListen => exact absurd rfl h
  | _ => decide

/-- Settings have a fault, given how filters are read. -/
def In {F : Type} (compile : String → Option F) (s : Settings) : Fault → Prop
  | badListen => Net.Address.read? (s.listen.getD defaultListen) = none
  | noRuntime => Missing s.ofFunction.runtime
  | otherRuntime => ¬ Missing s.ofFunction.runtime ∧ s.ofFunction.runtime ≠ some "python"
  | noName => Missing s.ofFunction.name
  | noEntrypoint => Missing s.ofFunction.entrypoint
  | noHandler => Missing s.ofFunction.handler
  | badFilter => ∃ p ∈ s.ofFunction.uriFilter, p ≠ "" ∧ compile p = none

instance {F : Type} (compile : String → Option F) (s : Settings) : DecidablePred (In compile s)
  | badListen => inferInstanceAs (Decidable
      (Net.Address.read? (s.listen.getD defaultListen) = none))
  | noRuntime => inferInstanceAs (Decidable (Missing s.ofFunction.runtime))
  | otherRuntime => inferInstanceAs (Decidable
      (¬ Missing s.ofFunction.runtime ∧ s.ofFunction.runtime ≠ some "python"))
  | noName => inferInstanceAs (Decidable (Missing s.ofFunction.name))
  | noEntrypoint => inferInstanceAs (Decidable (Missing s.ofFunction.entrypoint))
  | noHandler => inferInstanceAs (Decidable (Missing s.ofFunction.handler))
  | badFilter => inferInstanceAs (Decidable
      (∃ p ∈ s.ofFunction.uriFilter, p ≠ "" ∧ compile p = none))

/-- The complaint about a fault. -/
def complaint (s : Settings) : Fault → ConfigError
  | badListen => .invalidListen (s.listen.getD defaultListen)
  | noRuntime => .runtimeRefused .missing
  | otherRuntime => .runtimeRefused (.unsupported (s.ofFunction.runtime.getD ""))
  | noName => .missingName
  | noEntrypoint => .missingEntrypoint (s.ofFunction.name.getD "") .python
  | noHandler => .missingHandler (s.ofFunction.name.getD "") .python
  | badFilter => .invalidFilter (s.ofFunction.uriFilter.getD "")

/-- The first fault that settings have. -/
structure Leads {F : Type} (compile : String → Option F) (s : Settings) (k : Fault) : Prop where
  /-- They have it. -/
  holds : k.In compile s
  /-- They have none before it. -/
  first : ∀ j < k, ¬ j.In compile s

theorem exists_leads {F : Type} {compile : String → Option F} {s : Settings} {k : Fault}
    (h : k.In compile s) : ∃ j, Leads compile s j := by
  have hwf : WellFounded ((· < ·) : Fault → Fault → Prop) := (measure Fault.ctorIdx).wf
  obtain ⟨j, hj, hfirst⟩ := hwf.has_min {j | In compile s j} ⟨k, h⟩
  exact ⟨j, hj, fun i hlt hi => hfirst i hi hlt⟩

end Fault

/-! ### Time limits -/

/-- The seconds of a time limit: those that are set, at most a day, or others if none or less than
one is set. -/
def secondsOr (other : Int) : Option Int → Int
  | none => other
  | some t => if 1 ≤ t then min t 86400 else other

theorem secondsOr_bounds {other : Int} (h : 1 ≤ other ∧ other ≤ 86400) (t : Option Int) :
    1 ≤ secondsOr other t ∧ secondsOr other t ≤ 86400 := by
  unfold secondsOr
  split
  next => exact h
  next => split <;> omega

theorem timeLimit?_getD (t : Option Int) (d : Nat) {other : Int} (hd : (d : Int) = other * 1000) :
    (((timeLimit? t).getD d : Nat) : Int) = secondsOr other t * 1000 := by
  cases t with
  | none => exact hd
  | some t =>
    have hlimit : timeLimit? (some t) =
        if 1 ≤ t then some (min t.toNat maxTimeout * 1000) else none := by
      by_cases ht : 1 ≤ t <;> simp [timeLimit?, Option.filter_some, ht]
    rw [hlimit, secondsOr]
    split
    next ht =>
      rw [Option.getD_some, maxTimeout]
      omega
    next => exact hd

/-! ### The configuration that settings give -/

/-- A configuration is what settings say. -/
structure Settings.Gives {F : Type} (compile : String → Option F) (s : Settings)
    (c : ServerConfig F) : Prop where
  /-- The listen address is the one that is set, or the default. -/
  listen : Net.Address.read? (s.listen.getD defaultListen) = some c.listen
  /-- So is the largest body. -/
  maxBodyBytes : c.maxBodyBytes = s.maxBodyBytes.getD defaultMaxBodyBytes
  /-- The runtime is the one that is named. -/
  runtime : s.ofFunction.runtime = some c.function.runtime.name
  /-- The name is set and not empty. -/
  name : s.ofFunction.name = some c.function.name ∧ c.function.name ≠ ""
  /-- So is the source file. -/
  entrypoint : s.ofFunction.entrypoint = some c.function.entrypoint ∧ c.function.entrypoint ≠ ""
  /-- So is the handler. -/
  handler : s.ofFunction.handler = some c.function.handler ∧ c.function.handler ≠ ""
  /-- The interpreter is the one that is set and not empty, or the default, which is not empty. -/
  interpreter : c.function.interpreter ≠ "" ∧
    (s.ofFunction.interpreter = some c.function.interpreter ∨
      Missing s.ofFunction.interpreter ∧ c.function.interpreter = defaultInterpreter)
  /-- There are as many interpreters as are set, or one. -/
  workers : c.function.workers = s.ofFunction.workers.getD 1
  /-- There is a filter exactly if one is set that is not empty, and it is read from that. -/
  uriFilter : (c.function.uriFilter.isSome ↔ ¬ Missing s.ofFunction.uriFilter) ∧
    ∀ f, c.function.uriFilter = some f → ∃ p, s.ofFunction.uriFilter = some p ∧ compile p = some f
  /-- An invocation may take the time that is set, or a minute. -/
  workerTimeout : (c.function.workerTimeout : Int) =
    secondsOr 60 s.ofFunction.workerTimeout * 1000
  /-- A call waits for the time that is set, or as long as an invocation may take. -/
  dispatchTimeout : (c.function.dispatchTimeout : Int) =
    secondsOr (secondsOr 60 s.ofFunction.workerTimeout) s.ofFunction.dispatchTimeout * 1000
  /-- The working directory is the one that is set. -/
  workingDir : c.function.workingDir = s.ofFunction.workingDir

/-! ### Checking -/

section

variable {F : Type} {compile : String → Option F}

theorem nonEmpty_eq_none_iff {o : Option String} : nonEmpty o = none ↔ Missing o := by
  cases o <;> simp [nonEmpty, Missing]

theorem nonEmpty_eq_some_iff {o : Option String} {t : String} :
    nonEmpty o = some t ↔ o = some t ∧ t ≠ "" := by
  simp [nonEmpty, Option.filter_eq_some_iff]

theorem exists_nonEmpty {o : Option String} (h : ¬ Missing o) : ∃ t, nonEmpty o = some t := by
  rw [← nonEmpty_eq_none_iff] at h
  exact Option.ne_none_iff_exists'.1 h

theorem read?_of_missing {o : Option String} (h : Missing o) :
    Runtime.read? (o.getD "") = .error .missing := by
  rcases h with rfl | rfl <;> rfl

theorem read?_of_other {o : Option String} (h : ¬ Missing o) (hne : o ≠ some "python") :
    Runtime.read? (o.getD "") = .error (.unsupported (o.getD "")) := by
  cases o with
  | none => exact absurd (.inl rfl) h
  | some t =>
    have hempty : t ≠ "" := fun heq => h (.inr (congrArg some heq))
    have hpython : t ≠ "python" := fun heq => hne (congrArg some heq)
    rw [Option.getD_some, Runtime.read?, if_neg hempty, if_neg hpython]

theorem runtime_of_supported {s : Settings} (hmissing : ¬ Fault.noRuntime.In compile s)
    (hother : ¬ Fault.otherRuntime.In compile s) : s.ofFunction.runtime = some "python" := by
  by_contra hne
  exact hother ⟨hmissing, hne⟩

/-- If a fault beyond the runtime is the first, the runtime is supported. -/
theorem Fault.Leads.runtime {s : Settings} {k : Fault} (h : k.Leads compile s)
    (hlt : otherRuntime < k) : s.ofFunction.runtime = some "python" := by
  have hmissing : noRuntime < k := Nat.lt_trans (by decide : noRuntime < otherRuntime) hlt
  exact runtime_of_supported (h.first _ hmissing) (h.first _ hlt)

/-- The filter that a setting gives, unless it cannot be read. -/
inductive FilterOf (compile : String → Option F) (o : Option String) : Option F → Prop where
  /-- None is set. -/
  | unset : Missing o → FilterOf compile o none
  /-- One is set and can be read. -/
  | set {p : String} {f : F} : nonEmpty o = some p → compile p = some f →
      FilterOf compile o (some f)

theorem exists_filterOf {o : Option String} (h : ¬ ∃ p ∈ o, p ≠ "" ∧ compile p = none) :
    ∃ filter, FilterOf compile o filter := by
  by_cases hmissing : Missing o
  · exact ⟨none, .unset hmissing⟩
  · obtain ⟨p, hp⟩ := exists_nonEmpty hmissing
    obtain ⟨hset, hne⟩ := nonEmpty_eq_some_iff.1 hp
    obtain ⟨f, hf⟩ := Option.ne_none_iff_exists'.1 fun hnone => h ⟨p, hset, hne, hnone⟩
    exact ⟨some f, .set hp hf⟩

/-- There is a filter exactly if one is set. -/
theorem FilterOf.said {o : Option String} {filter : Option F} (h : FilterOf compile o filter) :
    (filter.isSome ↔ ¬ Missing o) ∧
      ∀ f, filter = some f → ∃ p, o = some p ∧ compile p = some f := by
  cases h with
  | unset hmissing => exact ⟨by simp [hmissing], nofun⟩
  | @set p f hp hf =>
    have hgiven : ¬ Missing o := by
      rw [← nonEmpty_eq_none_iff, hp]
      exact Option.some_ne_none p
    refine ⟨by simp [hgiven], fun g hg => ⟨p, (nonEmpty_eq_some_iff.1 hp).1, ?_⟩⟩
    rw [hf, hg]

/-- The settings of a function that are not at fault give the function. -/
theorem check_of_given {f : FunctionSettings} {n e h : String} {filter : Option F}
    (hruntime : f.runtime = some "python") (hname : nonEmpty f.name = some n)
    (hentrypoint : nonEmpty f.entrypoint = some e) (hhandler : nonEmpty f.handler = some h)
    (hfilter : FilterOf compile f.uriFilter filter) :
    f.check compile = .ok {
      name := n, entrypoint := e, handler := h, uriFilter := filter
      interpreter := (nonEmpty f.interpreter).getD defaultInterpreter
      workers := f.workers.getD 1
      workerTimeout := (timeLimit? f.workerTimeout).getD defaultTimeout
      dispatchTimeout := (timeLimit? f.dispatchTimeout).getD
        ((timeLimit? f.workerTimeout).getD defaultTimeout)
      workingDir := f.workingDir } := by
  rw [FunctionSettings.check, hruntime, hname, hentrypoint, hhandler]
  cases hfilter with
  | unset hmissing =>
    rw [nonEmpty_eq_none_iff.2 hmissing]
    rfl
  | set hp hf =>
    rw [hp]
    dsimp only
    rw [hf]
    rfl

/-- The interpreter is never an empty text. -/
theorem interpreter_of_nonEmpty (o : Option String) :
    let i := (nonEmpty o).getD defaultInterpreter
    i ≠ "" ∧ (o = some i ∨ Missing o ∧ i = defaultInterpreter) := by
  intro i
  cases hi : nonEmpty o with
  | none =>
    have hdefault : i = defaultInterpreter := by simp [i, hi]
    rw [hdefault]
    exact ⟨by decide, .inr ⟨nonEmpty_eq_none_iff.1 hi, rfl⟩⟩
  | some t =>
    obtain ⟨hset, hne⟩ := nonEmpty_eq_some_iff.1 hi
    have hgiven : i = t := by simp [i, hi]
    rw [hgiven]
    exact ⟨hne, .inl hset⟩

variable (compile) in
/-- Settings with a listen address are checked by those of their function. -/
theorem check_of_listen {s : Settings} {a : Net.Address}
    (ha : Net.Address.read? (s.listen.getD defaultListen) = some a) :
    s.check compile = (s.ofFunction.check compile).map fun f =>
      { listen := a, maxBodyBytes := s.maxBodyBytes.getD defaultMaxBodyBytes, function := f } := by
  rw [Settings.check, ha]
  rfl

/-- Settings whose first fault is in those of the function. -/
theorem check_eq_error_of_listen {s : Settings} {e : ConfigError}
    (hlisten : ¬ Fault.badListen.In compile s) (he : s.ofFunction.check compile = .error e) :
    s.check compile = .error e := by
  obtain ⟨a, ha⟩ := Option.ne_none_iff_exists'.1 hlisten
  rw [check_of_listen compile ha, he]
  rfl

/-- The first fault of settings is complained about. -/
theorem Fault.Leads.check_eq {s : Settings} {k : Fault} (h : k.Leads compile s) :
    s.check compile = .error (k.complaint s) := by
  have hk := h.holds
  by_cases hlisten : k = badListen
  · subst hlisten
    have hnone : Net.Address.read? (s.listen.getD defaultListen) = none := hk
    rw [Settings.check, hnone]
    rfl
  -- every other fault is one of the function's settings, after the listen address was read
  refine check_eq_error_of_listen (h.first _ (badListen_lt hlisten)) ?_
  rw [FunctionSettings.check]
  cases k with
  | badListen => exact absurd rfl hlisten
  | noRuntime =>
    rw [read?_of_missing hk]
    rfl
  | otherRuntime =>
    rw [read?_of_other hk.1 hk.2]
    rfl
  | noName =>
    rw [h.runtime (by decide), nonEmpty_eq_none_iff.2 hk]
    rfl
  | noEntrypoint =>
    obtain ⟨n, hname⟩ := exists_nonEmpty (h.first noName (by decide))
    rw [h.runtime (by decide), hname, nonEmpty_eq_none_iff.2 hk, complaint,
      (nonEmpty_eq_some_iff.1 hname).1]
    rfl
  | noHandler =>
    obtain ⟨n, hname⟩ := exists_nonEmpty (h.first noName (by decide))
    obtain ⟨e, hentrypoint⟩ := exists_nonEmpty (h.first noEntrypoint (by decide))
    rw [h.runtime (by decide), hname, hentrypoint, nonEmpty_eq_none_iff.2 hk, complaint,
      (nonEmpty_eq_some_iff.1 hname).1]
    rfl
  | badFilter =>
    obtain ⟨n, hname⟩ := exists_nonEmpty (h.first noName (by decide))
    obtain ⟨e, hentrypoint⟩ := exists_nonEmpty (h.first noEntrypoint (by decide))
    obtain ⟨f, hhandler⟩ := exists_nonEmpty (h.first noHandler (by decide))
    obtain ⟨p, hp, hne, hnone⟩ := hk
    rw [h.runtime (by decide), hname, hentrypoint, hhandler, nonEmpty_eq_some_iff.2 ⟨hp, hne⟩,
      complaint, hp]
    dsimp only
    rw [hnone]
    rfl

/-- Settings without a fault give a configuration. -/
theorem exists_check_eq_ok {s : Settings} (h : ∀ k, ¬ Fault.In compile s k) :
    ∃ c, s.check compile = .ok c ∧ s.Gives compile c := by
  obtain ⟨a, ha⟩ := Option.ne_none_iff_exists'.1 (h .badListen)
  obtain ⟨n, hname⟩ := exists_nonEmpty (h .noName)
  obtain ⟨e, hentrypoint⟩ := exists_nonEmpty (h .noEntrypoint)
  obtain ⟨f, hhandler⟩ := exists_nonEmpty (h .noHandler)
  have hruntime := runtime_of_supported (h .noRuntime) (h .otherRuntime)
  obtain ⟨filter, hfilter⟩ := exists_filterOf (h .badFilter)
  have hdefault : (defaultTimeout : Int) = 60 * 1000 := rfl
  have hworker := timeLimit?_getD s.ofFunction.workerTimeout defaultTimeout hdefault
  have hcheck := check_of_listen compile ha
  rw [check_of_given hruntime hname hentrypoint hhandler hfilter, Except.map] at hcheck
  exact ⟨_, hcheck, {
      listen := ha
      maxBodyBytes := rfl
      runtime := hruntime
      name := nonEmpty_eq_some_iff.1 hname
      entrypoint := nonEmpty_eq_some_iff.1 hentrypoint
      handler := nonEmpty_eq_some_iff.1 hhandler
      interpreter := interpreter_of_nonEmpty _
      workers := rfl
      uriFilter := hfilter.said
      workerTimeout := hworker
      dispatchTimeout := timeLimit?_getD _ _ hworker
      workingDir := rfl }⟩

/-- Settings are refused exactly with the complaint about their first fault. -/
theorem check_eq_error_iff {s : Settings} {e : ConfigError} :
    s.check compile = .error e ↔ ∃ k, Fault.Leads compile s k ∧ e = k.complaint s := by
  constructor
  · intro he
    obtain ⟨k, hk⟩ : ∃ k, Fault.In compile s k := by
      by_contra hnone
      obtain ⟨c, hc, -⟩ := exists_check_eq_ok (not_exists.1 hnone)
      rw [hc] at he
      cases he
    obtain ⟨j, hj⟩ := Fault.exists_leads hk
    refine ⟨j, hj, ?_⟩
    rw [hj.check_eq] at he
    exact (Except.error.inj he).symm
  · rintro ⟨k, hk, rfl⟩
    exact hk.check_eq

/-- Settings are accepted exactly if they have no fault. -/
theorem exists_check_eq_ok_iff {s : Settings} :
    (∃ c, s.check compile = .ok c) ↔ ∀ k, ¬ Fault.In compile s k := by
  constructor
  · rintro ⟨c, hc⟩ k hk
    obtain ⟨j, hj⟩ := Fault.exists_leads hk
    rw [hj.check_eq] at hc
    cases hc
  · intro h
    obtain ⟨c, hc, -⟩ := exists_check_eq_ok h
    exact ⟨c, hc⟩

theorem gives_of_check_eq_ok {s : Settings} {c : ServerConfig F} (hc : s.check compile = .ok c) :
    s.Gives compile c := by
  obtain ⟨d, hd, hgives⟩ := exists_check_eq_ok (exists_check_eq_ok_iff.1 ⟨c, hc⟩)
  rw [hc] at hd
  exact Except.ok.inj hd ▸ hgives

/-- Every time limit is from a second to a day. -/
theorem Settings.Gives.limits {s : Settings} {c : ServerConfig F} (h : s.Gives compile c) :
    (1000 ≤ c.function.workerTimeout ∧ c.function.workerTimeout ≤ 86400000) ∧
      1000 ≤ c.function.dispatchTimeout ∧ c.function.dispatchTimeout ≤ 86400000 := by
  have hminute : (1 : Int) ≤ 60 ∧ (60 : Int) ≤ 86400 := by decide
  have hworker := secondsOr_bounds hminute s.ofFunction.workerTimeout
  have hdispatch := secondsOr_bounds hworker s.ofFunction.dispatchTimeout
  rw [← Int.ofNat_le]
  have hw := h.workerTimeout
  have hd := h.dispatchTimeout
  omega

end

/-- The text of a configuration file is refused if it is not written as it should be, and else with
the complaint about the first fault of its settings. -/
theorem ofText_eq_error_iff {text : String} {e : ConfigError} :
    ServerConfig.ofText text = .error e ↔
      (Settings.ofText? text.toList = none ∧ e = .malformed) ∨
        ∃ s k, Settings.ofText? text.toList = some s ∧ Fault.Leads Filter.read? s k ∧
          e = k.complaint s := by
  unfold ServerConfig.ofText
  cases Settings.ofText? text.toList with
  | none => simp [eq_comm]
  | some s => simp [check_eq_error_iff]

/-- Whatever is set and what is not, and however filters are read, settings are refused exactly with
the complaint about the first fault that they have, in the order listen address, runtime, name,
source file, handler, filter; and they are accepted exactly if they have none. Then the name, the
source file, the handler and the interpreter are not empty, there is a filter exactly if one is set
that is not empty, and the time limits are those that are set, from one second to a day. -/
theorem complains_in_order {F : Type} (compile : String → Option F) (s : Settings) :
    (∀ e, s.check compile = .error e ↔ ∃ k, Fault.Leads compile s k ∧ e = k.complaint s) ∧
    ((∃ c, s.check compile = .ok c) ↔ ∀ k, ¬ Fault.In compile s k) ∧
    ∀ c, s.check compile = .ok c → s.Gives compile c ∧
      (1000 ≤ c.function.workerTimeout ∧ c.function.workerTimeout ≤ 86400000) ∧
      1000 ≤ c.function.dispatchTimeout ∧ c.function.dispatchTimeout ≤ 86400000 := by
  refine ⟨fun e => check_eq_error_iff, exists_check_eq_ok_iff, fun c hc => ?_⟩
  have hgives := gives_of_check_eq_ok hc
  exact ⟨hgives, hgives.limits⟩

/-- Settings with three faults, and settings with limits out of bounds. -/
theorem complains_in_order_of_two :
    let bad : Settings := { function := some {
      name := some "f", runtime := some "python", entrypoint := some "", uriFilter := some "(" } }
    let good : Settings := { function := some {
      name := some "f", runtime := some "python", interpreter := some "", handler := some "handler"
      entrypoint := some "index.py", workerTimeout := some (-5)
      dispatchTimeout := some 9223372036854775807 } }
    bad.check Filter.read? = .error (.missingEntrypoint "f" .python) ∧
      ∃ c, good.check Filter.read? = .ok c ∧ c.function.workerTimeout = 60000 ∧
        c.function.dispatchTimeout = 86400000 ∧ c.function.interpreter = "python" := by
  intro bad good
  constructor
  · refine ((complains_in_order Filter.read? bad).1 _).2 ⟨.noEntrypoint, ⟨.inr rfl, ?_⟩, rfl⟩
    intro j hj
    cases j with
    | badListen | noRuntime | otherRuntime | noName => decide
    | _ => exact absurd hj (by decide)
  · obtain ⟨-, hok, hgives⟩ := complains_in_order Filter.read? good
    obtain ⟨c, hc⟩ := hok.2 fun k => by cases k <;> decide
    have hgood := (hgives c hc).1
    refine ⟨c, hc, Int.ofNat.inj hgood.workerTimeout, Int.ofNat.inj hgood.dispatchTimeout, ?_⟩
    rcases hgood.interpreter.2 with hset | ⟨-, hdefault⟩
    · exact absurd (Option.some.inj hset).symm hgood.interpreter.1
    · exact hdefault

end FunctionHost
