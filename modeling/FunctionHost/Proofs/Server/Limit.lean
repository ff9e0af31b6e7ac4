import FunctionHost.Proofs.Gateway.Serving
import FunctionHost.Server.Response
/-!
# The limit of bodies

A server refuses a request whose body has more bytes than the limit, by the length that the body
announces or by the first frame that goes beyond, and is as before (`receive_of_tooLarge`). A body
that fits makes no difference (`receive_of_fits`). So what is done to a server is what is done to
its gateway, without the requests that are refused and without the bodies (`passed`).

Main statement: `limits_bodies`, which requests are refused, and what the others are answered.
-/

namespace FunctionHost

open FunctionHost.Http FunctionHost.Pool

/-- How many bytes are in frames does not depend on where they are cut. -/
theorem bytesIn_eq_length_flatten (frames : List (List UInt8)) :
    bytesIn frames = frames.flatten.length := by
  induction frames with
  | nil => rfl
  | cons f fs ih =>
    rw [List.flatten_cons, List.length_append, ← ih]
    rfl

namespace Gateway

/-- The gateway before anything has been seen. -/
def unseen (g : Gateway) : Gateway := { g with pool := g.pool.unseen }

/-- What a gateway gives for a request when deeds follow: nothing if the request is skipped, and
otherwise the response when its call ends. -/
inductive Gives (g : Gateway) (name : String) (r : Request) (slot : Option String)
    (remote : String) (later : List Deed) : Option Reply → Prop where
  /-- The request is skipped. -/
  | skips {id : Option String} : (g.serve name r slot remote).1 = .skipped id →
      Gives g name r slot remote later none
  /-- The call of the request ends. -/
  | ends {id : String} {o : Outcome} : (g.serve name r slot remote).1 = .dispatched id →
      .ended (g.callOf name r id remote) o ∈ g.seen (.serves name r slot remote :: later) →
      Gives g name r slot remote later (some o.response)

/-- A deed begins before anything has been seen. -/
theorem perform_unseen (g : Gateway) (d : Deed) : g.unseen.perform d = g.perform d := by
  cases d <;> rfl

theorem seen_unseen (g : Gateway) (ds : List Deed) : g.unseen.seen ds = g.seen ds := by
  cases ds with
  | nil => rfl
  | cons d ds => rw [seen, seen, perform_unseen]

theorem unseen_after_unseen (g : Gateway) (ds : List Deed) :
    (g.unseen.after ds).unseen = (g.after ds).unseen := by
  cases ds with
  | nil => rfl
  | cons d ds => rw [after_cons, after_cons, perform_unseen]

theorem seen_append (g : Gateway) (ds es : List Deed) :
    g.seen (ds ++ es) = g.seen ds ++ (g.after ds).seen es := by
  induction ds generalizing g with
  | nil => rfl
  | cons d ds ih => rw [List.cons_append, seen, seen, ih, after_cons, List.append_assoc]

theorem after_append (g : Gateway) (ds es : List Deed) :
    g.after (ds ++ es) = (g.after ds).after es := List.foldl_append

end Gateway

namespace Server

/-! ### What is done to a server -/

/-- Something done to a server. -/
inductive Deed where
  /-- An action on the pool. -/
  | acts (a : Action)
  /-- A request is received with its body, from the peer `remote`. -/
  | receives (name : String) (r : Request) (b : Body) (remote : String)

/-- The server before anything has been seen. -/
def unseen (s : Server) : Server := { s with gateway := s.gateway.unseen }

/-- Does a deed. -/
def perform (s : Server) : Deed → Server
  | .acts a => { s with gateway := (s.gateway.step a).2 }
  | .receives name r b remote => (s.unseen.receive name r b remote).2

/-- The server after deeds done one after another. -/
def after (s : Server) (ds : List Deed) : Server := ds.foldl perform s

/-- All that is seen of the pool meanwhile. -/
def seen (s : Server) : List Deed → List Effect
  | [] => []
  | d :: ds => (s.perform d).gateway.pool.effects ++ (s.perform d).seen ds

/-- What a server answers a request when deeds follow: at once, or when its call ends. -/
inductive Gives (s : Server) (name : String) (r : Request) (b : Body) (remote : String)
    (later : List Deed) : Reply → Prop where
  /-- The request is answered at once. -/
  | now {y : Reply} : (s.receive name r b remote).1 = .now y → Gives s name r b remote later y
  /-- The call of the request ends. -/
  | ends {id : String} {o : Outcome} : (s.receive name r b remote).1 = .later id →
      .ended (s.gateway.callOf name r id remote) o ∈
        s.seen (.receives name r b remote :: later) →
      Gives s name r b remote later o.response

/-- What a deed does to the gateway. -/
def passedBy (limit : Nat) : Deed → List Gateway.Deed
  | .acts a => [.acts a]
  | .receives name r b remote =>
    if limit < b.size then [] else [.serves name r none remote]

/-- What deeds do to the gateway. -/
def passed (limit : Nat) (ds : List Deed) : List Gateway.Deed := ds.flatMap (passedBy limit)

theorem passed_cons (limit : Nat) (d : Deed) (ds : List Deed) :
    passed limit (d :: ds) = passedBy limit d ++ passed limit ds := List.flatMap_cons

/-- What a request is answered whose body is thrown away. -/
def answered : Served → Answered
  | .skipped _ => .now (.canonical .notFound)
  | .dispatched id => .later id

section

variable {s : Server} {name remote : String} {r : Request} {b : Body}

/-! ### One request -/

/-- A body that is too large leaves everything as it was. -/
theorem receive_of_tooLarge (h : s.maxBodyBytes < b.size) :
    s.receive name r b remote = (.now (.canonical .payloadTooLarge), s) :=
  if_pos (Body.tooLarge_iff.2 h)

/-- A body that fits makes no difference. -/
theorem receive_of_fits (h : b.size ≤ s.maxBodyBytes) : s.receive name r b remote =
    (answered (s.gateway.serve name r none remote).1,
      { s with gateway := (s.gateway.serve name r none remote).2 }) := by
  have hfits : ¬ b.tooLarge s.maxBodyBytes = true := fun hlarge =>
    Nat.not_lt.2 h (Body.tooLarge_iff.1 hlarge)
  unfold receive
  rw [if_neg hfits]
  split
  next heq => rw [heq]; rfl
  next heq => rw [heq]; rfl

/-- A request is refused exactly if its body has more bytes than the limit. -/
theorem refused_iff : (s.receive name r b remote).1 = .now (.canonical .payloadTooLarge) ↔
    s.maxBodyBytes < b.size := by
  refine ⟨fun h => ?_, fun h => by rw [receive_of_tooLarge h]⟩
  by_contra hfits
  rw [receive_of_fits (Nat.not_lt.1 hfits)] at h
  cases hserved : (s.gateway.serve name r none remote).1 with
  | skipped id =>
    have hreply : Reply.canonical .notFound = .canonical .payloadTooLarge := by
      simpa [hserved, answered] using h
    exact absurd hreply (by decide +kernel)
  | dispatched id => simp [hserved, answered] at h

/-! ### Runs -/

/-- A deed does to the gateway what is passed to it, and shows the same. -/
theorem perform_passed (s : Server) (d : Deed) :
    (s.perform d).maxBodyBytes = s.maxBodyBytes ∧
    (s.perform d).gateway.unseen = (s.gateway.after (passedBy s.maxBodyBytes d)).unseen ∧
    (s.perform d).gateway.pool.effects = s.gateway.seen (passedBy s.maxBodyBytes d) := by
  cases d with
  | acts a => exact ⟨rfl, rfl, (List.append_nil _).symm⟩
  | receives name r b remote =>
    by_cases hlarge : s.maxBodyBytes < b.size
    · rw [perform, receive_of_tooLarge (s := s.unseen) hlarge, passedBy, if_pos hlarge]
      exact ⟨rfl, rfl, rfl⟩
    · rw [perform, receive_of_fits (s := s.unseen) (Nat.not_lt.1 hlarge), passedBy, if_neg hlarge]
      exact ⟨rfl, rfl, (List.append_nil _).symm⟩

/-- The gateway of a server is the one that is left by what is passed to it. -/
theorem gateway_after (s : Server) (ds : List Deed) :
    (s.after ds).gateway.unseen = (s.gateway.after (passed s.maxBodyBytes ds)).unseen := by
  induction ds generalizing s with
  | nil => rfl
  | cons d ds ih =>
    obtain ⟨hlimit, hgateway, -⟩ := perform_passed s d
    have hlater := ih (s.perform d)
    rw [hlimit, ← Gateway.unseen_after_unseen, hgateway, Gateway.unseen_after_unseen] at hlater
    rw [passed_cons, Gateway.after_append]
    exact hlater

/-- A server shows what its gateway shows. -/
theorem seen_eq (s : Server) (ds : List Deed) :
    s.seen ds = s.gateway.seen (passed s.maxBodyBytes ds) := by
  induction ds generalizing s with
  | nil => rfl
  | cons d ds ih =>
    obtain ⟨hlimit, hgateway, heffects⟩ := perform_passed s d
    rw [seen, ih, hlimit, ← Gateway.seen_unseen, hgateway, Gateway.seen_unseen, heffects,
      passed_cons, Gateway.seen_append]

/-- A request that fits is answered what the gateway gives for it. -/
theorem gives_of_fits (h : b.size ≤ s.maxBodyBytes) (later : List Deed) (y : Reply) :
    s.Gives name r b remote later y ↔
      ∃ x, s.gateway.Gives name r none remote (passed s.maxBodyBytes later) x ∧
        y = x.getD (.canonical .notFound) := by
  have hpassed : passed s.maxBodyBytes (.receives name r b remote :: later) =
      .serves name r none remote :: passed s.maxBodyBytes later := by
    rw [passed_cons, passedBy, if_neg (Nat.not_lt.2 h)]
    rfl
  have hanswer : (s.receive name r b remote).1 =
      answered (s.gateway.serve name r none remote).1 := congrArg Prod.fst (receive_of_fits h)
  constructor
  · rintro (hnow | ⟨hlater, hended⟩)
    · cases hserved : (s.gateway.serve name r none remote).1 with
      | skipped id =>
        rw [hanswer, hserved] at hnow
        exact ⟨none, .skips hserved, (Answered.now.inj hnow).symm⟩
      | dispatched id =>
        rw [hanswer, hserved] at hnow
        cases hnow
    · cases hserved : (s.gateway.serve name r none remote).1 with
      | skipped id =>
        rw [hanswer, hserved] at hlater
        cases hlater
      | dispatched id =>
        rw [hanswer, hserved] at hlater
        obtain rfl := Answered.later.inj hlater
        rw [seen_eq, hpassed] at hended
        exact ⟨_, .ends hserved hended, rfl⟩
  · rintro ⟨x, hskips | ⟨hserved, hended⟩, rfl⟩
    · exact .now (by rw [hanswer, hskips]; rfl)
    · rw [← hpassed, ← seen_eq] at hended
      exact .ends (by rw [hanswer, hserved]; rfl) hended

end

/-- Whatever was done to a server, it refuses a request with 413 exactly if the body has more bytes
than the limit: as many as it announces, and otherwise as many as there are in its frames, wherever
these are cut. Then the server is as before: no id is counted, no call is made and nothing is
written. Any other request is answered what the gateway gives for it, and 404 if it gives nothing,
and its body makes no difference. Nor does it later on: what is done to the server does to its
gateway, and shows, what is done without the requests that are refused and without the bodies. -/
theorem limits_bodies (s : Server) :
    (∀ name r (b : Body) remote, let size := b.announced.getD b.frames.flatten.length
      let received := s.receive name r b remote
      (received.1 = .now (.canonical .payloadTooLarge) ↔ s.maxBodyBytes < size) ∧
      (s.maxBodyBytes < size → received.2 = s ∧
        ∀ later y, s.Gives name r b remote later y ↔ y = .canonical .payloadTooLarge) ∧
      (size ≤ s.maxBodyBytes →
        received.2 = { s with gateway := (s.gateway.serve name r none remote).2 } ∧
        ∀ later y, s.Gives name r b remote later y ↔
          ∃ x, s.gateway.Gives name r none remote (passed s.maxBodyBytes later) x ∧
            y = x.getD (.canonical .notFound))) ∧
    ∀ ds, s.seen ds = s.gateway.seen (passed s.maxBodyBytes ds) ∧
      (s.after ds).gateway.unseen = (s.gateway.after (passed s.maxBodyBytes ds)).unseen := by
  refine ⟨fun name r b remote => ?_, fun ds => ⟨seen_eq s ds, gateway_after s ds⟩⟩
  have hsize : b.announced.getD b.frames.flatten.length = b.size := by
    rw [Body.size, bytesIn_eq_length_flatten]
  dsimp only
  rw [hsize]
  refine ⟨refused_iff, fun hlarge => ?_, fun hfits => ?_⟩
  · rw [receive_of_tooLarge hlarge]
    refine ⟨rfl, fun later y => ⟨?_, ?_⟩⟩
    · rintro (hnow | ⟨hlater, -⟩)
      · rw [receive_of_tooLarge hlarge] at hnow
        exact (Answered.now.inj hnow).symm
      · rw [receive_of_tooLarge hlarge] at hlater
        cases hlater
    · rintro rfl
      exact .now (refused_iff.2 hlarge)
  · rw [receive_of_fits hfits]
    exact ⟨rfl, gives_of_fits hfits⟩

/-- Of two requests the second has one byte too many and is refused, and the first is answered what
the interpreter replies. -/
theorem limits_bodies_of_two :
    let s : Server := ⟨Gateway.opened (· != "/b") "req" .plain 1, 3⟩
    let three : Body := { frames := [[1, 2], [], [3]] }
    let four : Body := { frames := [[1, 2], [], [3, 4]] }
    let later := [Deed.receives "b" (Gateway.requestFor 98) four "",
      .acts (.stdout 0 (blockBytes "req-1" ⟨.ok, "x"⟩))]
    (s.receive "b" (Gateway.requestFor 98) four "").2 = s ∧
      s.Gives "a" (Gateway.requestFor 97) three "" later ⟨.ok, "x"⟩ ∧
      s.Gives "b" (Gateway.requestFor 98) three "" later (.canonical .notFound) := by
  intro s three four later
  obtain ⟨-, hrefused, -⟩ := (limits_bodies s).1 "b" (Gateway.requestFor 98) four ""
  obtain ⟨-, -, ha⟩ := (limits_bodies s).1 "a" (Gateway.requestFor 97) three ""
  obtain ⟨-, -, hb⟩ := (limits_bodies s).1 "b" (Gateway.requestFor 98) three ""
  refine ⟨(hrefused (by decide)).1, ((ha (by decide)).2 later _).2 ?_,
    ((hb (by decide)).2 later _).2 ?_⟩
  · have hended : .ended (s.gateway.callOf "a" (Gateway.requestFor 97) "req-1" "")
        (.reply ⟨.ok, "x"⟩) ∈ s.gateway.seen
          (.serves "a" (Gateway.requestFor 97) none "" :: passed s.maxBodyBytes later) := by
      decide +kernel
    exact ⟨_, .ends (by decide +kernel) hended, rfl⟩
  · have hskipped : (s.gateway.serve "b" (Gateway.requestFor 98) none "").1 = .skipped none := by
      decide +kernel
    exact ⟨none, .skips hskipped, rfl⟩

end Server

end FunctionHost
