import FunctionHost.Event.Request
import FunctionHost.Proofs.Event.Grouping
import FunctionHost.Proofs.Json.Compact
/-!
# Reading an event back

The JSON of an event can be read back by whoever knows its shape: ten members in a fixed order, a
string for one value and an array for several, and maps whose keys ascend (`Event.ofJson?`). An
event has no numbers, so its text is read as its JSON.

Main statement: `reads_event`, the text of an event is on one line, has the ten members, and is the
text of no other event. `ordered_event` says that the event of any request has maps whose keys
ascend.
-/

namespace FunctionHost

open FunctionHost.Json

/-! ### What is read -/

/-- A string. -/
def Json.Value.string? : Json.Value → Option String
  | .str s => some s
  | _ => none

/-- One value or several. -/
def Values.ofJson? : Json.Value → Option Values
  | .str v => some (.one v)
  | .arr vs => (vs.mapM Json.Value.string?).map .many
  | _ => none

/-- A cookie. -/
def Cookie.ofJson? : Json.Value → Option Cookie
  | .obj [(k, .str name), (l, .str value)] =>
    if k = "name" ∧ l = "value" then some ⟨name, value⟩ else none
  | _ => none

instance {α : Type} (m : SortedMap α) : Decidable m.Ascending :=
  inferInstanceAs (Decidable (List.Pairwise _ m))

/-- A map whose keys ascend. -/
def Values.mapOfJson? : Json.Value → Option (SortedMap Values)
  | .obj ms =>
    if SortedMap.Ascending ms then ms.mapM fun m => (Values.ofJson? m.2).map (m.1, ·) else none
  | _ => none

/-- The keys of an event, in the order in which they are written. -/
def Event.keys : List String := ["request_id", "method", "path", "proto", "host", "request_uri",
  "remote_addr_port", "cookies", "headers", "query_params"]

/-- An event by the values of its members. -/
def Event.ofValues? : List Json.Value → Option Event
  | [.str requestId, .str method, .str path, .str proto, .str host, .str requestUri,
      .str remoteAddrPort, .arr cookies, headers, queryParams] => do
    let cookies ← cookies.mapM Cookie.ofJson?
    let headers ← Values.mapOfJson? headers
    let queryParams ← Values.mapOfJson? queryParams
    return ⟨requestId, method, path, proto, host, requestUri, remoteAddrPort, cookies, headers,
      queryParams⟩
  | _ => none

/-- An event. -/
def Event.ofJson? : Json.Value → Option Event
  | .obj ms => if ms.map Prod.fst = keys then ofValues? (ms.map Prod.snd) else none
  | _ => none

/-- The keys of both maps ascend. -/
structure Event.Ordered (e : Event) : Prop where
  /-- Those of the headers. -/
  headers : e.headers.Ascending
  /-- Those of the query. -/
  queryParams : e.queryParams.Ascending

/-- The event of a request has maps whose keys ascend. -/
theorem Request.ordered_event (r : Request) (requestId remote : String) :
    (r.event requestId remote).Ordered where
  headers := (Values.groups_grouped _).ascending
  queryParams := (Values.groups_grouped _).ascending

/-! ### Reading the parts -/

theorem mapM_map_of_leftInverse {α β : Type} {f : α → β} {g : β → Option α} {xs : List α}
    (h : ∀ x, g (f x) = some x) : (xs.map f).mapM g = some xs := by
  induction xs with
  | nil => rfl
  | cons x xs ih =>
    rw [List.map_cons, List.mapM_cons, h, ih]
    rfl

theorem Values.ofJson?_json (x : Values) : Values.ofJson? x.json = some x := by
  cases x with
  | one v => rfl
  | many vs =>
    have hread : (vs.map Json.Value.str).mapM Json.Value.string? = some vs :=
      mapM_map_of_leftInverse fun _ => rfl
    rw [json, ofJson?, hread, Option.map_some]

theorem Cookie.ofJson?_json (c : Cookie) : Cookie.ofJson? c.json = some c := by
  rw [json, ofJson?, if_pos ⟨rfl, rfl⟩]

/-- The JSON of a map. -/
theorem Values.mapOfJson?_json {m : SortedMap Values} (h : m.Ascending) :
    Values.mapOfJson? (.obj (m.map fun p => (p.1, p.2.json))) = some m := by
  have hascending : SortedMap.Ascending (m.map fun p => (p.1, p.2.json)) :=
    List.pairwise_map.2 h
  rw [mapOfJson?, if_pos hascending]
  refine mapM_map_of_leftInverse fun p => ?_
  simp only [ofJson?_json, Option.map_some]

/-- The members of an event. -/
theorem Event.exists_members (e : Event) : ∃ ms, e.json = .obj ms ∧ ms.map Prod.fst = keys ∧
    ms.map Prod.snd = [.str e.requestId, .str e.method, .str e.path, .str e.proto, .str e.host,
      .str e.requestUri, .str e.remoteAddrPort, .arr (e.cookies.map Cookie.json),
      .obj (e.headers.map fun p => (p.1, p.2.json)),
      .obj (e.queryParams.map fun p => (p.1, p.2.json))] :=
  ⟨_, rfl, rfl, rfl⟩

theorem Event.ofJson?_json {e : Event} (h : e.Ordered) : Event.ofJson? e.json = some e := by
  obtain ⟨ms, hjson, hkeys, hvalues⟩ := e.exists_members
  have hcookies : (e.cookies.map Cookie.json).mapM Cookie.ofJson? = some e.cookies :=
    mapM_map_of_leftInverse Cookie.ofJson?_json
  rw [hjson, ofJson?, if_pos hkeys, hvalues, ofValues?, hcookies, Values.mapOfJson?_json h.headers,
    Values.mapOfJson?_json h.queryParams]
  rfl

/-! ### No numbers -/

theorem Values.integral_json (x : Values) : Integral x.json := by
  cases x with
  | one v => exact .str v
  | many vs =>
    refine .arr fun v hv => ?_
    obtain ⟨s, -, rfl⟩ := List.mem_map.1 hv
    exact .str s

theorem Values.integral_map (m : SortedMap Values) :
    Integral (.obj (m.map fun p => (p.1, p.2.json))) := by
  refine .obj fun n hn => ?_
  obtain ⟨p, -, rfl⟩ := List.mem_map.1 hn
  exact p.2.integral_json

theorem Cookie.integral_json (c : Cookie) : Integral c.json := by
  refine .obj fun m hm => ?_
  simp only [List.mem_cons, List.not_mem_nil, or_false] at hm
  rcases hm with rfl | rfl <;> exact .str _

theorem Event.integral_json (e : Event) : Integral e.json := by
  refine .obj fun m hm => ?_
  simp only [List.mem_cons, List.not_mem_nil, or_false] at hm
  rcases hm with rfl | rfl | rfl | rfl | rfl | rfl | rfl | rfl | rfl | rfl
  case inr.inr.inr.inr.inr.inr.inr.inl =>
    refine .arr fun v hv => ?_
    obtain ⟨c, -, rfl⟩ := List.mem_map.1 hv
    exact c.integral_json
  case inr.inr.inr.inr.inr.inr.inr.inr.inl => exact Values.integral_map e.headers
  case inr.inr.inr.inr.inr.inr.inr.inr.inr => exact Values.integral_map e.queryParams
  all_goals exact .str _

/-- The text of an event is one line without control characters. It is the JSON of an object with
ten members in a fixed order, from which the event is read: single values as one and arrays as
several, and maps with ascending keys. So it is the text of no other event. -/
theorem reads_event (e : Event) (h : e.Ordered) :
    (∀ z ∈ e.json.text.toList, 0x20 ≤ z.toNat) ∧
    (∃ ms, Json.Value.read? e.json.text = some (.obj ms) ∧
      ms.map Prod.fst = ["request_id", "method", "path", "proto", "host", "request_uri",
        "remote_addr_port", "cookies", "headers", "query_params"] ∧
      Event.ofJson? (.obj ms) = some e) ∧
    ∀ e' : Event, e'.Ordered → e'.json.text = e.json.text → e' = e := by
  refine ⟨?_, ?_, ?_⟩
  · intro z hz
    have htext : e.json.text.toList = e.json.chars := String.toList_ofList
    rw [htext] at hz
    exact le_of_mem_chars e.integral_json z hz
  · obtain ⟨ms, hjson, hkeys, -⟩ := e.exists_members
    refine ⟨ms, ?_, hkeys, ?_⟩
    · rw [← hjson]
      exact read?_text e.integral_json
    · rw [← hjson]
      exact Event.ofJson?_json h
  · intro e' h' htext
    have hread := read?_text e'.integral_json
    rw [htext, read?_text e.integral_json, Option.some.injEq] at hread
    have hevent := Event.ofJson?_json h'
    rw [← hread, Event.ofJson?_json h, Option.some.injEq] at hevent
    exact hevent.symm

/-- An event with a value that looks like a list, and with a list. -/
theorem reads_event_with_list :
    let e : Event := { requestId := "\x22\n\\", cookies := [⟨"a", "[1]"⟩],
                       headers := [("A", .one "[\x22b\x22]"), ("a", .many ["b", "c"])] }
    let e' : Event := { e with headers := [("A", .many ["b"]), ("a", .many ["b", "c"])] }
    e.Ordered ∧ (Json.Value.read? e.json.text).bind Event.ofJson? = some e ∧
      e'.json.text ≠ e.json.text := by
  intro e e'
  have he : e.Ordered := ⟨by decide, by decide⟩
  have he' : e'.Ordered := ⟨by decide, by decide⟩
  obtain ⟨-, ⟨ms, hread, -, hevent⟩, hinj⟩ := reads_event e he
  refine ⟨he, ?_, fun htext => ?_⟩
  · rw [hread]
    exact hevent
  · exact absurd (hinj e' he' htext) (by decide)

end FunctionHost
