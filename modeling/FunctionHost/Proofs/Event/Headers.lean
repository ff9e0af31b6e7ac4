import FunctionHost.Proofs.Event.Grouping
import FunctionHost.Proofs.Event.Names
/-!
# Headers by name

A field is sent with a name in any letter case and with a value in bytes. The headers of an event
have the values of all fields but cookies, as text, under the canonical form of their names. As a
name has one canonical form, and two names that differ in more than their letter case have two,
nothing is lost and nothing that belongs to different names is put together.

Main statement: `groups_by_name`, what the headers of an event are, and that they do not depend on
the letter case of names or on the order of fields with different names (`Rearranged`).
-/

namespace FunctionHost

open FunctionHost.Http FunctionHost.Text

/-- A field as it is sent: the bytes of its name and of its value. -/
abbrev Field := List UInt8 × List UInt8

namespace Field

/-- The name as text. -/
def name (f : Field) : String := String.ofList (f.1.map fun b => Char.ofNat b.toNat)

/-- The value as text. -/
def text (f : Field) : String := String.ofList (Utf8.decodeLossy f.2)

/-- The field is no cookie. -/
def Listed (f : Field) : Prop := ¬ SameName f.name "Cookie" ∧ ¬ SameName f.name "Set-Cookie"

instance (f : Field) : Decidable f.Listed :=
  inferInstanceAs (Decidable (¬ SameName f.name "Cookie" ∧ ¬ SameName f.name "Set-Cookie"))

/-- The header that a field is kept as. -/
def header (f : Field) : Header := ⟨String.ofList (lower f.name.toList), f.2⟩

/-- The field is admitted. -/
def Valid (f : Field) : Prop := Header.ofBytes? f.1 f.2 = .ok f.header

end Field

/-- The same fields, but for the letter case of names, in another order that keeps the order of
fields with the same name. -/
inductive Rearranged : List Field → List Field → Prop where
  /-- No fields at all. -/
  | nil : Rearranged [] []
  /-- The first field stays and may change the letter case of its name. -/
  | cons {f g : Field} {fs gs : List Field} : SameName f.name g.name → f.2 = g.2 →
      Rearranged fs gs → Rearranged (f :: fs) (g :: gs)
  /-- The first two fields have different names and change places. -/
  | swap {f g : Field} {fs : List Field} : ¬ SameName f.name g.name →
      Rearranged (f :: g :: fs) (g :: f :: fs)
  /-- One change after another. -/
  | trans {fs gs hs : List Field} : Rearranged fs gs → Rearranged gs hs → Rearranged fs hs

/-! ### Which fields are admitted -/

/-- A header, if a field that is kept as it is admitted. -/
def admitted (h : Header) : Except HeaderError Header :=
  if h.name.toList.isEmpty || Header.maxNameLength < h.name.toList.length ||
      !h.name.toList.all (isTokenChar ·.toNat) then .error .name
  else if !h.value.all Header.isValueByte then .error .value
  else .ok h

section

variable {f g : Field} {fs gs : List Field} {h : Header} {hs : List Header}

/-- What a field is kept as says whether it is admitted. -/
theorem Field.ofBytes?_eq (f : Field) : Header.ofBytes? f.1 f.2 = admitted f.header := by
  have hbyte : ∀ b : UInt8, (Char.ofNat b.toNat).toNat = b.toNat := fun b =>
    toNat_char_of_lt (Nat.lt_trans b.toNat_lt (by omega))
  have hempty : f.header.name.toList.isEmpty = f.1.isEmpty := by simp [header, name, lower]
  have hlength : f.header.name.toList.length = f.1.length := by simp [header, name, lower]
  have htokens : f.header.name.toList.all (isTokenChar ·.toNat) =
      f.1.all (isTokenChar ·.toNat) := by
    simp [header, name, lower, List.all_map, Function.comp_def, isTokenChar_lowerChar, hbyte]
  unfold admitted
  rw [hempty, hlength, htokens]
  simp only [Header.ofBytes?, header, name, String.toList_ofList]

theorem Field.eq_header_of_ofBytes? (hok : Header.ofBytes? f.1 f.2 = .ok h) : h = f.header := by
  rw [f.ofBytes?_eq] at hok
  unfold admitted at hok
  split_ifs at hok
  exact (Except.ok.inj hok).symm

/-- Fields are admitted exactly if each is, and each is kept in its place. -/
theorem ofPairs?_eq_ok_iff :
    Header.ofPairs? fs = .ok hs ↔ (∀ f ∈ fs, f.Valid) ∧ hs = fs.map Field.header := by
  induction fs generalizing hs with
  | nil => simp [Header.ofPairs?, eq_comm]
  | cons f fs ih =>
    have hcons : Header.ofPairs? (f :: fs) =
        (Header.ofBytes? f.1 f.2).bind fun h => (Header.ofPairs? fs).bind fun hs => .ok (h :: hs) :=
      rfl
    rw [hcons, List.forall_mem_cons, List.map_cons]
    constructor
    · intro hok
      cases hf : Header.ofBytes? f.1 f.2 with
      | error e => rw [hf] at hok; cases hok
      | ok h =>
        cases hfs : Header.ofPairs? fs with
        | error e => rw [hf, hfs] at hok; cases hok
        | ok hs' =>
          rw [hf, hfs] at hok
          cases hok
          obtain ⟨hvalid, rfl⟩ := ih.1 hfs
          obtain rfl := Field.eq_header_of_ofBytes? hf
          exact ⟨⟨hf, hvalid⟩, rfl⟩
    · rintro ⟨⟨hf, hvalid⟩, rfl⟩
      rw [hf, ih.2 ⟨hvalid, rfl⟩]
      rfl

/-! ### What is listed -/

/-- The name and the value of each header that is no cookie, as text. -/
def listed (hs : List Header) : List (String × String) :=
  (hs.filter (!isCookieHeader ·)).map fun h => (canonicalName h.name, h.lossyText)

theorem sameName_header (f : Field) : SameName f.header.name f.name := by
  unfold SameName Field.header
  rw [String.toList_ofList, lower_lower]

theorem header_name_eq_iff {a b : String} (hlower : lower b.toList = a.toList) :
    f.header.name = a ↔ SameName f.name b := by
  unfold SameName Field.header
  rw [← String.toList_inj, String.toList_ofList, hlower]

/-- A cookie is one in any letter case. -/
theorem isCookieHeader_header (f : Field) : isCookieHeader f.header = !decide f.Listed := by
  have hcookie : f.header.name = "cookie" ↔ SameName f.name "Cookie" :=
    header_name_eq_iff (by decide)
  have hset : f.header.name = "set-cookie" ↔ SameName f.name "Set-Cookie" :=
    header_name_eq_iff (by decide)
  by_cases hlisted : f.Listed
  · simp [isCookieHeader, mt hcookie.1 hlisted.1, mt hset.1 hlisted.2, hlisted]
  · have hname : f.header.name = "cookie" ∨ f.header.name = "set-cookie" := by
      rw [hcookie, hset]
      by_contra hneither
      exact hlisted (not_or.1 hneither)
    rcases hname with hname | hname <;> simp [isCookieHeader, hname, hlisted]

theorem listed_map (fs : List Field) : listed (fs.map Field.header) =
    (fs.filter (·.Listed)).map fun f => (canonicalName f.name, f.text) := by
  have hkept : (fun f : Field => !isCookieHeader f.header) = fun f => decide f.Listed := by
    funext f
    rw [isCookieHeader_header, Bool.not_not]
  have hpair : (fun f : Field => (canonicalName f.header.name, f.header.lossyText)) =
      fun f => (canonicalName f.name, f.text) := by
    funext f
    rw [canonicalName_eq_iff.2 (sameName_header f)]
    rfl
  rw [listed, List.filter_map, List.map_map]
  simp only [Function.comp_def, hkept, hpair]

/-- The values under a key are those of the fields whose canonical name it is. -/
theorem valuesOf_listed (k : String) (fs : List Field) :
    SortedMap.valuesOf k (listed (fs.map Field.header)) =
      (fs.filter fun f => f.Listed ∧ canonicalName f.name = k).map Field.text := by
  rw [SortedMap.valuesOf, listed_map, List.filter_map, List.map_map, List.filter_filter]
  simp only [Function.comp_def, Bool.decide_and, Bool.and_comm]

/-- Which fields belong to the key of a field that is listed. -/
theorem sameName_key_iff (hlisted : f.Listed) : SameName g.name (canonicalName f.name) ↔
    g.Listed ∧ canonicalName g.name = canonicalName f.name := by
  have hsame : SameName g.name (canonicalName f.name) ↔ SameName g.name f.name := by
    unfold SameName
    rw [sameName_canonicalName f.name]
  rw [hsame, canonicalName_eq_iff]
  constructor
  · intro hname
    refine ⟨?_, hname⟩
    unfold Field.Listed SameName at hlisted ⊢
    rwa [hname]
  · rintro ⟨-, hname⟩
    exact hname

theorem groups_eventHeaders (hs : List Header) : Groups (eventHeaders hs) (listed hs) :=
  Values.groups_grouped (listed hs)

/-! ### Fields in another order -/

theorem header_eq (hname : SameName f.name g.name) (hvalue : f.2 = g.2) : f.header = g.header := by
  rw [Field.header, Field.header, hname, hvalue]

/-- Fields that are admitted are admitted in any order. -/
theorem Rearranged.valid (hr : Rearranged fs gs) (hvalid : ∀ f ∈ fs, f.Valid) :
    ∀ g ∈ gs, g.Valid := by
  induction hr with
  | nil => exact hvalid
  | @cons f g fs gs hname hvalue _ ih =>
    rw [List.forall_mem_cons] at hvalid ⊢
    refine ⟨?_, ih hvalid.2⟩
    have hf := hvalid.1
    unfold Field.Valid at hf ⊢
    rwa [Field.ofBytes?_eq, header_eq hname hvalue, ← Field.ofBytes?_eq] at hf
  | swap =>
    rw [List.forall_mem_cons, List.forall_mem_cons] at hvalid ⊢
    exact ⟨hvalid.2.1, hvalid.1, hvalid.2.2⟩
  | trans _ _ ih ih' => exact ih' (ih hvalid)

/-- The values under each key are the same in any order of fields with different names. -/
theorem Rearranged.valuesOf_eq (hr : Rearranged fs gs) (k : String) :
    SortedMap.valuesOf k (listed (fs.map Field.header)) =
      SortedMap.valuesOf k (listed (gs.map Field.header)) := by
  induction hr with
  | nil => rfl
  | @cons f g fs gs hname hvalue _ ih =>
    rw [List.map_cons, List.map_cons, header_eq hname hvalue]
    have hcons : ∀ hs : List Header,
        listed (g.header :: hs) = listed [g.header] ++ listed hs := fun hs => by
      simp [listed, ← List.map_append, ← List.filter_append]
    rw [hcons (fs.map Field.header), hcons (gs.map Field.header), SortedMap.valuesOf_append,
      SortedMap.valuesOf_append, ih]
  | @swap f g fs hname =>
    -- one key belongs to at most one of the two names
    have hone : canonicalName f.name = k → canonicalName g.name ≠ k := fun hf hg =>
      hname (canonicalName_eq_iff.1 (hf.trans hg.symm))
    rw [valuesOf_listed, valuesOf_listed]
    by_cases hf : canonicalName f.name = k
    · simp [List.filter_cons, hone hf]
    · simp [List.filter_cons, hf]
  | trans _ _ ih ih' => exact ih.trans ih'

end

/-- The headers of an event have one key for each name, in any letter case, of a field that is no
cookie, in ascending order. Under the key is the value, or the list of the values in the order in
which they were sent, of all fields with the name, and there are as many values as such fields.
Neither the letter case of the names nor the order of fields with different names matters. -/
theorem groups_by_name {fs : List Field} {hs : List Header} (h : Header.ofPairs? fs = .ok hs) :
    (eventHeaders hs).Ascending ∧
    (∀ k, k ∈ (eventHeaders hs).map Prod.fst ↔ ∃ f ∈ fs, f.Listed ∧ k = canonicalName f.name) ∧
    (∀ k x, (k, x) ∈ eventHeaders hs →
      x.Tight ∧ x.list = (fs.filter (SameName ·.name k)).map Field.text) ∧
    ((eventHeaders hs).flatMap (·.2.list)).length = (fs.filter (·.Listed)).length ∧
    ∀ gs, Rearranged fs gs →
      ∃ hs', Header.ofPairs? gs = .ok hs' ∧ eventHeaders hs' = eventHeaders hs := by
  obtain ⟨hvalid, rfl⟩ := ofPairs?_eq_ok_iff.1 h
  have hgroups := groups_eventHeaders (fs.map Field.header)
  have hkeys : ∀ k, k ∈ (eventHeaders (fs.map Field.header)).map Prod.fst ↔
      ∃ f ∈ fs, f.Listed ∧ k = canonicalName f.name := by
    intro k
    rw [hgroups.mem_keys_iff, listed_map]
    simp only [List.map_map, List.mem_map, List.mem_filter, decide_eq_true_eq, Function.comp_def]
    constructor
    · rintro ⟨f, ⟨hf, hlisted⟩, rfl⟩
      exact ⟨f, hf, hlisted, rfl⟩
    · rintro ⟨f, hf, hlisted, rfl⟩
      exact ⟨f, ⟨hf, hlisted⟩, rfl⟩
  refine ⟨hgroups.ascending, hkeys, ?_, ?_, ?_⟩
  · intro k x hx
    obtain ⟨htight, hlist⟩ := (hgroups.mem_iff k x).1 hx
    obtain ⟨f, -, hlisted, rfl⟩ := (hkeys k).1 (List.mem_map_of_mem hx)
    refine ⟨htight, ?_⟩
    rw [hlist, valuesOf_listed]
    simp only [sameName_key_iff hlisted]
  · rw [hgroups.length, listed_map, List.length_map]
  · intro gs hr
    refine ⟨gs.map Field.header, ofPairs?_eq_ok_iff.2 ⟨hr.valid hvalid, rfl⟩, ?_⟩
    exact (groups_eventHeaders _).unique hgroups fun k => (hr.valuesOf_eq k).symm

/-- A field that is written in ASCII. -/
def Field.ofText (name value : String) : Field :=
  (Utf8.encode name.toList, Utf8.encode value.toList)

/-- Two fields of one name with a cookie and another field between them. -/
theorem groups_by_name_of_four :
    let fs := [Field.ofText "X-a" "1", Field.ofText "COOKIE" "c=d", Field.ofText "Accept" "*/*",
      Field.ofText "x-A" "2"]
    let gs := [Field.ofText "accept" "*/*", Field.ofText "x-a" "1", Field.ofText "cookie" "c=d",
      Field.ofText "X-A" "2"]
    Header.ofPairs? fs = .ok (fs.map Field.header) ∧ Rearranged fs gs ∧
      (∃ x, ("X-A", x) ∈ eventHeaders (fs.map Field.header) ∧ x.list = ["1", "2"]) ∧
      ∃ hs', Header.ofPairs? gs = .ok hs' ∧
        eventHeaders hs' = eventHeaders (fs.map Field.header) := by
  intro fs gs
  have hfs : Header.ofPairs? fs = .ok (fs.map Field.header) := rfl
  have hr : Rearranged fs gs := by
    refine .trans (.cons rfl rfl (.swap ?_)) (.trans (.swap ?_) ?_)
    · decide +kernel
    · decide +kernel
    · exact .cons (by decide) rfl (.cons (by decide) rfl (.cons (by decide) rfl
        (.cons (by decide) rfl .nil)))
  obtain ⟨-, hkeys, hvalues, -, horder⟩ := groups_by_name hfs
  have hkey := (hkeys "X-A").2 ⟨fs[0], by decide, by decide, by decide⟩
  obtain ⟨⟨k, x⟩, hx, hk⟩ := List.mem_map.1 hkey
  cases hk
  have hlist := (hvalues "X-A" x hx).2
  exact ⟨hfs, hr, ⟨x, hx, hlist.trans (by decide +kernel)⟩, horder gs hr⟩

end FunctionHost
