import Mathlib.Data.List.Count
import Mathlib.Data.String.Basic
import Shopfloor.Proofs.Text.Percent
import Shopfloor.Rest.Framework
/-!
# Paths of Entries

Which paths name a store or an account, and which stores and accounts have one.

A `Catalogue` is one of the two lists whose entries have paths of their own: the
place of the list, and behind it the id. Of a framework two things are assumed.
A path is decoded before it is looked up, and an id in a path is one or more
characters other than slashes. Fixed paths are found where they are, give or
take a line break. A framework like that is `Lawful`, and a server is one.

An id that is not empty and has no slashes can then be written into a path, in
whatever way its bytes are encoded, so that the path names the entry
(`resource?_place`). Any other id is cut to pieces or lost, so there is no path
for it at all (`of_resource?_entry`).

## Main definitions

* `Rest.Catalogue`, `Rest.Catalogue.place`, `Rest.Catalogue.entry`: Where entries are.
* `Rest.Encodes`: A text writes an id into a path.
* `Rest.Framework.Lawful`: What is assumed of a framework.

## Theorems

* `encodes_encode`: The usual way to write an id.
* `Lawful.arrived_place`: A path with an id in it arrives.
* `Lawful.resource?_place`, `Lawful.of_resource?_entry`: What the path of an entry names, and which
  entries are named.
* `Lawful.route_place`, `Framework.resource?_of_route`: Where a request for an entry goes, and what
  was asked for.
* `server_lawful`: A server does what is assumed.
-/

namespace Shopfloor

namespace Rest

/-- The lists whose entries have paths of their own. -/
inductive Catalogue
  | stores
  | accounts
deriving DecidableEq, Repr

namespace Catalogue

/-- What stands in front of the id in the path of an entry. -/
def place : Catalogue → String
  | .stores => "/api/v1/stores/"
  | .accounts => "/api/v1/users/"

/-- The entry under an id. -/
def entry : Catalogue → String → Resource
  | .stores => .store
  | .accounts => .account

theorem notMem_place {ch : Char} (h : ch = '%' ∨ ch = '?' ∨ ch = '#') (c : Catalogue) :
    ch ∉ c.place.toList := by
  rcases h with rfl | rfl | rfl <;> cases c <;> decide

/-- No path lies behind both places. -/
theorem place_append_ne (s t : String) : stores.place ++ s ≠ accounts.place ++ t := by
  intro h
  have hchars := congrArg String.toList h
  rw [String.toList_append, String.toList_append] at hchars
  -- The names of the lists begin with different letters.
  have hletter := congrArg (·[8]?) hchars
  cases hletter

/-- A path behind a place has four slashes. -/
theorem four_slashes (c : Catalogue) (id : String) : 4 ≤ (c.place ++ id).toList.count '/' := by
  have hplace : c.place.toList.count '/' = 4 := by
    cases c <;> decide
  rw [String.toList_append, List.count_append]
  omega

end Catalogue

/-- A text writes an id into a path: it writes the bytes of the id, and it does not end the path. -/
structure Encodes (w id : String) : Prop where
  writes : Percent.Writes w.toList (Utf8.encode id.toList)
  query : '?' ∉ w.toList
  fragment : '#' ∉ w.toList

/-- The usual encoding writes any id into a path. -/
theorem encodes_encode (id : String) : Encodes (Percent.encode id) id where
  writes := Percent.writes_encode id
  query h := (Percent.mem_encode h).2.1 rfl
  fragment h := (Percent.mem_encode h).2.2 rfl

/-- The path of an entry encodes the place as it is and the id behind it. -/
theorem Encodes.place {w id : String} (h : Encodes w id) (c : Catalogue) :
    Encodes (c.place ++ w) (c.place ++ id) where
  writes := by
    rw [String.toList_append, String.toList_append, Utf8.encode_append]
    exact (Percent.writes_self (c.notMem_place (.inl rfl))).append h.writes
  query := by
    rw [String.toList_append, List.mem_append, not_or]
    exact ⟨c.notMem_place (.inr (.inl rfl)), h.query⟩
  fragment := by
    rw [String.toList_append, List.mem_append, not_or]
    exact ⟨c.notMem_place (.inr (.inr rfl)), h.fragment⟩

/-- What is assumed of a framework. -/
structure Framework.Lawful (f : Framework) : Prop where
  /-- A path is decoded before it is looked up. -/
  decoded : ∀ {path text}, Encodes path text → f.arrived path = text
  /-- An id in a path is one or more characters other than slashes. -/
  idBehind?_iff : ∀ {place path id},
    f.idBehind? place path = some id ↔ path = place ++ id ∧ id ≠ "" ∧ '/' ∉ id.toList
  /-- A fixed path is where it is, give or take a line break. -/
  eq_of_isAt : ∀ {fixed path}, f.isAt fixed path = true → path = fixed ∨ path = fixed ++ "\n"

namespace Framework.Lawful

variable {f : Framework} (hf : f.Lawful)
include hf

/-- A path with an id in it arrives. -/
theorem arrived_place (c : Catalogue) {w id : String} (h : Encodes w id) :
    f.arrived (c.place ++ w) = c.place ++ id := hf.decoded (h.place c)

/-- No path with fewer than four slashes lies behind a place. -/
theorem not_isAt_place (c : Catalogue) (id : String) {fixed : String}
    (hfew : fixed.toList.count '/' < 4) : ¬ f.isAt fixed (c.place ++ id) = true := by
  intro h
  have hfour := c.four_slashes id
  rcases hf.eq_of_isAt h with heq | heq
  · rw [heq] at hfour
    omega
  · have hbreak : "\n".toList.count '/' = 0 := by decide
    rw [heq, String.toList_append, List.count_append] at hfour
    omega

/-- The path of an entry names it, if its id is not empty and has no slashes. -/
theorem resource?_place (c : Catalogue) {id : String} (hid : id ≠ "") (hslash : '/' ∉ id.toList) :
    f.resource? (c.place ++ id) = some (c.entry id) := by
  have hfixed : ∀ {fixed}, fixed.toList.count '/' < 4 → ∀ resource,
      f.match? (c.place ++ id) (.fixed fixed resource) = none :=
    fun hfew _ => if_neg (hf.not_isAt_place c id hfew)
  have hthere : f.match? (c.place ++ id) (.entry c.place c.entry) = some (c.entry id) := by
    unfold Framework.match?
    dsimp only
    rw [hf.idBehind?_iff.2 ⟨rfl, hid, hslash⟩, Option.map_some]
  unfold Framework.resource? templates
  rw [List.findSome?_cons, hfixed (by decide), List.findSome?_cons, hfixed (by decide),
    List.findSome?_cons]
  dsimp only
  cases c with
  | stores =>
      change f.match? _ (.entry "/api/v1/stores/" .store) = _ at hthere
      rw [hthere]
  | accounts =>
      have hother : f.match? (Catalogue.accounts.place ++ id) (.entry "/api/v1/stores/" .store) =
          none := by
        refine Option.map_eq_none_iff.2 (Option.eq_none_iff_forall_ne_some.2 fun other hother => ?_)
        exact Catalogue.place_append_ne other id (hf.idBehind?_iff.1 hother).1.symm
      change f.match? _ (.entry "/api/v1/users/" .account) = _ at hthere
      rw [hother, List.findSome?_cons, hfixed (by decide), List.findSome?_cons, hthere]

/-- No path names any other entry. -/
theorem of_resource?_entry {c : Catalogue} {path id : String}
    (h : f.resource? path = some (c.entry id)) : id ≠ "" ∧ '/' ∉ id.toList := by
  have hbehind : ∀ {place} {resource : String → Resource},
      (∀ found, resource found = c.entry id → found = id) →
      f.match? path (.entry place resource) = some (c.entry id) → id ≠ "" ∧ '/' ∉ id.toList := by
    intro place resource hentry hmatch
    rcases Option.map_eq_some_iff.1 hmatch with ⟨found, hfound, hfoundEntry⟩
    rw [hentry found hfoundEntry] at hfound
    exact (hf.idBehind?_iff.1 hfound).2
  have hfixed : ∀ {fixed resource}, resource ≠ c.entry id →
      ¬ f.match? path (.fixed fixed resource) = some (c.entry id) := by
    intro fixed resource hne hmatch
    change (if f.isAt fixed path = true then some resource else none) = _ at hmatch
    split at hmatch
    · exact hne (Option.some.inj hmatch)
    · cases hmatch
  rcases List.exists_of_findSome?_eq_some h with ⟨t, ht, hmatch⟩
  unfold templates at ht
  simp only [List.mem_cons, List.not_mem_nil, or_false] at ht
  -- A fixed path names no entry, and behind a place there is an id that names one.
  rcases ht with rfl | rfl | rfl | rfl | rfl
  · exact absurd hmatch (hfixed (by cases c <;> exact nofun))
  · exact absurd hmatch (hfixed (by cases c <;> exact nofun))
  · exact hbehind (by cases c <;> rintro _ ⟨⟩; rfl) hmatch
  · exact absurd hmatch (hfixed (by cases c <;> exact nofun))
  · exact hbehind (by cases c <;> rintro _ ⟨⟩; rfl) hmatch

/-- A request that comes in at the path of an entry goes there, if entries allow its method. -/
theorem route_place (c : Catalogue) {r : Request} {w id : String} (hpath : r.path = c.place ++ w)
    (hw : Encodes w id) (hid : id ≠ "") (hslash : '/' ∉ id.toList) {m : Method}
    (hm : Method.ofName? r.method = some m) (hallows : m ≠ .post) :
    f.route r = .ok ⟨c.entry id, m⟩ := by
  have hallowed : (c.entry id).allows m = true := by
    cases c <;> exact bne_iff_ne.2 hallows
  unfold Framework.route
  dsimp only
  rw [hpath, hf.arrived_place c hw, hf.resource?_place c hid hslash]
  dsimp only
  rw [hm, Option.filter_some, if_pos hallowed]

end Framework.Lawful

/-- A request goes where its path says. -/
theorem Framework.resource?_of_route {f : Framework} {r : Request} {e : Endpoint}
    (h : f.route r = .ok e) : f.resource? (f.arrived r.path) = some e.resource := by
  unfold Framework.route at h
  dsimp only at h
  split at h
  next resource hpath =>
    split at h
    · cases h
      exact hpath
    · cases h
  next => split at h <;> cases h

/-- What a server finds behind a place. -/
theorem behind?_eq_some_iff {place path id : String} :
    behind? place path = some id ↔ path = place ++ id ∧ id ≠ "" ∧ '/' ∉ id.toList := by
  have hpath : ∀ cs, place.toList.isPrefixOf? path.toList = some cs ↔
      path = place ++ String.ofList cs := by
    intro cs
    rw [List.isPrefixOf?_eq_some_iff_append_eq, ← String.toList_inj, String.toList_append,
      String.toList_ofList, eq_comm]
  unfold behind?
  constructor
  · intro h
    split at h
    next cs hcs =>
      split at h
      next hid =>
        cases h
        rw [String.toList_ofList, Ne, String.ofList_eq_empty_iff]
        exact ⟨(hpath cs).1 hcs, hid⟩
      next => cases h
    next => cases h
  · rintro ⟨rfl, hid, hslash⟩
    have hcs : place.toList.isPrefixOf? (place ++ id).toList = some id.toList := by
      rw [hpath, String.ofList_toList]
    rw [hcs]
    dsimp only
    rw [if_pos ⟨fun h => hid (String.toList_eq_nil_iff.1 h), hslash⟩, String.ofList_toList]

/-- A text is itself without its line break, or has one. -/
theorem eq_of_withoutLineBreak {fixed path : String} (h : withoutLineBreak path = fixed) :
    path = fixed ∨ path = fixed ++ "\n" := by
  unfold withoutLineBreak at h
  split at h
  next cs hcs =>
    right
    rw [← h, ← String.toList_inj, String.toList_append, String.toList_ofList]
    exact List.reverse_eq_cons_iff.1 hcs
  next => exact .inl h

/-- A server does what is assumed. -/
theorem server_lawful : Framework.server.Lawful where
  decoded h := h.writes.decode_eq
  idBehind?_iff := behind?_eq_some_iff
  eq_of_isAt h := eq_of_withoutLineBreak (beq_iff_eq.1 h)

end Rest

end Shopfloor
