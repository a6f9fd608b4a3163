import Shopfloor.Proofs.Persistence
import Shopfloor.Rest.Desk
/-!
# The Directory of Stores

What can be told of the stores from outside, as a map.

Whoever sends requests can open stores, change their details and close them, and
can put nothing into them. So all that there is to know is the details under
each id and the order in which the stores were opened: a `Directory`. What is
asked about the stores is an `Inquiry`, and `Directory.answer` says what is
answered and which directory is left. It looks at nothing but the directory.

The shop behind the desk is `Mirrored` by a directory if its stores are the ones
of the directory, in the same order, with nothing in them. Opening, changing and
closing a store are then the three things that can be done to an entry of a map:
it is added at the end, changed in its place, or removed.

## Main definitions

* `Rest.Directory`: Details of stores by ids, in the order in which stores were opened.
* `Rest.Inquiry`: What can be asked about the stores.
* `Rest.Directory.answer`, `Rest.Directory.answers`: What is answered.
* `Shop.Mirrored`: The stores of a shop are those of a directory.

## Theorems

* `Keyed.mapValues_append`, `Keyed.mapValues_put`, `Keyed.mapValues_insert`,
  `Keyed.mapValues_erase`: Maps that are changed alike.
* `Mirrored.opened`, `Mirrored.updated`, `Mirrored.closed`: The shop and the directory after a
  change.
* `Rest.Directory.reopened`: A store that is removed and opened again comes last.
-/

namespace Shopfloor

namespace Keyed

variable {α β : Type}

/-- A new key at the end of a map, and at the end of its image. -/
theorem mapValues_append (m : Keyed α) (f : String → α → β) {k : String} {v : α}
    (h : m.get? k = none) : (m.append k v h).mapValues f = (m.mapValues f).insert k (f k v) := by
  have h' : (m.mapValues f).get? k = none := by
    rw [get?_mapValues, h, Option.map_none]
  unfold insert
  rw [dif_pos h']
  refine ext_entries ?_
  exact List.map_append

/-- A value that is written under a key of a map, and its image under the key of the image. -/
theorem mapValues_put (m : Keyed α) (f : String → α → β) {k : String} {w : α}
    (h : m.get? k = some w) (v : α) :
    (m.adjust k fun _ => v).mapValues f = (m.mapValues f).insert k (f k v) := by
  have h' : ¬ (m.mapValues f).get? k = none := by
    rw [get?_mapValues, h]
    exact nofun
  unfold insert
  rw [dif_neg h']
  unfold adjust
  rw [mapValues_mapValues, mapValues_mapValues]
  refine mapValues_congr _ fun x u _ => ?_
  by_cases hx : x = k
  · rw [if_pos hx, if_pos hx, hx]
  · rw [if_neg hx, if_neg hx]

/-- A value that is written under a key, be it new or not. -/
theorem mapValues_insert (m : Keyed α) (f : String → α → β) (k : String) (v : α) :
    (m.insert k v).mapValues f = (m.mapValues f).insert k (f k v) := by
  by_cases h : m.get? k = none
  · have happend : m.insert k v = m.append k v h := dif_pos h
    rw [happend]
    exact mapValues_append m f h
  · have hput : m.insert k v = m.adjust k fun _ => v := dif_neg h
    rcases Option.ne_none_iff_exists'.1 h with ⟨w, hw⟩
    rw [hput]
    exact mapValues_put m f hw v

/-- A key that is removed from a map, and from its image. -/
theorem mapValues_erase (m : Keyed α) (f : String → α → β) (k : String) :
    (m.erase k).mapValues f = (m.mapValues f).erase k := by
  refine ext_entries ?_
  unfold erase filter mapValues
  dsimp only
  rw [List.filter_map]
  rfl

end Keyed

/-- A store with its details and nothing in it. -/
def Details.bare (id : String) (w : Details) : Store := .bare id w.address w.description

namespace Rest

/-- Details of stores by their ids, in the order in which the stores were opened. -/
abbrev Directory := Keyed Details

/-- What is told of a store with nothing in it. -/
def summary (id : String) (w : Details) : StoreSummary :=
  ⟨id, w.description, w.address, [], [], [], [], []⟩

/-- A store with nothing in it is told by its details. -/
theorem summary_bare (id : String) (w : Details) :
    StoreSummary.ofStore (w.bare id) = summary id w := by
  have hempty : ∀ {α : Type}, (Keyed.empty : Keyed α).sortedKeys = [] := by
    simp [Keyed.sortedKeys, Keyed.sorted, Keyed.empty]
  unfold StoreSummary.ofStore Details.bare Store.bare summary
  simp only [hempty]

/-- What can be asked about the stores. -/
inductive Inquiry
  | list
  | post (id name address : Option String)
  | get (id : String)
  | put (id : String) (description address : Option String)
  | delete (id : String)
  /-- A change or a removal, but it is not said of which store. -/
  | unnamed
deriving DecidableEq, Repr

namespace Directory

/-- The answer to an inquiry, and the directory afterwards. -/
def answer (m : Directory) : Inquiry → Answer × Directory
  | .list => (⟨200, some (.stores (m.entries.map fun e => summary e.1 e.2))⟩, m)
  | .post (some id) (some name) (some address) =>
    if h : m.get? id = none then
      (⟨201, some (.store (summary id ⟨name, address⟩))⟩, m.append id ⟨name, address⟩ h)
    else (refuse 400 .duplicateEntity "Store Already Exists", m)
  | .post .. => (refuse 400 .invalidArgument "storeId, name, and address required", m)
  | .get id =>
    match m.get? id with
    | some w => (⟨200, some (.store (summary id w))⟩, m)
    | none => (refuse 404 .notFound "Store Does Not Exist", m)
  | .put id description address =>
    if description = none ∧ address = none then
      (refuse 400 .invalidArgument "Need description or address", m)
    else
      match m.get? id with
      | some w =>
        let w := w.updated description address
        (⟨200, some (.store (summary id w))⟩, m.adjust id fun _ => w)
      | none => (refuse 404 .notFound "Store Does Not Exist", m)
  | .delete id =>
    match m.get? id with
    | some _ => (⟨204, none⟩, m.erase id)
    | none => (refuse 404 .notFound "Store Does Not Exist", m)
  | .unnamed => (refuse 400 .invalidArgument "storeId path parameter required", m)

/-- The answers to inquiries, one after the other. -/
def answers : Directory → List Inquiry → List Answer
  | _, [] => []
  | m, q :: qs => (m.answer q).1 :: answers (m.answer q).2 qs

/-- A store that is removed, if it is there, and opened again comes last, and what it was before
    cannot be seen. -/
theorem reopened (m : Directory) (id name address : String) :
    ((m.answer (.delete id)).2.answer (.post (some id) (some name) (some address))).2.entries =
      (m.entries.filter fun e => e.1 != id) ++ [(id, ⟨name, address⟩)] := by
  have hgone : (m.answer (.delete id)).2 = m.erase id := by
    dsimp only [answer]
    cases hid : m.get? id with
    | some w => rfl
    | none =>
        -- There is nothing to remove.
        refine Keyed.ext_entries ((List.filter_eq_self.2 fun e he => ?_).symm)
        refine bne_iff_ne.2 fun hkey => ?_
        have hthere := (Keyed.mem_entries_iff m e.1 e.2).1 he
        rw [hkey, hid] at hthere
        cases hthere
  have hnone : (m.erase id).get? id = none := Keyed.get?_erase_self m id
  rw [hgone]
  dsimp only [answer]
  rw [dif_pos hnone]
  rfl

end Directory

end Rest

namespace Shop

variable {shop : Shop} {m : Rest.Directory}

/-- The stores of a shop are those of a directory, and there is nothing in them. -/
def Mirrored (shop : Shop) (m : Rest.Directory) : Prop := shop.stores = m.mapValues Details.bare

theorem mirrored_empty : empty.Mirrored .empty := rfl

theorem Mirrored.get? (h : shop.Mirrored m) (id : String) :
    shop.stores.get? id = (m.get? id).map (Details.bare id) := by
  rw [h, Keyed.get?_mapValues]

theorem Mirrored.get?_some (h : shop.Mirrored m) {id : String} {w : Details}
    (hid : m.get? id = some w) : shop.stores.get? id = some (w.bare id) := by
  rw [h.get?, hid, Option.map_some]

theorem Mirrored.get?_none (h : shop.Mirrored m) {id : String} (hid : m.get? id = none) :
    shop.stores.get? id = none := by
  rw [h.get?, hid, Option.map_none]

theorem Mirrored.opened (h : shop.Mirrored m) {id name address : String} (hid : m.get? id = none) :
    (shop.putStore (.bare id address name)).Mirrored (m.append id ⟨name, address⟩ hid) := by
  unfold Mirrored putStore
  rw [Keyed.mapValues_append, ← h]
  rfl

theorem Mirrored.updated (h : shop.Mirrored m) {id : String} {w : Details}
    (hid : m.get? id = some w) (v : Details) :
    (shop.putStore (v.bare id)).Mirrored (m.adjust id fun _ => v) := by
  unfold Mirrored putStore
  rw [Keyed.mapValues_put m _ hid, ← h]
  rfl

theorem Mirrored.closed (h : shop.Mirrored m) (id : String) {s : Store} (hs : s.id = id) :
    (shop.without s).Mirrored (m.erase id) := by
  unfold Mirrored without
  rw [Keyed.mapValues_erase, ← h, hs]

end Shop

end Shopfloor
