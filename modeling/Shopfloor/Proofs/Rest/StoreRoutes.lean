import Shopfloor.Proofs.Rest.Directory
/-!
# The Routes to the Stores

Whoever asks about stores is answered by a directory.

The desk answers requests about stores and about accounts, and it opens the shop
and the accounts together with the first request that needs one of them, which
may be a request about accounts. `Keeps` is what is true of the desk between
requests: nothing has been opened yet and the directory is empty, or both are
open and the shop is mirrored by the directory. In either case the shop that a
request finds is mirrored, which is all that an answer needs.

`Refines` says of a step that it answers as the directory does and that the desk
keeps to the directory afterwards. It passes through the steps of an answer one
by one: looking for the shop, looking for a store, and asking the shop for an
operation. A request about accounts keeps the directory that there was. What
requests come to one after the other follows by induction, with two cases, one
for requests about stores and one for all others. Where a request goes is up to
the framework, of which nothing is assumed.

## Main definitions

* `Rest.Inquiry.of`, `Rest.Inquiry.ofRequest?`: What a request asks about the stores.
* `Rest.storeAnswers`: The answers to what is asked about the stores.
* `Rest.Keeps`: The desk keeps a directory.
* `Rest.Refines`: A step answers as a directory does.

## Theorems

* `run_provisionStore`, `run_updateStore`, `run_deleteStore`: Operations on stores that go through.
* `refines_theShop`, `refines_withStore`, `refines_ask`: The steps of an answer.
* `serve_refines`, `serve_keeps`: What is asked about the stores, and what is not.
* `run_answer`, `run_answer_error`: Requests that go somewhere, and those that do not.
* `answer_refines`, `answer_keeps`: The same of requests as they come.
* `stores_as_directory`: Requests one after the other.
-/

namespace Shopfloor

namespace Shop

open Act

variable {shop : Shop} {token : Option String} (htoken : isToken token = true)
include htoken

/-- A store under a new id is opened. -/
theorem run_provisionStore {id : String} (hid : shop.stores.get? id = none)
    (name address : String) :
    run token (.provisionStore (some id) (some name) (some address)) shop =
      (.ok (.store (.bare id address name)), shop.putStore (.bare id address name)) := by
  have hopen : (openStore "Provision Store" (some id) (some name) (some address)).runIn shop =
      (.ok (.bare id address name), shop.putStore (.bare id address name)) := by
    unfold openStore
    rw [runIn_bind]
    change (if (shop.stores.get? id).isSome then _ else _ : Act Store).runIn shop = _
    rw [hid]
    rfl
  rw [run_of_not_countsUnits htoken rfl]
  change (Reply.store <$> openStore "Provision Store" _ _ _).runIn shop = _
  rw [runIn_map, hopen]

/-- A store under an id that is taken is refused. -/
theorem run_provisionStore_taken {id : String} {s : Store} (hs : shop.stores.get? id = some s)
    (name address : Option String) :
    run token (.provisionStore (some id) name address) shop =
      (.error (.failure "Provision Store" (.present .store id)), shop) := by
  have hopen : (openStore "Provision Store" (some id) name address).runIn shop =
      (.error (.failure "Provision Store" (.present .store id)), shop) := by
    unfold openStore
    rw [runIn_bind]
    change (if (shop.stores.get? id).isSome then _ else _ : Act Store).runIn shop = _
    rw [hs]
    rfl
  rw [run_of_not_countsUnits htoken rfl]
  change (Reply.store <$> openStore "Provision Store" _ _ _).runIn shop = _
  rw [runIn_map, hopen]

/-- A store that is there gets other details. -/
theorem run_updateStore {id : String} {s : Store} (hs : shop.stores.get? id = some s)
    (description address : Option String) :
    run token (.updateStore (some id) description address) shop =
      (.ok (.store { s with
          description := description.getD s.description
          address := address.getD s.address }),
        shop.putStore { s with
          description := description.getD s.description
          address := address.getD s.address }) := by
  have hstore : (theStore "Update Store" (some id)).runIn shop = (.ok s, shop) :=
    runIn_found _ _ (some id) hs
  rw [run_of_not_countsUnits htoken rfl]
  change (Reply.store <$> updateStore "Update Store" _ _ _).runIn shop = _
  unfold updateStore
  rw [runIn_map, runIn_bind, hstore]
  rfl

/-- A store that is there is closed. -/
theorem run_deleteStore {id : String} {s : Store} (hs : shop.stores.get? id = some s) :
    run token (.deleteStore (some id)) shop = (.ok .nothing, shop.without s) := by
  have hstore : (theStore "Delete Store" (some id)).runIn shop = (.ok s, shop) :=
    runIn_found _ _ (some id) hs
  rw [run_of_not_countsUnits htoken rfl]
  change ((fun _ => Reply.nothing) <$> closeStore "Delete Store" _).runIn shop = _
  unfold closeStore
  rw [runIn_map, runIn_bind, hstore]
  rfl

end Shop

namespace Rest

/-- What a request asks about the stores, by where it goes. -/
def Inquiry.of (r : Request) (e : Endpoint) : Option Inquiry :=
  match e.resource, e.method with
  | .stores, .get => some .list
  | .stores, .post => some (.post (r.param "storeId") (r.param "name") (r.param "address"))
  | .stores, .put | .stores, .delete => some .unnamed
  | .store id, .get => some (.get id)
  | .store id, .put => some (.put id (r.param "description") (r.param "address"))
  | .store id, .delete => some (.delete id)
  | _, _ => none

/-- What a request asks about the stores, if it is one about stores. -/
def Inquiry.ofRequest? (f : Framework) (r : Request) : Option Inquiry :=
  let r := { r with method := Text.upper r.method }
  match f.route r with
  | .ok e => Inquiry.of r e
  | .error _ => none

/-- The answers to what is asked about the stores, among requests of any kind that are sent one
    after the other. -/
def storeAnswers (f : Framework) : Desk → List Request → List Answer
  | _, [] => []
  | d, r :: rs =>
    let later := storeAnswers f ((f.answer r).run d).2 rs
    if (Inquiry.ofRequest? f r).isSome then ((f.answer r).run d).1 :: later else later

/-- The desk keeps a directory: nothing has been opened and the directory is empty, or everything
    has been and the shop is mirrored. -/
inductive Keeps (token : Option String) : Desk → Directory → Prop
  | unopened : Keeps token ⟨token, none, none⟩ .empty
  | opened {shop : Shop} {accounts : Accounts} {m : Directory} (h : shop.Mirrored m) :
    Keeps token ⟨token, some shop, some accounts⟩ m

/-- A step gives the answer of a directory, and the desk keeps the directory that is left. -/
def Refines (token : Option String) (x : Step Answer) (d : Desk) (e : Answer × Directory) : Prop :=
  (x.run d).1 = e.1 ∧ Keeps token (x.run d).2 e.2

variable {token : Option String} {d : Desk} {m : Directory} {e : Answer × Directory}

theorem refines_pure (h : Keeps token d m) (a : Answer) :
    Refines token (pure a) d (a, m) := ⟨rfl, h⟩

/-- The shop is found, or opened with nothing in it; either way it is mirrored. -/
theorem refines_theShop {f : Shop → Step Answer} (h : Keeps token d m)
    (hf : ∀ shop accounts, shop.Mirrored m →
      Refines token (f shop) ⟨token, some shop, some accounts⟩ e) :
    Refines token (theShop >>= f) d e := by
  cases h with
  | unopened => exact hf .empty .standard Shop.mirrored_empty
  | opened hm => exact hf _ _ hm

/-- A store of the directory is there. -/
theorem refines_withStore {next : Step Answer} (h : Keeps token d m) {id : String} {w : Details}
    (hid : m.get? id = some w)
    (hnext : ∀ shop accounts, shop.Mirrored m →
      Refines token next ⟨token, some shop, some accounts⟩ e) :
    Refines token (withStore id next) d e := by
  refine refines_theShop h fun shop accounts hm => ?_
  have hthere : shop.stores.contains id = true :=
    (Keyed.contains_iff _ _).2 ⟨w.bare id, hm.get?_some hid⟩
  rw [if_pos hthere]
  exact hnext shop accounts hm

/-- A store that is not in the directory is not there. -/
theorem refines_withStore_absent {next : Step Answer} (h : Keeps token d m) {id : String}
    (hid : m.get? id = none) :
    Refines token (withStore id next) d (refuse 404 .notFound "Store Does Not Exist", m) := by
  refine refines_theShop h fun shop accounts hm => ?_
  have hgone : ¬ shop.stores.contains id = true := by
    rw [Bool.not_eq_true, Keyed.contains_eq_false_iff]
    exact hm.get?_none hid
  rw [if_neg hgone]
  exact refines_pure (.opened hm) noStore

/-- The shop is asked for an operation. -/
theorem refines_ask {op : Operation} {reply : Except Fault Reply} {shop shop' : Shop}
    {accounts : Accounts} {f : Except Fault Reply → Step Answer}
    (hrun : Shop.run token op shop = (reply, shop'))
    (hf : Refines token (f reply) ⟨token, some shop', some accounts⟩ e) :
    Refines token (ask op >>= f) ⟨token, some shop, some accounts⟩ e := by
  have hask : (ask op).run ⟨token, some shop, some accounts⟩ =
      ((Shop.run token op shop).1, ⟨token, some (Shop.run token op shop).2, some accounts⟩) := rfl
  unfold Refines at hf ⊢
  rw [StateT.run_bind, hask, hrun]
  exact hf

section Stores

variable (htoken : Shop.isToken token = true) (h : Keeps token d m)
include htoken h

theorem getStore_refines (r : Request) (id : String) :
    Refines token (storeEndpoint r id .get) d (m.answer (.get id)) := by
  dsimp only [Directory.answer]
  cases hid : m.get? id with
  | none => exact refines_withStore_absent h hid
  | some w =>
      refine refines_withStore h hid fun shop accounts hm => ?_
      have hquery : shop.query (.showStore (some id)) = some (.store (w.bare id)) := by
        dsimp only [Shop.query]
        rw [Keyed.find?_some, hm.get?_some hid, Option.map_some]
      refine refines_ask (Shop.run_of_query htoken hquery) ?_
      dsimp only [tellStore]
      rw [summary_bare]
      exact refines_pure (.opened hm) _

theorem putStore_refines (r : Request) (id : String) :
    Refines token (putStore r id) d
      (m.answer (.put id (r.param "description") (r.param "address"))) := by
  refine refines_theShop h fun shop accounts hm => ?_
  dsimp only [Directory.answer]
  by_cases hnone : r.param "description" = none ∧ r.param "address" = none
  · -- Nothing is given, so the store is not even looked for.
    rw [if_pos hnone, hnone.1, hnone.2]
    exact refines_pure (.opened hm) _
  · have hgiven : ¬ ((r.param "description").isNone && (r.param "address").isNone) = true := by
      rw [Bool.and_eq_true, Option.isNone_iff_eq_none, Option.isNone_iff_eq_none]
      exact hnone
    rw [if_neg hnone, if_neg hgiven]
    cases hid : m.get? id with
    | none => exact refines_withStore_absent (.opened hm) hid
    | some w =>
        refine refines_withStore (.opened hm) hid fun shop accounts hm => ?_
        refine refines_ask (Shop.run_updateStore htoken (hm.get?_some hid) _ _) ?_
        dsimp only
        rw [← summary_bare]
        exact refines_pure (.opened (hm.updated hid _)) _

theorem deleteStore_refines (r : Request) (id : String) :
    Refines token (storeEndpoint r id .delete) d (m.answer (.delete id)) := by
  dsimp only [Directory.answer]
  cases hid : m.get? id with
  | none => exact refines_withStore_absent h hid
  | some w =>
      refine refines_withStore h hid fun shop accounts hm => ?_
      refine refines_ask (Shop.run_deleteStore htoken (hm.get?_some hid)) ?_
      exact refines_pure (.opened (hm.closed id rfl)) _

theorem postStore_refines (r : Request) :
    Refines token (postStore r) d
      (m.answer (.post (r.param "storeId") (r.param "name") (r.param "address"))) := by
  refine refines_theShop h fun shop accounts hm => ?_
  generalize r.param "storeId" = given
  generalize r.param "name" = name
  generalize r.param "address" = address
  -- With a parameter missing, the shop is not asked.
  cases given with
  | none => exact refines_pure (.opened hm) _
  | some id =>
      cases name with
      | none => exact refines_pure (.opened hm) _
      | some name =>
          cases address with
          | none => exact refines_pure (.opened hm) _
          | some address =>
              dsimp only [Directory.answer]
              by_cases hid : m.get? id = none
              · have hs := hm.get?_none hid
                rw [dif_pos hid]
                refine refines_ask (Shop.run_provisionStore htoken hs name address) ?_
                rw [← summary_bare]
                exact refines_pure (.opened (hm.opened hid)) _
              · -- The shop refuses, and what was opened before stays as it is.
                rcases Option.ne_none_iff_exists'.1 hid with ⟨w, hw⟩
                rw [dif_neg hid]
                refine refines_ask (Shop.run_provisionStore_taken htoken (hm.get?_some hw) _ _) ?_
                exact refines_pure (.opened hm) _

end Stores

/-- All stores are listed, in the order of the directory. -/
theorem listStores_refines (h : Keeps token d m) (r : Request) :
    Refines token (storesEndpoint r .get) d (m.answer .list) := by
  refine refines_theShop h fun shop accounts hm => ?_
  have hall : shop.stores.values.map StoreSummary.ofStore =
      m.entries.map fun e => summary e.1 e.2 := by
    unfold Shop.Mirrored at hm
    rw [hm]
    unfold Keyed.values Keyed.mapValues
    rw [List.map_map, List.map_map]
    exact List.map_congr_left fun e _ => summary_bare e.1 e.2
  rw [hall]
  exact refines_pure (.opened hm) _

/-- What is asked about the stores is answered by the directory. -/
theorem serve_refines (htoken : Shop.isToken token = true) (h : Keeps token d m) {r : Request}
    {e : Endpoint} {q : Inquiry} (hq : Inquiry.of r e = some q) :
    Refines token (serve r e) d (m.answer q) := by
  rcases e with ⟨resource, method⟩
  cases resource with
  | stores =>
      cases method <;> cases hq
      · exact listStores_refines h r
      · exact postStore_refines htoken h r
      -- What names no store is refused before anything is opened.
      · exact refines_pure h _
      · exact refines_pure h _
  | store id =>
      cases method <;> cases hq
      · exact getStore_refines htoken h r id
      · exact putStore_refines htoken h r id
      · exact deleteStore_refines htoken h r id
  | _ => cases hq

/-- The accounts are found, or opened; whatever becomes of them, the directory is kept if the shop
    is. -/
theorem keeps_theAccounts {f : Accounts → Step Answer} (h : Keeps token d m)
    (hf : ∀ shop accounts, shop.Mirrored m →
      Keeps token ((f accounts).run ⟨token, some shop, some accounts⟩).2 m) :
    Keeps token ((theAccounts >>= f).run d).2 m := by
  cases h with
  | unopened => exact hf .empty .standard Shop.mirrored_empty
  | opened hm => exact hf _ _ hm

/-- Requests about accounts keep the directory. -/
theorem accounts_keeps (h : Keeps token d m) (r : Request) (method : Method) :
    Keeps token ((accountsEndpoint r method).run d).2 m := by
  cases method with
  | get => exact keeps_theAccounts h fun shop accounts hm => .opened hm
  | post =>
      refine keeps_theAccounts h fun shop accounts hm => ?_
      split
      · split <;> exact .opened hm
      · exact .opened hm
  | put | delete => exact h

theorem account_keeps (h : Keeps token d m) (r : Request) (email : String) (method : Method) :
    Keeps token ((accountEndpoint r email method).run d).2 m := by
  cases method with
  | get =>
      refine keeps_theAccounts h fun shop accounts hm => ?_
      split <;> exact .opened hm
  | put =>
      refine keeps_theAccounts h fun shop accounts hm => ?_
      dsimp only
      split
      · exact .opened hm
      · split <;> exact .opened hm
  | delete =>
      refine keeps_theAccounts h fun shop accounts hm => ?_
      split <;> exact .opened hm
  | post => exact h

/-- What is not asked about the stores keeps the directory. -/
theorem serve_keeps (h : Keeps token d m) {r : Request} {e : Endpoint}
    (hq : Inquiry.of r e = none) : Keeps token ((serve r e).run d).2 m := by
  rcases e with ⟨resource, method⟩
  cases resource with
  | health => exact h
  | accounts => exact accounts_keeps h r method
  | account email => exact account_keeps h r email method
  | stores => cases method <;> cases hq
  | store id =>
      cases method <;> first
        | exact h
        | cases hq

variable {f : Framework}

/-- Only a request with a method that the resource allows goes anywhere, so its answer is sent with
    its body. -/
theorem sent_of_route {r : Request} {e : Endpoint} (h : f.route r = .ok e) (a : Answer) :
    sent r a = a := by
  have hhead : r.method ≠ "HEAD" := by
    intro hhead
    have hnone : Method.ofName? "HEAD" = none := by decide +kernel
    unfold Framework.route at h
    dsimp only at h
    split at h
    · rw [hhead, hnone, Option.filter_none] at h
      cases h
    · split at h <;> cases h
  exact if_neg hhead

/-- What goes to an endpoint is answered there. -/
theorem run_answer {r : Request} {e : Endpoint}
    (h : f.route { r with method := Text.upper r.method } = .ok e) :
    (f.answer r).run d = (serve { r with method := Text.upper r.method } e).run d := by
  unfold Framework.answer
  dsimp only
  rw [h]
  exact Prod.ext (sent_of_route h _) rfl

/-- What goes nowhere is answered without a look at the desk. -/
theorem run_answer_error {r : Request} {a : Answer}
    (h : f.route { r with method := Text.upper r.method } = .error a) :
    (f.answer r).run d = (sent { r with method := Text.upper r.method } a, d) := by
  unfold Framework.answer
  dsimp only
  rw [h]
  rfl

/-- What asks about stores goes to an endpoint. -/
theorem Inquiry.exists_endpoint {r : Request} {q : Inquiry} (hq : Inquiry.ofRequest? f r = some q) :
    ∃ e, f.route { r with method := Text.upper r.method } = .ok e ∧
      Inquiry.of { r with method := Text.upper r.method } e = some q := by
  unfold Inquiry.ofRequest? at hq
  dsimp only at hq
  cases hroute : f.route { r with method := Text.upper r.method } with
  | error a =>
      rw [hroute] at hq
      cases hq
  | ok e =>
      rw [hroute] at hq
      exact ⟨e, rfl, hq⟩

/-- A request about stores is answered by the directory. -/
theorem answer_refines (htoken : Shop.isToken token = true) (h : Keeps token d m) {r : Request}
    {q : Inquiry} (hq : Inquiry.ofRequest? f r = some q) :
    Refines token (f.answer r) d (m.answer q) := by
  rcases Inquiry.exists_endpoint hq with ⟨e, hroute, he⟩
  unfold Refines
  rw [run_answer hroute]
  exact serve_refines htoken h he

/-- Any other request keeps the directory. -/
theorem answer_keeps (h : Keeps token d m) {r : Request} (hq : Inquiry.ofRequest? f r = none) :
    Keeps token ((f.answer r).run d).2 m := by
  unfold Inquiry.ofRequest? at hq
  dsimp only at hq
  cases hroute : f.route { r with method := Text.upper r.method } with
  | error a =>
      rw [run_answer_error hroute]
      exact h
  | ok e =>
      rw [hroute] at hq
      rw [run_answer hroute]
      exact serve_keeps h hq

/-- Requests one after the other: those about stores are answered by the directory. -/
theorem storeAnswers_eq (htoken : Shop.isToken token = true) (h : Keeps token d m)
    (rs : List Request) :
    storeAnswers f d rs = Directory.answers m (rs.filterMap (Inquiry.ofRequest? f)) := by
  induction rs generalizing d m with
  | nil => rfl
  | cons r rs ih =>
      unfold storeAnswers
      dsimp only
      cases hq : Inquiry.ofRequest? f r with
      | none =>
          rw [List.filterMap_cons_none hq, Option.isSome_none, if_neg Bool.false_ne_true]
          exact ih (answer_keeps h hq)
      | some q =>
          rcases answer_refines htoken h hq with ⟨hanswer, hnext⟩
          rw [List.filterMap_cons_some hq, Option.isSome_some, if_pos rfl, hanswer, ih hnext]
          rfl

/-- The stores, seen from outside, are a directory. Whatever the framework makes of paths, of
    requests of any kind that are sent to a desk at which nothing has been opened yet, those about
    stores are answered as an empty directory answers them, as if no others had been sent. In a
    directory, a store that is removed and opened again comes last, and nothing is left of what it
    was. -/
theorem stores_as_directory (htoken : Shop.isToken token = true) :
    (∀ f rs, storeAnswers f ⟨token, none, none⟩ rs =
      Directory.answers .empty (rs.filterMap (Inquiry.ofRequest? f))) ∧
    ∀ (m : Directory) id name address,
      ((m.answer (.delete id)).2.answer (.post (some id) (some name) (some address))).2.entries =
        (m.entries.filter fun e => e.1 != id) ++ [(id, ⟨name, address⟩)] :=
  ⟨fun _ => storeAnswers_eq htoken .unopened, Directory.reopened⟩

/-- A day at the desk: two stores open, the first is closed and opens again, and in between somebody
    asks for accounts. -/
def day : List Request :=
  [⟨"GET", "/api/v1/users", []⟩,
    ⟨"POST", "/api/v1/stores", [("storeId", "n"), ("name", "North"), ("address", "Gate Road")]⟩,
    ⟨"POST", "/api/v1/stores", [("storeId", "s"), ("name", "South"), ("address", "Quay")]⟩,
    ⟨"PUT", "/api/v1/stores/n", [("address", "Mill Road")]⟩,
    ⟨"DELETE", "/api/v1/users/user@store.com", []⟩,
    ⟨"DELETE", "/api/v1/stores/n", []⟩,
    ⟨"POST", "/api/v1/stores", [("storeId", "n"), ("name", "New"), ("address", "Gate Road")]⟩,
    ⟨"GET", "/api/v1/stores", []⟩]

/-- At the end of the day the store that opened again is listed last. -/
theorem listed_after_day :
    (storeAnswers .server ⟨some "key", none, none⟩ day).getLast? =
      some ⟨200, some (.stores [summary "s" ⟨"South", "Quay"⟩,
        summary "n" ⟨"New", "Gate Road"⟩])⟩ := by
  have htoken : Shop.isToken (some "key") = true := by decide +kernel
  rw [(stores_as_directory htoken).1 .server day]
  decide +kernel

end Rest

end Shopfloor
