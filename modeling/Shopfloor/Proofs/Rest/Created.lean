import Shopfloor.Proofs.Rest.AccountRoutes
import Shopfloor.Proofs.Rest.Paths
/-!
# What Was Created Can Be Addressed

What an answer says was created can be asked for and removed, if its id has a
path.

An id comes in as a parameter when something is created and in a path ever
after. A parameter may be any text. Of the framework that takes paths apart it
is assumed that it decodes them and that an id in a path is one or more
characters other than slashes (`Framework.Lawful`). So a path names an entry only
if its id is not empty and has no slashes, and nothing looks at that when the
entry is created. An entry with such an id is `Addressed` right after it was
created, and one with any other id is listed and cannot be reached
(`addressed_of_created`).

This holds at any desk, whatever is behind it: that something was created says
that the token is one and that the id was free, and what was written under it is
all that a later request looks at.

## Main definitions

* `Rest.Addressed`: An entry can be asked for and removed at its paths.

## Theorems

* `created_store`, `created_account`: The desk after something was created.
* `addressed_store`, `addressed_account`: What is behind a desk can be addressed.
* `addressed_of_created`: What was created and has a path can be addressed, and nothing else.
-/

namespace Shopfloor

namespace Rest

/-- An entry can be asked for and removed at its path, in whatever way the id is written there. -/
structure Addressed (f : Framework) (c : Catalogue) (id : String) (told : Body) (gone : Answer)
    (d : Desk) : Prop where
  /-- The usual encoding is one way to write the id. -/
  encoded : Encodes (Percent.encode id) id
  /-- The entry is told, and everything is left as it is. -/
  get : ∀ w params, Encodes w id →
    (f.answer ⟨"GET", c.place ++ w, params⟩).run d = (⟨200, some told⟩, d)
  /-- The entry can be removed. -/
  delete : ∀ w params, Encodes w id →
    ((f.answer ⟨"DELETE", c.place ++ w, params⟩).run d).1 = gone

variable {f : Framework} {d : Desk} {token : Option String} {shop : Shop} {accounts : Accounts}

/-- A request for an entry is answered by its endpoint. -/
theorem run_answer_place (hf : f.Lawful) (c : Catalogue) {w id : String}
    (params : List (String × String)) (hw : Encodes w id) (hid : id ≠ "") (hslash : '/' ∉ id.toList)
    {name : String} {m : Method} (hm : Method.ofName? (Text.upper name) = some m)
    (hallows : m ≠ .post) :
    (f.answer ⟨name, c.place ++ w, params⟩).run d =
      (serve ⟨Text.upper name, c.place ++ w, params⟩ ⟨c.entry id, m⟩).run d := by
  have hroute : f.route ⟨Text.upper name, c.place ++ w, params⟩ = .ok ⟨c.entry id, m⟩ :=
    hf.route_place c rfl hw hid hslash hm hallows
  exact run_answer (r := ⟨name, c.place ++ w, params⟩) hroute

/-! ## Stores -/

/-- The shop behind a desk is gone on with, opened if it is missing. -/
theorem run_theShop (d : Desk) : ∃ shop accounts, ∀ next : Shop → Step Answer,
    (theShop >>= next).run d = (next shop).run ⟨d.token, some shop, accounts⟩ := by
  rcases d with ⟨token, shop, accounts⟩
  cases shop with
  | none => exact ⟨.empty, some .standard, fun _ => rfl⟩
  | some shop => exact ⟨shop, accounts, fun _ => rfl⟩

/-- A store that is behind the desk is gone on with. -/
theorem run_withStore {accounts : Option Accounts} {id : String} {s : Store}
    (hs : shop.stores.get? id = some s) (next : Step Answer) :
    (withStore id next).run ⟨token, some shop, accounts⟩ =
      next.run ⟨token, some shop, accounts⟩ := by
  have hthere : shop.stores.contains id = true := (Keyed.contains_iff _ _).2 ⟨s, hs⟩
  change StateT.run (if shop.stores.contains id = true then next else pure noStore) _ = _
  rw [if_pos hthere]

theorem run_ask {accounts : Option Accounts} (op : Operation) :
    (ask op).run ⟨token, some shop, accounts⟩ =
      ((Shop.run token op shop).1, ⟨token, some (Shop.run token op shop).2, accounts⟩) := rfl

/-- A store that is behind the desk can be addressed. -/
theorem addressed_store (hf : f.Lawful) {accounts : Option Accounts} {id : String} {w : Details}
    (hid : id ≠ "") (hslash : '/' ∉ id.toList) (htoken : Shop.isToken token = true)
    (hs : shop.stores.get? id = some (w.bare id)) :
    Addressed f .stores id (.store (summary id w)) ⟨204, none⟩ ⟨token, some shop, accounts⟩ := by
  constructor
  · exact encodes_encode id
  · intro written params hw
    have hquery : shop.query (.showStore (some id)) = some (.store (w.bare id)) := by
      dsimp only [Shop.query]
      rw [Keyed.find?_some, hs, Option.map_some]
    rw [run_answer_place hf .stores params hw hid hslash (m := .get) (by decide +kernel) (by decide)]
    change (withStore id _).run _ = _
    rw [run_withStore hs, StateT.run_bind, run_ask, Shop.run_of_query htoken hquery,
      ← summary_bare]
    rfl
  · intro written params hw
    rw [run_answer_place hf .stores params hw hid hslash (m := .delete)
      (by decide +kernel) (by decide)]
    change ((withStore id _).run _).1 = _
    rw [run_withStore hs, StateT.run_bind, run_ask, Shop.run_deleteStore htoken hs]
    rfl

/-- What is answered about a new store, by what the shop makes of it. -/
def tellOpened : Except Fault Reply → Answer
  | .error (.failure _ (.present ..)) => refuse 400 .duplicateEntity "Store Already Exists"
  | reply => tellStore 201 reply

/-- A request for a new store asks the shop. -/
theorem run_postStore {r : Request} {id name address : String} (hid : r.param "storeId" = some id)
    (hname : r.param "name" = some name) (haddress : r.param "address" = some address)
    {accounts : Option Accounts} (hopen : ∀ next : Shop → Step Answer,
      (theShop >>= next).run d = (next shop).run ⟨d.token, some shop, accounts⟩)
    {reply : Except Fault Reply} {shop' : Shop}
    (hrun : Shop.run d.token (.provisionStore id name address) shop = (reply, shop')) :
    (postStore r).run d = (tellOpened reply, ⟨d.token, some shop', accounts⟩) := by
  have hask : (ask (.provisionStore id name address)).run ⟨d.token, some shop, accounts⟩ =
      (reply, ⟨d.token, some shop', accounts⟩) := by
    rw [run_ask, hrun]
  unfold postStore
  rw [hopen, hid, hname, haddress]
  dsimp only
  rw [StateT.run_bind, hask]
  unfold tellOpened
  change StateT.run (match reply with
      | .error (.failure _ (.present ..)) => _
      | reply => _) _ = _
  split <;> rfl

/-- If a store was created, the shop was asked with a token, and the store is there with nothing in
    it. -/
theorem created_store {r : Request} {id name address : String}
    (hid : r.param "storeId" = some id) (hname : r.param "name" = some name)
    (haddress : r.param "address" = some address)
    (hcreated : ((postStore r).run d).1.status = 201) :
    Shop.isToken d.token = true ∧ ∃ shop accounts,
      shop.stores.get? id = some (Details.bare id ⟨name, address⟩) ∧
        ((postStore r).run d).2 = ⟨d.token, some shop, accounts⟩ := by
  rcases run_theShop d with ⟨shop, accounts, hopen⟩
  cases htoken : Shop.isToken d.token with
  | false =>
      have hbarred : Shop.run d.token (.provisionStore id name address) shop = _ :=
        Shop.run_of_not_isToken htoken _
      rw [run_postStore hid hname haddress hopen hbarred] at hcreated
      have hstatus : 400 = 201 := hcreated
      cases hstatus
  | true =>
      -- A store that is there already is not opened again.
      cases hs : shop.stores.get? id with
      | some s =>
          have htaken := Shop.run_provisionStore_taken htoken hs (some name) (some address)
          rw [run_postStore hid hname haddress hopen htaken] at hcreated
          have hstatus : 400 = 201 := hcreated
          cases hstatus
      | none =>
          have hnew := Shop.run_provisionStore htoken hs name address
          refine ⟨rfl, _, accounts, ?_, congrArg Prod.snd
            (run_postStore hid hname haddress hopen hnew)⟩
          exact Keyed.get?_insert_self _ _ _

/-! ## Accounts -/

/-- An account that is behind the desk can be addressed. -/
theorem addressed_account (hf : f.Lawful) {shop : Option Shop} {id : String} {a : Account}
    (hid : id ≠ "") (hslash : '/' ∉ id.toList) (ha : accounts.get? id = some a) :
    Addressed f .accounts id (.account (.ofAccount a)) ⟨200, some (.deleted id)⟩
      ⟨token, shop, some accounts⟩ := by
  have hfind : ∀ next : Accounts → Step Answer,
      (theAccounts >>= next).run ⟨token, shop, some accounts⟩ =
        (next accounts).run ⟨token, shop, some accounts⟩ := fun _ => rfl
  constructor
  · exact encodes_encode id
  · intro w params hw
    rw [run_answer_place hf .accounts params hw hid hslash (m := .get)
      (by decide +kernel) (by decide)]
    change StateT.run (theAccounts >>= fun m => _) _ = _
    rw [hfind, ha]
    rfl
  · intro w params hw
    rw [run_answer_place hf .accounts params hw hid hslash (m := .delete)
      (by decide +kernel) (by decide)]
    change (StateT.run (theAccounts >>= fun m => _) _).1 = _
    rw [hfind, Accounts.remove_found ha]
    rfl

/-- The accounts behind a desk are gone on with, opened if they are missing. -/
theorem run_theAccounts (d : Desk) : ∃ shop accounts, ∀ next : Accounts → Step Answer,
    (theAccounts >>= next).run d = (next accounts).run ⟨d.token, shop, some accounts⟩ := by
  rcases d with ⟨token, shop, accounts⟩
  cases accounts with
  | none => exact ⟨some .empty, .standard, fun _ => rfl⟩
  | some accounts => exact ⟨shop, accounts, fun _ => rfl⟩

section Register

variable {r : Request} {id password name : String} (hid : r.param "email" = some id)
  (hpassword : r.param "password" = some password) (hname : r.param "name" = some name)
include hid hpassword hname

/-- A request for a new account registers it. -/
theorem run_postAccount_new {shop : Option Shop} (hopen : ∀ next : Accounts → Step Answer,
      (theAccounts >>= next).run d = (next accounts).run ⟨d.token, shop, some accounts⟩)
    {a : Account} {later : Accounts}
    (hnew : accounts.register id password name = .ok (some a, later)) :
    (postAccount r).run d = (tellAccount 201 a, ⟨d.token, shop, some later⟩) := by
  unfold postAccount
  rw [hopen, hid, hpassword, hname]
  dsimp only
  rw [hnew]
  rfl

/-- A request for an account whose address is taken is refused. -/
theorem run_postAccount_taken {shop : Option Shop} (hopen : ∀ next : Accounts → Step Answer,
      (theAccounts >>= next).run d = (next accounts).run ⟨d.token, shop, some accounts⟩)
    {later : Accounts} (htaken : accounts.register id password name = .ok (none, later)) :
    (postAccount r).run d =
      (refuse 409 .duplicateEntity "User Already Exists", ⟨d.token, shop, some accounts⟩) := by
  unfold postAccount
  rw [hopen, hid, hpassword, hname]
  dsimp only
  rw [htaken]
  rfl

/-- If an account was created, it is there. -/
theorem created_account (hcreated : ((postAccount r).run d).1.status = 201) :
    ∃ shop accounts, accounts.get? id = some (Account.mk id password name) ∧
      ((postAccount r).run d).2 = ⟨d.token, shop, some accounts⟩ := by
  rcases run_theAccounts d with ⟨shop, accounts, hopen⟩
  cases ha : accounts.get? id with
  | some a =>
      have htaken := Accounts.register_taken ha (some password) (some name)
      rw [run_postAccount_taken hid hpassword hname hopen htaken] at hcreated
      have hstatus : 409 = 201 := hcreated
      cases hstatus
  | none =>
      have hnew := Accounts.register_new ha password name
      rw [run_postAccount_new hid hpassword hname hopen hnew]
      exact ⟨shop, _, Keyed.get?_insert_self _ _ _, rfl⟩

end Register

/-! ## Requests that create -/

/-- What is asked when a store is to be opened. -/
theorem route_of_post {r : Request} {id name address : Option String}
    (h : Inquiry.ofRequest? f r = some (.post id name address)) :
    f.route { r with method := Text.upper r.method } = .ok ⟨.stores, .post⟩ ∧
      r.param "storeId" = id ∧ r.param "name" = name ∧ r.param "address" = address := by
  rcases Inquiry.exists_endpoint h with ⟨⟨resource, method⟩, hroute, he⟩
  cases resource <;> cases method <;> cases he
  exact ⟨hroute, rfl, rfl, rfl⟩

/-- What is asked when an account is to be registered. -/
theorem route_of_register {r : Request} {email name : Option String} {password : Bool}
    (h : Errand.ofRequest? f r = some (.register email password name)) :
    f.route { r with method := Text.upper r.method } = .ok ⟨.accounts, .post⟩ ∧
      r.param "email" = email ∧ (r.param "password").isSome = password ∧ r.param "name" = name := by
  rcases Errand.exists_endpoint h with ⟨⟨resource, method⟩, hroute, he⟩
  cases resource <;> cases method <;> cases he
  exact ⟨hroute, rfl, rfl, rfl⟩

/-- A store that an answer says was created can be addressed, if its id has a path. -/
theorem addressed_of_post (hf : f.Lawful) {r : Request} {id name address : String}
    (h : Inquiry.ofRequest? f r = some (.post id name address))
    (hcreated : ((f.answer r).run d).1.status = 201) (hid : id ≠ "") (hslash : '/' ∉ id.toList) :
    Addressed f .stores id (.store (summary id ⟨name, address⟩)) ⟨204, none⟩
      ((f.answer r).run d).2 := by
  rcases route_of_post h with ⟨hroute, hstore, hname, haddress⟩
  have hrun : (f.answer r).run d = (postStore r).run d := run_answer hroute
  rw [hrun] at hcreated ⊢
  rcases created_store hstore hname haddress hcreated with ⟨htoken, shop, accounts, hs, hnext⟩
  -- What the request left behind the desk is all that later requests find.
  rw [hnext]
  exact addressed_store hf hid hslash htoken hs

/-- An account that an answer says was created can be addressed, if its address has a path. -/
theorem addressed_of_register (hf : f.Lawful) {r : Request} {id name : String}
    (h : Errand.ofRequest? f r = some (.register id true name))
    (hcreated : ((f.answer r).run d).1.status = 201) (hid : id ≠ "") (hslash : '/' ∉ id.toList) :
    Addressed f .accounts id (.account ⟨id, name⟩) ⟨200, some (.deleted id)⟩
      ((f.answer r).run d).2 := by
  rcases route_of_register h with ⟨hroute, hemail, hpassword, hname⟩
  rcases Option.isSome_iff_exists.1 hpassword with ⟨password, hpassword⟩
  have hrun : (f.answer r).run d = (postAccount r).run d := run_answer hroute
  rw [hrun] at hcreated ⊢
  rcases created_account hemail hpassword hname hcreated with ⟨shop, accounts, ha, hnext⟩
  rw [hnext]
  exact addressed_account hf hid hslash ha

/-- What was created can be addressed, if its id is not empty and has no slashes: when a store was
    opened or an account registered under such an id, be it at whatever desk, it is told as it was
    created and can be removed, at its path, in whatever way the id is encoded there. Requests go to
    no other entries, so what was created under any other id cannot be addressed at all. -/
theorem addressed_of_created (hf : f.Lawful) (id name : String) :
    (id ≠ "" → '/' ∉ id.toList → ∀ (d : Desk) (r : Request), ((f.answer r).run d).1.status = 201 →
      (∀ address : String, Inquiry.ofRequest? f r = some (.post id name address) →
        Addressed f .stores id (.store (summary id ⟨name, address⟩)) ⟨204, none⟩
          ((f.answer r).run d).2) ∧
      (Errand.ofRequest? f r = some (.register id true name) →
        Addressed f .accounts id (.account ⟨id, name⟩) ⟨200, some (.deleted id)⟩
          ((f.answer r).run d).2)) ∧
    ∀ (c : Catalogue) (r : Request) (m : Method), f.route r = .ok ⟨c.entry id, m⟩ →
      id ≠ "" ∧ '/' ∉ id.toList := by
  constructor
  · intro hid hslash d r hcreated
    constructor
    · intro address hpost
      exact addressed_of_post hf hpost hcreated hid hslash
    · intro hregister
      exact addressed_of_register hf hregister hcreated hid hslash
  · intro c r m hroute
    exact hf.of_resource?_entry (Framework.resource?_of_route hroute)

/-- A store that is to be opened. -/
def opening (id : String) : Request :=
  ⟨"POST", "/api/v1/stores", [("storeId", id), ("name", "N"), ("address", "A")]⟩

/-- An account that is to be registered. -/
def joining (email : String) : Request :=
  ⟨"POST", "/api/v1/users", [("email", email), ("password", "one"), ("name", "N")]⟩

/-- Asked of a server, a store with blanks and a percent sign in its id can be addressed after it was
    created, and so can an account with a plus sign in its address. -/
theorem addressed_opening :
    Addressed .server .stores "5 % off" (.store (summary "5 % off" ⟨"N", "A"⟩)) ⟨204, none⟩
        ((Framework.server.answer (opening "5 % off")).run ⟨some "key", none, none⟩).2 ∧
      Addressed .server .accounts "n+1@x" (.account ⟨"n+1@x", "N"⟩) ⟨200, some (.deleted "n+1@x")⟩
        ((Framework.server.answer (joining "n+1@x")).run ⟨none, none, none⟩).2 := by
  have hstore := (addressed_of_created server_lawful "5 % off" "N").1 (by decide) (by decide)
    ⟨some "key", none, none⟩ (opening "5 % off") (by decide +kernel)
  have haccount := (addressed_of_created server_lawful "n+1@x" "N").1 (by decide) (by decide)
    ⟨none, none, none⟩ (joining "n+1@x") (by decide +kernel)
  exact ⟨hstore.1 "A" (by decide +kernel), haccount.2 (by decide +kernel)⟩

/-- A store with a slash in its id is created, and at its path there is nothing, whether to be told
    or to be removed. -/
theorem created_lost :
    ((Framework.server.answer (opening "a/b")).run ⟨some "key", none, none⟩).1.status = 201 ∧
      ∀ name ∈ ["GET", "DELETE"],
        ((Framework.server.answer ⟨name, Catalogue.stores.place ++ Percent.encode "a/b", []⟩).run
          ((Framework.server.answer (opening "a/b")).run ⟨some "key", none, none⟩).2).1 =
        ⟨404, some (.detail "Not Found")⟩ := by
  decide +kernel

end Rest

end Shopfloor
