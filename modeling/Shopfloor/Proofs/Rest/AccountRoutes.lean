import Mathlib.Data.List.Forall2
import Shopfloor.Proofs.Rest.Roster
import Shopfloor.Proofs.Rest.StoreRoutes
/-!
# The Routes to the Accounts

Whoever asks about accounts learns nothing of a password.

The desk keeps passwords, and a request may bring one. What is answered is
nevertheless what a roster answers, and a roster has none: `Lists` relates a desk
to the roster of the accounts that are behind it, or that it will open, and
`Tells` says of a step that it answers as the roster does and leaves a desk that
lists the roster that is left. A request about stores, or about anything else,
finds the shop or opens it, and with it the accounts, and `Spares` says that it
leaves the roster alone.

So the answers about accounts depend on the errands alone. Two runs in which the
requests about accounts differ in nothing but the passwords have the same
errands, and therefore the same answers, whatever else is sent in between.

## Main definitions

* `Rest.Errand.of`, `Rest.Errand.ofRequest?`: What a request asks about the accounts.
* `Rest.accountAnswers`: The answers to what is asked about the accounts.
* `Rest.Lists`: The roster of a desk.
* `Rest.Tells`, `Rest.Spares`: A step answers as a roster does, or leaves it alone.
* `Rest.SameButPassword`: Requests that differ only in the password that they bring.

## Theorems

* `tells_theAccounts`, `spares_bind`, `spares_ask`: The steps of an answer.
* `serve_tells`, `serve_spares`: What is asked about the accounts, and what is not.
* `accountAnswers_eq`: Requests one after the other.
* `SameButPassword.errand`: Requests that differ only in a password are the same errand.
* `passwords_untold`: Two runs that differ only in passwords.
-/

namespace Shopfloor

namespace Rest

/-- What a request asks about the accounts, by where it goes. -/
def Errand.of (r : Request) (e : Endpoint) : Option Errand :=
  let password := (r.param "password").isSome
  match e.resource, e.method with
  | .accounts, .get => some .list
  | .accounts, .post => some (.register (r.param "email") password (r.param "name"))
  | .accounts, .put | .accounts, .delete => some .unnamed
  | .account email, .get => some (.get email)
  | .account email, .put => some (.change email password (r.param "name"))
  | .account email, .delete => some (.remove email)
  | _, _ => none

/-- What a request asks about the accounts, if it is one about accounts. -/
def Errand.ofRequest? (f : Framework) (r : Request) : Option Errand :=
  let r := { r with method := Text.upper r.method }
  match f.route r with
  | .ok e => Errand.of r e
  | .error _ => none

/-- The answers to what is asked about the accounts, among requests of any kind that are sent one
    after the other. -/
def accountAnswers (f : Framework) : Desk → List Request → List Answer
  | _, [] => []
  | d, r :: rs =>
    let later := accountAnswers f ((f.answer r).run d).2 rs
    if (Errand.ofRequest? f r).isSome then ((f.answer r).run d).1 :: later else later

/-- The roster of the accounts behind a desk, or of those that it opens when they are first
    needed. -/
inductive Lists : Desk → Roster → Prop
  | unopened (token : Option String) : Lists ⟨token, none, none⟩ (.ofAccounts .standard)
  | opened (token : Option String) (shop : Shop) (accounts : Accounts) :
    Lists ⟨token, some shop, some accounts⟩ (.ofAccounts accounts)

/-- A step gives the answer of a roster, and the desk lists the roster that is left. -/
def Tells (x : Step Answer) (d : Desk) (e : Answer × Roster) : Prop :=
  (x.run d).1 = e.1 ∧ Lists (x.run d).2 e.2

/-- Whatever the roster is, a step leaves it as it is. -/
def Spares {α : Type} (x : Step α) : Prop :=
  ∀ {d : Desk} {m : Roster}, Lists d m → Lists (x.run d).2 m

variable {d : Desk} {m : Roster}

theorem tells_pure (h : Lists d m) (a : Answer) : Tells (pure a) d (a, m) := ⟨rfl, h⟩

/-- The accounts are found, or opened; either way they are those of the roster. -/
theorem tells_theAccounts {f : Accounts → Step Answer} {e : Answer × Roster} (h : Lists d m)
    (hf : ∀ token shop accounts, Roster.ofAccounts accounts = m →
      Tells (f accounts) ⟨token, some shop, some accounts⟩ e) :
    Tells (theAccounts >>= f) d e := by
  cases h with
  | unopened token => exact hf token .empty .standard rfl
  | opened token shop accounts => exact hf token shop accounts rfl

/-- The accounts are kept as they have become. -/
theorem tells_keepAccounts (token : Option String) (shop : Shop) (accounts accounts' : Accounts)
    (a : Answer) :
    Tells (do keepAccounts accounts'; return a) ⟨token, some shop, some accounts⟩
      (a, .ofAccounts accounts') :=
  ⟨rfl, .opened token shop accounts'⟩

section Spares

variable {α β : Type}

theorem spares_pure (a : α) : Spares (pure a : Step α) := fun h => h

theorem spares_bind {x : Step α} {f : α → Step β} (hx : Spares x) (hf : ∀ a, Spares (f a)) :
    Spares (x >>= f) := by
  intro d m h
  rw [StateT.run_bind]
  exact hf _ (hx h)

/-- Opening the shop opens the accounts that the roster stood for. -/
theorem spares_theShop : Spares theShop := by
  intro d m h
  cases h with
  | unopened token => exact .opened token .empty .standard
  | opened token shop accounts => exact .opened token shop accounts

/-- An operation of the shop has no accounts to change. -/
theorem spares_ask (op : Operation) : Spares (ask op) := by
  intro d m h
  cases h with
  | unopened token => exact .opened token _ .standard
  | opened token shop accounts => exact .opened token _ accounts

theorem spares_withStore (id : String) {next : Step Answer} (h : Spares next) :
    Spares (withStore id next) := by
  refine spares_bind spares_theShop fun shop => ?_
  split
  · exact h
  · exact spares_pure noStore

theorem spares_postStore (r : Request) : Spares (postStore r) := by
  refine spares_bind spares_theShop fun _ => ?_
  split
  · refine spares_bind (spares_ask _) fun reply => ?_
    split <;> exact spares_pure _
  · exact spares_pure _

theorem spares_putStore (r : Request) (id : String) : Spares (putStore r id) := by
  refine spares_bind spares_theShop fun _ => ?_
  dsimp only
  split
  · exact spares_pure _
  · exact spares_withStore id (spares_bind (spares_ask _) fun _ => spares_pure _)

theorem spares_storesEndpoint (r : Request) (method : Method) :
    Spares (storesEndpoint r method) := by
  cases method with
  | get => exact spares_bind spares_theShop fun _ => spares_pure _
  | post => exact spares_postStore r
  | put | delete => exact spares_pure _

theorem spares_storeEndpoint (r : Request) (id : String) (method : Method) :
    Spares (storeEndpoint r id method) := by
  cases method with
  | get | delete => exact spares_withStore id (spares_bind (spares_ask _) fun _ => spares_pure _)
  | put => exact spares_putStore r id
  | post => exact spares_pure noStore

end Spares

/-- All accounts are listed, in the order of the roster. -/
theorem listAccounts_tells (h : Lists d m) (r : Request) :
    Tells (accountsEndpoint r .get) d (m.answer .list) := by
  refine tells_theAccounts h fun token shop accounts hm => ?_
  dsimp only [Roster.answer]
  rw [← hm, Roster.values_ofAccounts]
  exact tells_pure (.opened token shop accounts) _

theorem postAccount_tells (h : Lists d m) (r : Request) :
    Tells (postAccount r) d (m.answer
      (.register (r.param "email") (r.param "password").isSome (r.param "name"))) := by
  refine tells_theAccounts h fun token shop accounts hm => ?_
  rw [← hm]
  generalize r.param "email" = email
  generalize r.param "password" = password
  generalize r.param "name" = name
  have hopened := Lists.opened token shop accounts
  -- With a parameter missing, it does not matter which.
  cases email with
  | none => exact tells_pure hopened _
  | some email =>
      cases password with
      | none => exact tells_pure hopened _
      | some password =>
          cases name with
          | none => exact tells_pure hopened _
          | some name =>
              dsimp only [Roster.answer, Option.isSome_some]
              cases hemail : accounts.get? email with
              | none =>
                  rw [Accounts.register_new hemail, Roster.get?_ofAccounts_none hemail]
                  -- The password is written, and the roster does not see it.
                  have hput := Roster.ofAccounts_put accounts ⟨email, password, name⟩
                  dsimp only [AccountSummary.ofAccount] at hput ⊢
                  rw [← hput]
                  exact tells_keepAccounts token shop accounts _ _
              | some a =>
                  rw [Accounts.register_taken hemail, Roster.get?_ofAccounts_some hemail]
                  exact tells_pure hopened _

theorem getAccount_tells (h : Lists d m) (r : Request) (email : String) :
    Tells (accountEndpoint r email .get) d (m.answer (.get email)) := by
  refine tells_theAccounts h fun token shop accounts hm => ?_
  rw [← hm]
  dsimp only [Roster.answer]
  cases hemail : accounts.get? email with
  | none =>
      rw [Roster.get?_ofAccounts_none hemail]
      exact tells_pure (.opened token shop accounts) noAccount
  | some a =>
      rw [Roster.get?_ofAccounts_some hemail]
      exact tells_pure (.opened token shop accounts) (tellAccount 200 a)

theorem putAccount_tells (h : Lists d m) (r : Request) (email : String) :
    Tells (putAccount r email) d (m.answer
      (.change email (r.param "password").isSome (r.param "name"))) := by
  refine tells_theAccounts h fun token shop accounts hm => ?_
  rw [← hm]
  generalize r.param "password" = password
  generalize r.param "name" = name
  have hopened := Lists.opened token shop accounts
  dsimp only [Roster.answer]
  by_cases hnone : password = none ∧ name = none
  · rw [hnone.1, hnone.2]
    exact tells_pure hopened _
  · have hgiven : ¬ (password.isNone && name.isNone) = true := by
      rw [Bool.and_eq_true, Option.isNone_iff_eq_none, Option.isNone_iff_eq_none]
      exact hnone
    have hasked : ¬ (password.isSome = false ∧ name = none) := by
      rw [Option.isSome_eq_false_iff, Option.isNone_iff_eq_none]
      exact hnone
    rw [if_neg hgiven, if_neg hasked]
    cases hemail : accounts.get? email with
    | none =>
        rw [Accounts.change_absent hemail, Roster.get?_ofAccounts_none hemail]
        exact tells_pure hopened noAccount
    | some a =>
        rw [Accounts.change_found hemail, Roster.get?_ofAccounts_some hemail]
        have hput := Roster.ofAccounts_put accounts
          { a with password := password.getD a.password, name := name.getD a.name }
        dsimp only [AccountSummary.ofAccount] at hput ⊢
        rw [← hput]
        exact tells_keepAccounts token shop accounts _ _

theorem deleteAccount_tells (h : Lists d m) (r : Request) (email : String) :
    Tells (accountEndpoint r email .delete) d (m.answer (.remove email)) := by
  refine tells_theAccounts h fun token shop accounts hm => ?_
  rw [← hm]
  dsimp only [Roster.answer]
  cases hemail : accounts.get? email with
  | none =>
      rw [Accounts.remove_absent hemail, Roster.get?_ofAccounts_none hemail]
      exact tells_pure (.opened token shop accounts) noAccount
  | some a =>
      rw [Accounts.remove_found hemail, Roster.get?_ofAccounts_some hemail,
        ← Roster.ofAccounts_erase]
      exact tells_keepAccounts token shop accounts _ _

/-- What is asked about the accounts is answered by the roster. -/
theorem serve_tells (h : Lists d m) {r : Request} {e : Endpoint} {q : Errand}
    (hq : Errand.of r e = some q) : Tells (serve r e) d (m.answer q) := by
  rcases e with ⟨resource, method⟩
  cases resource with
  | accounts =>
      cases method <;> cases hq
      · exact listAccounts_tells h r
      · exact postAccount_tells h r
      -- What names no account is refused before anything is opened.
      · exact tells_pure h _
      · exact tells_pure h _
  | account email =>
      cases method <;> cases hq
      · exact getAccount_tells h r email
      · exact putAccount_tells h r email
      · exact deleteAccount_tells h r email
  | _ => cases hq

/-- What is not asked about the accounts leaves the roster alone. -/
theorem serve_spares {r : Request} {e : Endpoint} (hq : Errand.of r e = none) :
    Spares (serve r e) := by
  rcases e with ⟨resource, method⟩
  cases resource with
  | health => exact spares_pure _
  | stores => exact spares_storesEndpoint r method
  | store id => exact spares_storeEndpoint r id method
  | accounts => cases method <;> cases hq
  | account email =>
      cases method <;> first
        | exact spares_pure noAccount
        | cases hq

variable {f : Framework}

/-- What asks about accounts goes to an endpoint. -/
theorem Errand.exists_endpoint {r : Request} {q : Errand} (hq : Errand.ofRequest? f r = some q) :
    ∃ e, f.route { r with method := Text.upper r.method } = .ok e ∧
      Errand.of { r with method := Text.upper r.method } e = some q := by
  unfold Errand.ofRequest? at hq
  dsimp only at hq
  cases hroute : f.route { r with method := Text.upper r.method } with
  | error a =>
      rw [hroute] at hq
      cases hq
  | ok e =>
      rw [hroute] at hq
      exact ⟨e, rfl, hq⟩

/-- A request about accounts is answered by the roster. -/
theorem answer_tells (h : Lists d m) {r : Request} {q : Errand}
    (hq : Errand.ofRequest? f r = some q) : Tells (f.answer r) d (m.answer q) := by
  rcases Errand.exists_endpoint hq with ⟨e, hroute, he⟩
  unfold Tells
  rw [run_answer hroute]
  exact serve_tells h he

/-- Any other request leaves the roster alone. -/
theorem answer_spares {r : Request} (hq : Errand.ofRequest? f r = none) : Spares (f.answer r) := by
  unfold Errand.ofRequest? at hq
  dsimp only at hq
  intro d m h
  cases hroute : f.route { r with method := Text.upper r.method } with
  | error a =>
      rw [run_answer_error hroute]
      exact h
  | ok e =>
      rw [hroute] at hq
      rw [run_answer hroute]
      exact serve_spares hq h

/-- Requests one after the other: those about accounts are answered by the roster, and the others do
    not count. -/
theorem accountAnswers_eq (h : Lists d m) (rs : List Request) :
    accountAnswers f d rs = m.answers (rs.filterMap (Errand.ofRequest? f)) := by
  induction rs generalizing d m with
  | nil => rfl
  | cons r rs ih =>
      unfold accountAnswers
      dsimp only
      cases hq : Errand.ofRequest? f r with
      | none =>
          rw [List.filterMap_cons_none hq, Option.isSome_none, if_neg Bool.false_ne_true]
          exact ih (answer_spares hq h)
      | some q =>
          rcases answer_tells h hq with ⟨hanswer, hnext⟩
          rw [List.filterMap_cons_some hq, Option.isSome_some, if_pos rfl, hanswer, ih hnext]
          rfl

/-- Two requests differ at most in the password that both of them bring. -/
structure SameButPassword (r r' : Request) : Prop where
  method : r.method = r'.method
  path : r.path = r'.path
  param : ∀ name, name ≠ "password" → r.param name = r'.param name
  password : (r.param "password").isSome = (r'.param "password").isSome

/-- A request with another password in place of each one that it brings. -/
def Request.withPassword (r : Request) (password : String) : Request :=
  { r with params := r.params.map fun e => (e.1, if e.1 = "password" then password else e.2) }

/-- What a request with another password says is what the request says, but for the password. -/
theorem sameButPassword_withPassword (r : Request) (password : String) :
    SameButPassword r (r.withPassword password) := by
  have hparam : ∀ name, (r.withPassword password).param name =
      (r.param name).map fun v => if name = "password" then password else v := by
    intro name
    unfold Request.withPassword Request.param
    dsimp only
    rw [← List.map_reverse]
    exact Keyed.lookup_map_snd _ (fun k v => if k = "password" then password else v) name
  constructor
  · rfl
  · rfl
  · intro name hname
    rw [hparam]
    simp only [if_neg hname, Option.map_id']
  · rw [hparam, Option.isSome_map]

/-- An errand is read off the parameters, and of the password only whether it is there. -/
theorem SameButPassword.errand_of {r r' : Request} (h : SameButPassword r r') (e : Endpoint) :
    Errand.of r e = Errand.of r' e := by
  have hemail := h.param "email" (by decide +kernel)
  have hname := h.param "name" (by decide +kernel)
  unfold Errand.of
  rw [hemail, hname, h.password]

/-- Where a request goes is read off its method and its path. -/
theorem route_congr {r r' : Request} (hmethod : r.method = r'.method) (hpath : r.path = r'.path) :
    f.route r = f.route r' := by
  unfold Framework.route
  rw [hmethod, hpath]

/-- Requests that differ only in a password are the same errand. -/
theorem SameButPassword.errand {r r' : Request} (h : SameButPassword r r') :
    Errand.ofRequest? f r = Errand.ofRequest? f r' := by
  have hupper : SameButPassword { r with method := Text.upper r.method }
      { r' with method := Text.upper r'.method } :=
    ⟨congrArg Text.upper h.method, h.path, h.param, h.password⟩
  unfold Errand.ofRequest?
  dsimp only
  rw [route_congr hupper.method hupper.path]
  cases f.route { r' with method := Text.upper r'.method } with
  | error a => rfl
  | ok e => exact hupper.errand_of e

/-- What has no image may be left out beforehand. -/
theorem filterMap_filter_isSome {α β : Type} (f : α → Option β) (l : List α) :
    (l.filter fun a => (f a).isSome).filterMap f = l.filterMap f := by
  rw [List.filterMap_filter]
  congr 1
  funext a
  cases f a <;> rfl

/-- Requests that are alike but for passwords, one by one, are the same errands. -/
theorem errands_eq {rs rs' : List Request} (h : List.Forall₂ SameButPassword rs rs') :
    rs.filterMap (Errand.ofRequest? f) = rs'.filterMap (Errand.ofRequest? f) := by
  induction h with
  | nil => rfl
  | cons hhead _ ih => rw [List.filterMap_cons, List.filterMap_cons, hhead.errand, ih]

/-- Passwords are not told, whatever the framework makes of paths. Of two runs from desks at which
    nothing has been opened yet, let the requests about accounts be the same ones in the same order,
    but for the passwords that they bring; whatever else is sent in between may differ. Then all that
    is answered about accounts is the same in both. -/
theorem passwords_untold (f : Framework) (token token' : Option String) {rs rs' : List Request}
    (h : List.Forall₂ SameButPassword (rs.filter fun r => (Errand.ofRequest? f r).isSome)
      (rs'.filter fun r => (Errand.ofRequest? f r).isSome)) :
    accountAnswers f ⟨token, none, none⟩ rs = accountAnswers f ⟨token', none, none⟩ rs' := by
  rw [accountAnswers_eq (.unopened token), accountAnswers_eq (.unopened token'),
    ← filterMap_filter_isSome _ rs, ← filterMap_filter_isSome _ rs', errands_eq h]

/-- Somebody registers, changes the password, and is listed. -/
def newcomer : List Request :=
  [⟨"POST", "/api/v1/users", [("email", "n@x"), ("password", "one"), ("name", "N")]⟩,
    ⟨"PUT", "/api/v1/users/n@x", [("password", "two")]⟩,
    ⟨"GET", "/api/v1/users", []⟩]

/-- Whichever password the newcomer brings, and whatever is asked about stores before that, the
    answers are the same. -/
theorem newcomer_untold :
    accountAnswers .server ⟨none, none, none⟩ newcomer = accountAnswers .server ⟨none, none, none⟩
      (⟨"GET", "/api/v1/stores", []⟩ :: newcomer.map (·.withPassword "other")) := by
  refine passwords_untold .server none none ?_
  have hall : (newcomer.filter fun r => (Errand.ofRequest? .server r).isSome) = newcomer := by
    decide +kernel
  have hrest : (Request.mk "GET" "/api/v1/stores" [] ::
      newcomer.map (·.withPassword "other")).filter (fun r => (Errand.ofRequest? .server r).isSome) =
      newcomer.map (·.withPassword "other") := by
    decide +kernel
  rw [hall, hrest, List.forall₂_map_right_iff]
  exact List.forall₂_same.2 fun r _ => sameButPassword_withPassword r "other"

end Rest

end Shopfloor
