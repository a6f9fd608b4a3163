import Mathlib.Data.List.Basic
import Shopfloor.Archive
import Shopfloor.Proofs.Account.Authentication
import Shopfloor.Proofs.Act.Unread
/-!
# One Vault for Two

What the shop and the accounts, which are kept in one vault, know of each other.

Drawers of different names do not touch. A drawer shows what was put in last, and
what was put in another does not show in it. So the premises that an archive holds
go through every dealing as if there were two vaults: the shop as if there were no
accounts, and the accounts as if there were no shop. There is one exception. A reset
concerns the shop, but it empties the one vault that there is, and with it goes
every account. Nothing puts the standard accounts back, so nobody is let in until
somebody registers.

The shop after a reset is as good as new. It may still have a log, since that is
kept elsewhere, but no operation reads the log. Hence all operations end as they do
in a fresh archive.

## Theorems

* `Drawer.read_write`, `Drawer.read_write_of_ne`: What a drawer shows.
* `shop_after`, `accounts_after`: What one dealing does to either side.
* `shop_afterAll`, `accounts_afterAll`: What a run of dealings does.
* `premises_opened`: Premises are opened as an archive is.
* `answers_of_logged`: Operations end in the same way whatever the log is.
* `reset_empties_both`: What a reset does, and what it is good for.
-/

namespace Shopfloor

/-- What was written as one sort of value is all there when it is picked out. -/
theorem Keyed.pick_mapValues {α β : Type} {f : β → Option α} {g : α → β} (h : ∀ a, f (g a) = some a)
    (m : Keyed α) : (m.mapValues fun _ a => g a).pick f = m := by
  refine ext_entries ?_
  change (m.entries.map fun e => (e.1, g e.2)).filterMap (fun e => (f e.2).map (e.1, ·)) = m.entries
  have hsome : (fun e : String × β => (f e.2).map (e.1, ·)) ∘ (fun e => (e.1, g e.2)) = some := by
    funext e
    change (f (g e.2)).map (e.1, ·) = some e
    rw [h]
    rfl
  rw [List.filterMap_map, hsome, List.filterMap_some]

namespace Drawer

variable {α β : Type} (d : Drawer α) (v : Vault Registration)

/-- What a drawer shows depends on what is under its name. -/
theorem read_congr {v v' : Vault Registration} (h : v.get? d.name = v'.get? d.name) :
    d.read v = d.read v' := by
  unfold read Vault.entries Vault.obtain
  rw [h]
  cases v'.get? d.name <;> rfl

/-- A drawer shows what was put in. -/
theorem read_write (m : Keyed α) : d.read (d.write m v) = m := by
  unfold read write Vault.entries Vault.obtain
  rw [Keyed.get?_insert_self]
  exact Keyed.pick_mapValues d.record?_entry m

/-- What is put in one drawer does not show in another. -/
theorem read_write_of_ne {d' : Drawer β} (h : d.name ≠ d'.name) (m : Keyed β) :
    d.read (d'.write m v) = d.read v :=
  d.read_congr (Keyed.get?_insert_of_ne v _ h)

end Drawer

namespace Archive

variable (a : Archive)

theorem shop_keepShop (shop : Shop) : (a.keepShop shop).shop = shop := by
  unfold keepShop Archive.shop
  congr 1
  -- Each drawer is read behind what was put in the drawers after it.
  · rw [Drawer.read_write_of_ne _ _ (by decide), Drawer.read_write_of_ne _ _ (by decide),
      Drawer.read_write_of_ne _ _ (by decide), Drawer.read_write]
  · rw [Drawer.read_write_of_ne _ _ (by decide), Drawer.read_write_of_ne _ _ (by decide),
      Drawer.read_write]
  · rw [Drawer.read_write_of_ne _ _ (by decide), Drawer.read_write]
  · rw [Drawer.read_write]

theorem accounts_keepShop (shop : Shop) : (a.keepShop shop).accounts = a.accounts := by
  unfold keepShop accounts
  rw [Drawer.read_write_of_ne _ _ (by decide), Drawer.read_write_of_ne _ _ (by decide),
    Drawer.read_write_of_ne _ _ (by decide), Drawer.read_write_of_ne _ _ (by decide)]

theorem shop_keepAccounts (m : Accounts) : (a.keepAccounts m).shop = a.shop := by
  unfold keepAccounts Archive.shop
  congr 1
  · exact Drawer.read_write_of_ne _ _ (by decide) m
  · exact Drawer.read_write_of_ne _ _ (by decide) m
  · exact Drawer.read_write_of_ne _ _ (by decide) m
  · exact Drawer.read_write_of_ne _ _ (by decide) m

theorem accounts_keepAccounts (m : Accounts) : (a.keepAccounts m).accounts = m :=
  Drawer.read_write _ _ m

/-! ### Dealings -/

theorem accounts_reset : a.reset.accounts = .empty := rfl

/-- Premises are opened as they are in an archive. -/
theorem premises_opened : opened.premises = Premises.opened := by
  have haccounts : opened.accounts = .standard := Drawer.read_write _ fresh.vault Accounts.standard
  unfold premises
  rw [haccounts]
  rfl

/-- A dealing does to the shop what it would do if there were no accounts. -/
theorem shop_after (d : Dealing) : (a.after d).shop = d.onShop a.shop := by
  cases d with
  | operate token op => exact shop_keepShop a _
  | reset => rfl
  | _ => exact shop_keepAccounts a _

/-- A dealing does to the accounts what it would do if there were no shop, but a reset takes them. -/
theorem accounts_after (d : Dealing) : (a.after d).accounts = d.onAccounts a.accounts := by
  cases d with
  | operate token op => exact accounts_keepShop a _
  | reset => rfl
  | _ => exact accounts_keepAccounts a _

theorem shop_afterAll (ds : List Dealing) :
    (a.afterAll ds).shop = ds.foldl Dealing.onShop a.shop := by
  unfold afterAll
  induction ds generalizing a with
  | nil => rfl
  | cons d ds ih => rw [List.foldl_cons, List.foldl_cons, ih, shop_after]

theorem accounts_afterAll (ds : List Dealing) :
    (a.afterAll ds).accounts = ds.foldl Dealing.onAccounts a.accounts := by
  unfold afterAll
  induction ds generalizing a with
  | nil => rfl
  | cons d ds ih => rw [List.foldl_cons, List.foldl_cons, ih, accounts_after]

theorem answer_operate (token : Option String) (op : Operation) :
    (a.operate token op).1 = (Shop.run token op a.shop).1 := rfl

theorem shop_operate (token : Option String) (op : Operation) :
    (a.operate token op).2.shop = (Shop.run token op a.shop).2 :=
  shop_keepShop a _

/-- Operations end in the same way in archives whose shops differ in the log only. -/
theorem answers_of_logged {a b : Archive} {log : List DeviceEvent} (h : b.shop = a.shop.logged log)
    (calls : List (Option String × Operation)) : b.answers calls = a.answers calls := by
  induction calls generalizing a b log with
  | nil => rfl
  | cons call calls ih =>
      rcases call with ⟨token, op⟩
      -- The log that is left behind may be another one, but again it is all that differs.
      rcases Shop.perform_unread token op a.shop log with ⟨log', hlog'⟩
      have hrun : Shop.run token op b.shop =
          ((Shop.run token op a.shop).1, (Shop.run token op a.shop).2.logged log') := by
        rw [h]
        exact hlog'
      have hanswer : (b.operate token op).1 = (a.operate token op).1 := by
        rw [answer_operate, answer_operate, hrun]
      have hshop : (b.operate token op).2.shop = (a.operate token op).2.shop.logged log' := by
        rw [shop_operate, shop_operate, hrun]
      rw [answers, answers, hanswer, ih hshop]

/-- Operations of the shop leave every account as it is. -/
theorem accounts_operateAll (calls : List (Option String × Operation)) :
    (a.afterAll (calls.map fun call => .operate call.1 call.2)).accounts = a.accounts := by
  rw [accounts_afterAll, List.foldl_map]
  exact List.foldl_fixed' (fun _ => rfl) calls

/-- Whatever was done since the premises were opened, the shop and the accounts are as if each were
    kept alone. After a reset no account is left, and whatever is then asked of the shop, nobody is
    let in; and all of it is answered as in a fresh archive. -/
theorem reset_empties_both (ds : List Dealing) (calls : List (Option String × Operation)) :
    (opened.afterAll ds).shop = ds.foldl Dealing.onShop .empty ∧
    (opened.afterAll ds).accounts = ds.foldl Dealing.onAccounts .standard ∧
    (opened.afterAll ds).reset.accounts = .empty ∧
    (∀ header user, ((opened.afterAll ds).reset.afterAll
      (calls.map fun call => .operate call.1 call.2)).accounts.authenticate header ≠
        .ok (some user)) ∧
    (opened.afterAll ds).reset.answers calls = fresh.answers calls := by
  refine ⟨?_, ?_, rfl, fun header user h => ?_, ?_⟩
  · rw [shop_afterAll]
    exact congrArg (ds.foldl Dealing.onShop) (congrArg Premises.shop premises_opened)
  · rw [accounts_afterAll]
    exact congrArg (ds.foldl Dealing.onAccounts) (congrArg Premises.accounts premises_opened)
  · rw [accounts_operateAll, accounts_reset, Accounts.authenticate_eq_some_iff] at h
    rcases h with ⟨email, -, hu⟩
    cases hu
  · -- All that a reset leaves of the shop is its log.
    have hshop : (opened.afterAll ds).reset.shop = fresh.shop.logged (opened.afterAll ds).log := rfl
    exact answers_of_logged hshop calls

/-- The standard accounts are there when the premises are opened, and gone after a reset. -/
theorem reset_takes_standard :
    opened.accounts.get? "admin@store.com" = some ⟨"admin@store.com", "admin123", "Admin User"⟩ ∧
      opened.reset.accounts.get? "admin@store.com" = none := by
  decide +kernel

end Archive

end Shopfloor
