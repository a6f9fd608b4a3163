import Shopfloor.Account.Basic
import Shopfloor.Proofs.Keyed.Lookup
import Shopfloor.Proofs.Text.Base64
import Shopfloor.Proofs.Text.Plain
/-!
# Whom a Header Lets In

A header lets in the one whose address and password it bears, and nobody else.

What a header bears is told apart in three steps, and each of them can be undone
in one way only: characters in base 64 are the bytes of a text, and the first
colon of the text ends the address. So a header bears one address and one
password at most. It may bear them in more than one writing, since base 64 does
not have to be written as it is here, but whatever the writing is, address and
password have to be those of an account as it stands at the time.

An account is looked up by the address in the header, and the account says which
address it has. That these are the same is kept up by every act on the accounts:
an account is written under its own address, and its address never changes.

## Main definitions

* `Accounts.Reached`: The accounts after some of them were registered, changed or removed.
* `Basic.header`: The header with an address and a password.
* `Basic.Bears`: A header bears an address and a password.

## Theorems

* `Accounts.Reached.filed`: Accounts are under their own addresses.
* `Basic.credentials_eq_some_iff`: What is read from a header.
* `Basic.bears_header`: What was written into a header.
* `Accounts.authenticate_eq_some_iff`: Whom a header lets in.
* `Accounts.authenticated_exactly`: Both together, for accounts that were reached.
-/

namespace Shopfloor

namespace Basic

/-- The header with an address and a password. -/
def header (email password : String) : String :=
  String.ofList (scheme ++ Base64.encode (Utf8.encode (email ++ ":" ++ password).toList))

/-- A header bears an address and a password: behind the name of the scheme it has a text in base 64
    whose first colon stands between them. -/
def Bears (header : Option String) (email password : String) : Prop :=
  ∃ payload bytes, header = some (String.ofList (scheme ++ payload)) ∧
    Base64.decode payload = some bytes ∧
    Utf8.decode bytes = .ok (email ++ ":" ++ password).toList ∧ ':' ∉ email.toList

variable {email password : String}

theorem toList_joined :
    (email ++ ":" ++ password).toList = email.toList ++ ':' :: password.toList := by
  rw [String.toList_append, String.toList_append, List.append_assoc]
  rfl

/-- What stands behind the name of the scheme. -/
theorem payload?_eq_some_iff {header payload : List Char} :
    payload? header = some payload ↔ header = scheme ++ payload := by
  unfold payload?
  constructor
  · intro h
    split at h
    next hprefix =>
      rcases List.isPrefixOf_iff_prefix.1 hprefix with ⟨rest, rfl⟩
      rw [List.drop_left, Option.some.injEq] at h
      rw [h]
    next => cases h
  · rintro rfl
    rw [if_pos (List.isPrefixOf_iff_prefix.2 (List.prefix_append _ _)), List.drop_left]

/-- A text in base 64 holds an address and a password, which its first colon keeps apart. -/
theorem credentials?_eq_some_iff {payload : List Char} :
    credentials? payload = some (email, password) ↔
      ∃ bytes, Base64.decode payload = some bytes ∧
        Utf8.decode bytes = .ok (email ++ ":" ++ password).toList ∧ ':' ∉ email.toList := by
  rw [toList_joined]
  unfold credentials?
  constructor
  · intro h
    rcases Option.bind_eq_some_iff.1 h with ⟨bytes, hbytes, h⟩
    rcases Option.bind_eq_some_iff.1 h with ⟨text, htext, h⟩
    rcases Option.bind_eq_some_iff.1 h with ⟨⟨before, after⟩, hcut, h⟩
    cases h
    rw [String.toList_ofList, String.toList_ofList]
    rcases Text.cutFirst_eq_some_iff.1 hcut with ⟨rfl, hcolon⟩
    cases hdecode : Utf8.decode bytes with
    | error e =>
        rw [hdecode] at htext
        cases htext
    | ok cs =>
        rw [hdecode] at htext
        cases htext
        exact ⟨bytes, hbytes, hdecode, hcolon⟩
  · rintro ⟨bytes, hbytes, htext, hcolon⟩
    refine Option.bind_eq_some_iff.2 ⟨bytes, hbytes, ?_⟩
    refine Option.bind_eq_some_iff.2 ⟨_, congrArg Except.toOption htext, ?_⟩
    refine Option.bind_eq_some_iff.2 ⟨_, Text.cutFirst_append hcolon password.toList, ?_⟩
    dsimp only
    rw [String.ofList_toList, String.ofList_toList]
    rfl

/-- What is read from a header is what the header bears. -/
theorem credentials_eq_some_iff {header : Option String} :
    credentials header = .ok (some (email, password)) ↔ Bears header email password := by
  unfold credentials Bears
  constructor
  · intro h
    cases hpayload : header.bind fun h => payload? h.toList with
    | none =>
        rw [hpayload] at h
        cases h
    | some payload =>
        rw [hpayload] at h
        dsimp only at h
        split at h
        · rcases Option.bind_eq_some_iff.1 hpayload with ⟨text, rfl, htext⟩
          rcases credentials?_eq_some_iff.1 (Except.ok.inj h) with ⟨bytes, hbearing⟩
          rw [payload?_eq_some_iff] at htext
          refine ⟨payload, bytes, ?_, hbearing⟩
          rw [← htext, String.ofList_toList]
        · cases h
  · rintro ⟨payload, bytes, rfl, hbytes, hbearing⟩
    have hpayload : (some (String.ofList (scheme ++ payload))).bind
        (fun h => payload? h.toList) = some payload := by
      rw [Option.bind_some, String.toList_ofList]
      exact payload?_eq_some_iff.2 rfl
    -- What is read in base 64 is in ASCII, so nothing is refused.
    have hascii : payload.all (fun c => decide (c.toNat < 128)) = true :=
      List.all_eq_true.2 fun c hc => decide_eq_true (Base64.ascii_of_decode hbytes c hc)
    rw [hpayload]
    dsimp only
    rw [if_pos hascii]
    exact congrArg Except.ok (credentials?_eq_some_iff.2 ⟨bytes, hbytes, hbearing⟩)

/-- What was written into a header is what it bears. -/
theorem bears_header (h : ':' ∉ email.toList) (password : String) :
    Bears (some (header email password)) email password :=
  ⟨_, _, rfl, Base64.decode_encode _, Utf8.decode_encode _, h⟩

end Basic

namespace Accounts

/-- Accounts that were reached from the standard ones by registering, changing and removing. -/
inductive Reached : Accounts → Prop
  | standard : Reached standard
  | register {m m' : Accounts} {a : Option Account} (email password name : Option String)
    (h : Reached m) (hrun : m.register email password name = .ok (a, m')) : Reached m'
  | change {m : Accounts} (email password name : Option String) (h : Reached m) :
    Reached (m.change email password name).2
  | remove {m : Accounts} (email : Option String) (h : Reached m) : Reached (m.remove email).2

variable {m : Accounts}

/-- Accounts are under their own addresses. -/
theorem Reached.filed (h : m.Reached) : m.All fun k a => a.email = k := by
  induction h with
  | standard =>
      have hempty : (Keyed.empty : Accounts).All fun k a => a.email = k := Keyed.All.empty _
      unfold Accounts.standard Keyed.ofList
      rw [List.foldl_cons, List.foldl_cons, List.foldl_nil]
      refine (hempty.insert ?_).insert ?_ <;> rfl
  | @register m m' a email password name _ hrun ih =>
      unfold Accounts.register at hrun
      split at hrun
      · cases hrun
        exact ih
      · cases hmake : make email password name with
        | error e =>
            rw [hmake] at hrun
            cases hrun
        | ok b =>
            rw [hmake] at hrun
            cases hrun
            exact ih.insert rfl
  | @change m email password name _ ih =>
      unfold Accounts.change
      split
      · exact ih
      · exact ih.insert rfl
  | @remove m email _ ih =>
      unfold Accounts.remove
      split
      · exact ih
      · split
        · exact ih.erase _
        · exact ih

/-- A header that bears an address is compared with the account under this address. -/
theorem authenticate_of_bears {header : Option String} {email password : String}
    (h : Basic.Bears header email password) :
    m.authenticate header = .ok ((m.get? email).filter fun a => a.password == password) := by
  unfold authenticate
  rw [Basic.credentials_eq_some_iff.2 h]
  rfl

/-- A header lets in the account under the address that it bears, if it bears its password. -/
theorem authenticate_eq_some_iff {header : Option String} {u : Account} :
    m.authenticate header = .ok (some u) ↔
      ∃ email, Basic.Bears header email u.password ∧ m.get? email = some u := by
  constructor
  · intro h
    unfold authenticate at h
    cases hread : Basic.credentials header with
    | error e =>
        rw [hread] at h
        cases h
    | ok found =>
        rw [hread] at h
        rcases found with _ | ⟨email, password⟩
        · cases h
        · rcases Option.filter_eq_some_iff.1 (Except.ok.inj h) with ⟨hu, hpassword⟩
          rw [beq_iff_eq] at hpassword
          rw [hpassword]
          exact ⟨email, Basic.credentials_eq_some_iff.1 hread, hu⟩
  · rintro ⟨email, hbears, hu⟩
    rw [authenticate_of_bears hbears, hu, Option.filter_some, beq_self_eq_true, if_pos rfl]

/-- Whom a header lets in. In accounts that were reached, a header lets in exactly the accounts whose
    address and password it bears, and it bears them in base 64 with the first colon between them. So
    the header that was written for an address without a colon and a password lets in the account
    under the address if this is its password, and otherwise nobody. -/
theorem authenticated_exactly (h : m.Reached) :
    (∀ header u, m.authenticate header = .ok (some u) ↔
      Basic.Bears header u.email u.password ∧ m.get? u.email = some u) ∧
    ∀ email password, ':' ∉ email.toList →
      (∀ u, m.get? email = some u → u.password = password →
        m.authenticate (some (Basic.header email password)) = .ok (some u)) ∧
      ((∀ u, m.get? email = some u → u.password ≠ password) →
        m.authenticate (some (Basic.header email password)) = .ok none) := by
  refine ⟨fun header u => ?_, fun email password hcolon => ⟨fun u hu hpassword => ?_, fun hno => ?_⟩⟩
  · rw [authenticate_eq_some_iff]
    constructor
    · rintro ⟨email, hbears, hu⟩
      -- The account says itself under which address it is.
      have hemail : u.email = email := h.filed email u hu
      rw [hemail]
      exact ⟨hbears, hu⟩
    · rintro ⟨hbears, hu⟩
      exact ⟨u.email, hbears, hu⟩
  · rw [← hpassword, authenticate_eq_some_iff]
    exact ⟨email, Basic.bears_header hcolon u.password, hu⟩
  · rw [authenticate_of_bears (Basic.bears_header hcolon password)]
    refine congrArg Except.ok (Option.filter_eq_none_iff.2 fun u hu => ?_)
    rw [beq_iff_eq]
    exact hno u hu

/-- The standard accounts and a newcomer with a colon and a letter outside of ASCII in the
    password. -/
def joined : Accounts := standard.put ⟨"ada@store.com", "naïve:1", "Ada"⟩

theorem reached_joined : joined.Reached :=
  .register (some "ada@store.com") (some "naïve:1") (some "Ada") .standard rfl

/-- The newcomer gets in with that password and not with another. -/
theorem authenticated_when_joined :
    joined.authenticate (some (Basic.header "ada@store.com" "naïve:1")) =
        .ok (some ⟨"ada@store.com", "naïve:1", "Ada"⟩) ∧
      joined.authenticate (some (Basic.header "ada@store.com" "naive:1")) = .ok none := by
  have hada : joined.get? "ada@store.com" = some ⟨"ada@store.com", "naïve:1", "Ada"⟩ := by
    decide +kernel
  have hcolon : ':' ∉ "ada@store.com".toList := by decide
  have h := (authenticated_exactly reached_joined).2 "ada@store.com"
  refine ⟨(h "naïve:1" hcolon).1 _ hada rfl, (h "naive:1" hcolon).2 fun u hu => ?_⟩
  rw [hada] at hu
  cases hu
  decide

end Accounts

end Shopfloor
