import Shopfloor.Proofs.Account.Authentication
/-!
# What Headers Come To

Every header there is, and then the headers that the accounts themselves would
send.

A header that is not in base 64, or not in UTF-8, or without a colon, bears
nothing and lets nobody in. So does the header of a stranger. All of this is an
answer. One sort of header is never answered: behind the name of the scheme it
has a character outside of ASCII, and reading it ends in a fault instead.

The header of an account joins the address and the password by a colon, and
whoever reads it takes the first colon for that one. An account may have a colon
in its address, since nothing looks at the address when it is registered. Its
header then reads as that of a shorter address and a longer password. If there is
an account with these, it is the one that is let in; the account that sent the
header never is.

## Main definitions

* `Basic.Foreign`: A header has a character outside of ASCII behind the name of the scheme.

## Theorems

* `Basic.credentials_of_foreign`, `Basic.credentials_of_not_foreign`: Reading ends in a fault, or
  not.
* `Accounts.authenticate_of_foreign`, `Accounts.authenticate_of_not_foreign`: So does letting in.
* `Accounts.header_ends`: What any header comes to.
* `Basic.joined_eq_iff`: Two ways to read a text with a colon.
* `Basic.bears_header_iff`: All that a header that was written bears.
* `Accounts.own_header_opens`: Whom the header of an account lets in.
-/

namespace Shopfloor

namespace Basic

/-- Behind the name of the scheme a header has a character outside of ASCII. -/
def Foreign (header : Option String) : Prop :=
  ∃ payload, header = some (String.ofList (scheme ++ payload)) ∧ ∃ c ∈ payload, 128 ≤ c.toNat

/-- What stands behind the name of the scheme, in a header that may be missing. -/
theorem bind_payload?_eq_some_iff {header : Option String} {payload : List Char} :
    (header.bind fun h => payload? h.toList) = some payload ↔
      header = some (String.ofList (scheme ++ payload)) := by
  rw [Option.bind_eq_some_iff]
  constructor
  · rintro ⟨text, rfl, htext⟩
    rw [← payload?_eq_some_iff.1 htext, String.ofList_toList]
  · rintro rfl
    refine ⟨_, rfl, payload?_eq_some_iff.2 ?_⟩
    rw [String.toList_ofList]

/-- A character outside of ASCII cannot be read. -/
theorem credentials_of_foreign {header : Option String} (h : Foreign header) :
    credentials header = .error (.badValue .foreignHeader) := by
  rcases h with ⟨payload, hheader, c, hc, hforeign⟩
  have hnot : ¬ (payload.all fun c => decide (c.toNat < 128)) = true := by
    intro hall
    have hascii := of_decide_eq_true (List.all_eq_true.1 hall c hc)
    omega
  unfold credentials
  rw [bind_payload?_eq_some_iff.2 hheader]
  dsimp only
  rw [if_neg hnot]

/-- Every other header can be read, though there may be nothing in it. -/
theorem credentials_of_not_foreign {header : Option String} (h : ¬ Foreign header) :
    ∃ found, credentials header = .ok found := by
  unfold credentials
  cases hpayload : header.bind fun h => payload? h.toList with
  | none => exact ⟨none, rfl⟩
  | some payload =>
      have hascii : (payload.all fun c => decide (c.toNat < 128)) = true := by
        refine List.all_eq_true.2 fun c hc => decide_eq_true (Nat.lt_of_not_le fun hforeign => ?_)
        exact h ⟨payload, bind_payload?_eq_some_iff.1 hpayload, c, hc, hforeign⟩
      dsimp only
      rw [if_pos hascii]
      exact ⟨_, rfl⟩

variable {email password email' password' : String}

/-- Of two ways to read a text the one that stops at the first colon either is the other, or it stops
    in the address of the other. -/
theorem joined_eq_iff (h : ':' ∉ email'.toList) :
    email' ++ ":" ++ password' = email ++ ":" ++ password ↔
      email' = email ∧ password' = password ∨
      ∃ rest, email = email' ++ ":" ++ rest ∧ password' = rest ++ ":" ++ password := by
  constructor
  · intro heq
    have hlist := congrArg String.toList heq
    rw [toList_joined, toList_joined] at hlist
    rcases List.append_eq_append_iff.1 hlist with ⟨between, hemail, hrest⟩ | ⟨between, hemail, -⟩
    · cases between with
      | nil =>
          -- Both stop at the same colon.
          rw [List.append_nil] at hemail
          rw [List.nil_append, List.cons.injEq] at hrest
          exact Or.inl ⟨String.toList_injective hemail.symm, String.toList_injective hrest.2⟩
      | cons c rest =>
          rw [List.cons_append, List.cons.injEq] at hrest
          rcases hrest with ⟨rfl, hrest⟩
          refine Or.inr ⟨String.ofList rest, String.toList_injective ?_, String.toList_injective ?_⟩
          · rw [toList_joined, String.toList_ofList, hemail]
          · rw [toList_joined, String.toList_ofList, hrest]
    · cases between with
      | nil =>
          rw [List.append_nil] at hemail
          rw [hemail, List.append_cancel_left_eq, List.cons.injEq] at hlist
          exact Or.inl ⟨String.toList_injective hemail, String.toList_injective hlist.2⟩
      | cons c rest =>
          -- The other would have stopped at a colon before the first one.
          rw [hemail, List.append_assoc, List.append_cancel_left_eq, List.cons_append,
            List.cons.injEq] at hlist
          rw [hemail, hlist.1] at h
          exact absurd (List.mem_append_right _ List.mem_cons_self) h
  · rintro (⟨rfl, rfl⟩ | ⟨rest, rfl, rfl⟩)
    · rfl
    · simp only [String.append_assoc]

/-- A header that was written bears what stands on both sides of the first colon of its text, and
    nothing else. -/
theorem bears_header_iff :
    Bears (some (header email password)) email' password' ↔
      ':' ∉ email'.toList ∧ email' ++ ":" ++ password' = email ++ ":" ++ password := by
  constructor
  · rintro ⟨payload, bytes, hheader, hbytes, htext, hcolon⟩
    -- There is one text only behind the name of the scheme.
    have hlist := String.ofList_injective (Option.some.inj hheader)
    rw [List.append_cancel_left_eq] at hlist
    rw [← hlist, Base64.decode_encode, Option.some.injEq] at hbytes
    rw [← hbytes, Utf8.decode_encode, Except.ok.injEq] at htext
    exact ⟨hcolon, String.toList_injective htext.symm⟩
  · rintro ⟨hcolon, heq⟩
    refine ⟨_, _, rfl, Base64.decode_encode _, ?_, hcolon⟩
    rw [Utf8.decode_encode, heq]

end Basic

namespace Accounts

variable {m : Accounts}

/-- What cannot be read lets nobody in, and is not answered either. -/
theorem authenticate_of_foreign (m : Accounts) {header : Option String}
    (h : Basic.Foreign header) : m.authenticate header = .error (.badValue .foreignHeader) := by
  unfold authenticate
  rw [Basic.credentials_of_foreign h]
  rfl

/-- Whatever can be read is answered. -/
theorem authenticate_of_not_foreign (m : Accounts) {header : Option String}
    (h : ¬ Basic.Foreign header) : ∃ found, m.authenticate header = .ok found := by
  rcases Basic.credentials_of_not_foreign h with ⟨read, hread⟩
  unfold authenticate
  rw [hread]
  cases read with
  | none => exact ⟨none, rfl⟩
  | some _ => exact ⟨_, rfl⟩

/-- What any header comes to. If behind the name of the scheme it has a character outside of ASCII,
    it ends in a fault. Otherwise it is answered: with an account if it bears the address under which
    the account is and the password of the account, and with nobody if there is no such account. -/
theorem header_ends (m : Accounts) (header : Option String) :
    (Basic.Foreign header ∧ m.authenticate header = .error (.badValue .foreignHeader)) ∨
    (¬ Basic.Foreign header ∧ ∃ found, m.authenticate header = .ok found ∧
      ∀ u, found = some u ↔
        ∃ email, m.get? email = some u ∧ Basic.Bears header email u.password) := by
  by_cases h : Basic.Foreign header
  · exact Or.inl ⟨h, m.authenticate_of_foreign h⟩
  · rcases m.authenticate_of_not_foreign h with ⟨found, hfound⟩
    refine Or.inr ⟨h, found, hfound, fun u => ?_⟩
    have hopens : m.authenticate header = .ok (some u) ↔
        ∃ email, Basic.Bears header email u.password ∧ m.get? email = some u :=
      authenticate_eq_some_iff
    rw [hfound, Except.ok.injEq] at hopens
    rw [hopens]
    exact exists_congr fun email => and_comm

/-- Letters outside of ASCII behind the name of the scheme are not answered at all. -/
theorem foreign_header_unanswered :
    ¬ ∃ found, standard.authenticate (some "Basic é") = .ok found := by
  have hforeign : Basic.Foreign (some "Basic é") := ⟨['é'], rfl, 'é', by decide, by decide⟩
  rintro ⟨found, hfound⟩
  rw [standard.authenticate_of_foreign hforeign] at hfound
  cases hfound

/-- Whom the header of an account lets in. It lets the account itself in if the address has no colon,
    and only then. It lets another in exactly if that one has a beginning of the address for its
    address, up to a colon, and the rest of the address, a colon and the password for its
    password. -/
theorem own_header_opens (h : m.Reached) {u : Account} (hu : u ∈ m.values) :
    (m.authenticate (some (Basic.header u.email u.password)) = .ok (some u) ↔
      ':' ∉ u.email.toList) ∧
    ∀ w, w ≠ u →
      (m.authenticate (some (Basic.header u.email u.password)) = .ok (some w) ↔
        w ∈ m.values ∧ ':' ∉ w.email.toList ∧
        ∃ rest, u.email = w.email ++ ":" ++ rest ∧ w.password = rest ++ ":" ++ u.password) := by
  have hget : ∀ w, w ∈ m.values ↔ m.get? w.email = some w := by
    intro w
    rw [Keyed.mem_values_iff]
    constructor
    · rintro ⟨k, hk⟩
      rw [h.filed k w hk]
      exact hk
    · exact fun hw => ⟨w.email, hw⟩
  have hopens : ∀ w, m.authenticate (some (Basic.header u.email u.password)) = .ok (some w) ↔
      m.get? w.email = some w ∧ ':' ∉ w.email.toList ∧
        w.email ++ ":" ++ w.password = u.email ++ ":" ++ u.password := by
    intro w
    rw [authenticate_eq_some_iff]
    constructor
    · rintro ⟨email, hbears, hw⟩
      have hemail : w.email = email := h.filed email w hw
      rw [← hemail] at hbears hw
      exact ⟨hw, Basic.bears_header_iff.1 hbears⟩
    · rintro ⟨hw, hbears⟩
      exact ⟨w.email, Basic.bears_header_iff.2 hbears, hw⟩
  refine ⟨?_, fun w hne => ?_⟩
  · rw [hopens]
    exact ⟨fun hown => hown.2.1, fun hcolon => ⟨(hget u).1 hu, hcolon, rfl⟩⟩
  · rw [hopens, hget]
    refine and_congr_right fun hw => and_congr_right fun hcolon => ?_
    rw [Basic.joined_eq_iff hcolon]
    refine or_iff_right fun hsame => hne ?_
    -- There is one account only under an address.
    have hu' := (hget u).1 hu
    rw [← hsame.1, hw] at hu'
    exact Option.some.inj hu'

/-- The standard accounts, one whose password has a colon, and one whose address has. -/
def crossed : Accounts := (standard.put ⟨"a", "b:c", "Ann"⟩).put ⟨"a:b", "c", "Bob"⟩

theorem reached_crossed : crossed.Reached :=
  .register (some "a:b") (some "c") (some "Bob")
    (.register (some "a") (some "b:c") (some "Ann") .standard rfl) rfl

theorem mem_crossed :
    ⟨"a", "b:c", "Ann"⟩ ∈ crossed.values ∧ ⟨"a:b", "c", "Bob"⟩ ∈ crossed.values := by
  decide +kernel

/-- The one with the colon in the password gets in with both headers, the other with none. -/
theorem crossed_headers_open :
    crossed.authenticate (some (Basic.header "a" "b:c")) = .ok (some ⟨"a", "b:c", "Ann"⟩) ∧
      crossed.authenticate (some (Basic.header "a:b" "c")) ≠ .ok (some ⟨"a:b", "c", "Bob"⟩) ∧
      crossed.authenticate (some (Basic.header "a:b" "c")) = .ok (some ⟨"a", "b:c", "Ann"⟩) := by
  have hann := own_header_opens reached_crossed mem_crossed.1
  have hbob := own_header_opens reached_crossed mem_crossed.2
  refine ⟨hann.1.2 (by decide), fun hin => hbob.1.1 hin (by decide), ?_⟩
  exact (hbob.2 _ (by decide)).2 ⟨mem_crossed.1, by decide, "b", rfl, rfl⟩

/-- An account lets another in with the header of its own. -/
theorem header_opens_other :
    ∃ m : Accounts, m.Reached ∧ ∃ u ∈ m.values, ∃ w, w ≠ u ∧
      m.authenticate (some (Basic.header u.email u.password)) = .ok (some w) := by
  refine ⟨crossed, reached_crossed, _, mem_crossed.2, ⟨"a", "b:c", "Ann"⟩, by decide, ?_⟩
  rw [authenticate_eq_some_iff]
  exact ⟨"a", Basic.bears_header_iff.2 ⟨by decide, rfl⟩, by decide +kernel⟩

end Accounts

end Shopfloor
