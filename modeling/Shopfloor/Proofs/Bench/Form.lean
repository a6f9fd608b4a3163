import Shopfloor.Bench.Row
/-!
# What a Form Lets Through

A record that was made has in each of its fields what the form of the field says.

A form takes more than it lets through. A whole number may be given as a text or
as truth, and a record as a map, but what ends up in the field is a number and a
record. `Form.Takes` says what ends up there, with a constructor for each sort of
form, and `Fields.Takes` says it of all fields of a record in their order. A field
that was left out has its standard value, which is not asked for its form.

Whoever takes fields so is `Lawful`: the fields of a record that is made have what
was declared of them, the keys of maps included. Nothing else need be known of a
validator, and the one that runs is lawful.

A form is checked while records are laid in the row, so a check is work on the
row. What it yields does not depend on what lies there, and `OnRow.Yields` speaks
about that alone.

## Main definitions

* `OnRow.Yields`: What work on the row yields, whatever lies there.
* `Checked.Fits`: What is known of a value that was found good.
* `Form.Takes`, `Fields.Takes`: What is in a field, and in all of them.
* `Validator.Lawful`: Fields that are taken have what was declared of them.
* `Bench.card?`: The record that a handle holds.

## Theorems

* `yields_bind`, `yields_mapM`: Work that goes on.
* `fits_both`, `fits_all`: Several values that are good.
* `check_takes`, `check_lawful`: What a form lets through.
* `makeBy_eq_ok`: A record that was made.
-/

namespace Shopfloor

namespace OnRow

variable {α β : Type} {P : α → Prop}

/-- Work on the row yields something with a property, whatever lies in the row. -/
def Yields (x : OnRow α) (P : α → Prop) : Prop := ∀ row, P (x.run row).1

theorem yields_pure {a : α} (h : P a) : (pure a : OnRow α).Yields P := fun _ => h

theorem yields_bind {Q : β → Prop} {x : OnRow β} {f : β → OnRow α} (hx : x.Yields Q)
    (hf : ∀ b, Q b → (f b).Yields P) : (x >>= f).Yields P :=
  fun row => hf _ (hx row) _

theorem yields_bind_any {x : OnRow β} {f : β → OnRow α} (hf : ∀ b, (f b).Yields P) :
    (x >>= f).Yields P :=
  fun row => hf (x.run row).1 (x.run row).2

/-- Whatever is done with each of several values yields something with the property for each. -/
theorem yields_mapM {f : β → OnRow α} {l : List β} (hf : ∀ b ∈ l, (f b).Yields P) :
    (l.mapM f).Yields fun as => ∀ a ∈ as, P a := by
  induction l with
  | nil =>
      rw [List.mapM_nil]
      exact yields_pure fun a ha => absurd ha List.not_mem_nil
  | cons b l ih =>
      rw [List.mapM_cons]
      refine yields_bind (hf b List.mem_cons_self) fun a ha => ?_
      refine yields_bind (ih fun c hc => hf c (List.mem_cons_of_mem _ hc)) fun as has => ?_
      exact yields_pure (List.forall_mem_cons.2 ⟨ha, has⟩)

end OnRow

namespace Checked

variable {α β γ : Type}

/-- If a value was found good, it has a property. -/
def Fits (c : Checked α) (P : α → Prop) : Prop := ∀ a, c.value = some a → P a

variable {P : α → Prop} {Q : β → Prop}

theorem fits_good {a : α} (h : P a) : (good a).Fits P := by
  rintro _ ⟨⟩
  exact h

theorem fits_of_value_none {c : Checked α} (h : c.value = none) : c.Fits P := by
  intro a ha
  rw [h] at ha
  cases ha

theorem fits_bad (flaw : FieldFlaw) : (bad flaw : Checked α).Fits P := fits_of_value_none rfl

theorem Fits.map {c : Checked β} (h : c.Fits Q) {f : β → α} (hf : ∀ b, Q b → P (f b)) :
    (c.map f).Fits P := by
  intro a ha
  rcases Option.map_eq_some_iff.1 ha with ⟨b, hb, rfl⟩
  exact hf b (h b hb)

theorem fits_both {R : γ → Prop} {f : α → β → γ} {x : Checked α} {y : Checked β} (hx : x.Fits P)
    (hy : y.Fits Q) (hf : ∀ a b, P a → Q b → R (f a b)) : (both f x y).Fits R := by
  intro c hc
  rcases Option.bind_eq_some_iff.1 hc with ⟨a, ha, hc⟩
  rcases Option.map_eq_some_iff.1 hc with ⟨b, hb, rfl⟩
  exact hf a b (hx a ha) (hy b hb)

theorem fits_all {cs : List (Checked α)} (h : ∀ c ∈ cs, c.Fits P) :
    (all cs).Fits fun as => ∀ a ∈ as, P a := by
  induction cs with
  | nil => exact fits_good fun a ha => absurd ha List.not_mem_nil
  | cons c cs ih =>
      rw [List.forall_mem_cons] at h
      exact fits_both h.1 (ih h.2) fun a as ha has => List.forall_mem_cons.2 ⟨ha, has⟩

end Checked

/-- What is in a field of a form. -/
inductive Form.Takes : Form → Value → Prop
  | text (s : String) : Takes .text (.text s)
  | choice {texts : List String} {s : String} (h : s ∈ texts) : Takes (.choice texts) (.text s)
  | amount {n : Int} (h : 0 ≤ n) : Takes .amount (.atom (.integer n))
  | quantity (n : Int) : Takes .quantity (.atom (.integer n))
  | price {x : Binary64} (h : x.atLeastZero = true) : Takes .price (.atom (.number x))
  | moment (m : Moment) : Takes .moment (.atom (.moment m))
  | record (kind : RecordKind) (fields : Fields) (r : Ref) : Takes (.record kind fields) (.card r)
  | mapOf {form : Form} {entries : Entries Value} (hkeys : ∀ e ∈ entries, ∃ key, e.1 = .text key)
    (h : ∀ e ∈ entries, Takes form e.2) : Takes (.mapOf form) (.map entries)
  | null {form : Form} {v : Value} (h : v.isNull = true) : Takes (.orNull form) v
  | orNull {form : Form} {v : Value} (h : Takes form v) : Takes (.orNull form) v

/-- What is in the fields of a record, in their order. -/
inductive Fields.Takes : Fields → List (String × Value) → Prop
  | done : Takes .done []
  | required {name : String} {form : Form} {rest : Fields} {v : Value}
    {fields : List (String × Value)} (hv : form.Takes v) (hrest : Takes rest fields) :
    Takes (.required name form rest) ((name, v) :: fields)
  | given {name : String} {standard : Value} {form : Form} {rest : Fields} {v : Value}
    {fields : List (String × Value)} (hv : form.Takes v) (hrest : Takes rest fields) :
    Takes (.optional name standard form rest) ((name, v) :: fields)
  | leftOut {name : String} {standard : Value} {form : Form} {rest : Fields}
    {fields : List (String × Value)} (hrest : Takes rest fields) :
    Takes (.optional name standard form rest) ((name, standard) :: fields)

/-- Fields that are taken have what was declared of them. -/
def Validator.Lawful (validate : Validator) : Prop :=
  ∀ fields given, (validate fields given).Yields (·.Fits fields.Takes)

namespace Form

open OnRow Checked

/-- A single value that a rule takes is what the rule makes of it. -/
theorem checkAtom_fits {α : Type} {P : Value → Prop} {rule : Atom → Except FieldFlaw α}
    {f : α → Atom} (v : Value) (h : ∀ a x, rule a = .ok x → P (.atom (f x))) :
    (v.checkAtom rule f).Fits P := by
  unfold Value.checkAtom
  cases hrule : rule (v.atom?.getD .null) with
  | ok x => exact fits_good (h _ x hrule)
  | error flaw => exact fits_bad flaw

theorem asText_eq_ok {a b : Atom} (h : a.asText = .ok b) : ∃ s, b = .text s := by
  unfold Atom.asText at h
  split at h
  · cases h
    exact ⟨_, rfl⟩
  · cases h

theorem checkKey_fits (a : Atom) : a.checkKey.Fits fun k => ∃ s, k = .text s := by
  unfold Atom.checkKey
  cases htext : a.asText with
  | ok key => exact fits_good (asText_eq_ok htext)
  | error flaw => exact fits_of_value_none rfl

theorem asChoice_eq_ok {texts : List String} {a b : Atom} (h : a.asChoice texts = .ok b) :
    ∃ s ∈ texts, b = .text s := by
  unfold Atom.asChoice at h
  split at h
  · next s =>
      split at h
      · next hmem =>
          cases h
          exact ⟨s, List.contains_iff_mem.1 hmem, rfl⟩
      · cases h
  · cases h

theorem asAmount_eq_ok {a : Atom} {n : Int} (h : a.asAmount = .ok n) : 0 ≤ n := by
  unfold Atom.asAmount at h
  cases hwhole : a.asWhole with
  | error flaw =>
      rw [hwhole] at h
      cases h
  | ok m =>
      rw [hwhole] at h
      change (if m < 0 then Except.error FieldFlaw.belowZero else Except.ok m) = .ok n at h
      split at h
      · cases h
      · next hle =>
          cases h
          exact Int.not_lt.1 hle

theorem asPrice_eq_ok {a : Atom} {x : Binary64} (h : a.asPrice = .ok x) :
    x.atLeastZero = true := by
  unfold Atom.asPrice at h
  cases hnumber : a.asNumber with
  | error flaw =>
      rw [hnumber] at h
      cases h
  | ok y =>
      rw [hnumber] at h
      change (if y.atLeastZero = true then Except.ok y else Except.error FieldFlaw.belowZero) = .ok x
        at h
      split at h
      · next hle =>
          cases h
          exact hle
      · cases h

end Form

open OnRow Checked in
/-- One field and then the others. -/
theorem yields_field {P : Value → Prop} {Q R : List (String × Value) → Prop} {name : String}
    {x : OnRow (Checked Value)} {rest : OnRow (Checked (List (String × Value)))}
    (hx : x.Yields (·.Fits P)) (hrest : rest.Yields (·.Fits Q))
    (h : ∀ v fields, P v → Q fields → R ((name, v) :: fields)) :
    OnRow.Yields (do
      let c ← x
      return (c.under name).both (fun v fields => (name, v) :: fields) (← rest))
      (·.Fits R) := by
  refine yields_bind hx fun c hc => ?_
  exact yields_bind hrest fun cs hcs => yields_pure (fits_both hc hcs h)

open OnRow Checked in
mutual

/-- What a form lets through. -/
theorem Form.check_takes : ∀ (form : Form) (v : Value), (form.check v).Yields (·.Fits form.Takes)
  | .text, v => by
      rw [Form.check]
      refine yields_pure (Form.checkAtom_fits v fun a b h => ?_)
      rcases Form.asText_eq_ok h with ⟨s, rfl⟩
      exact .text s
  | .choice texts, v => by
      rw [Form.check]
      refine yields_pure (Form.checkAtom_fits v fun a b h => ?_)
      rcases Form.asChoice_eq_ok h with ⟨s, hs, rfl⟩
      exact .choice hs
  | .amount, v => by
      rw [Form.check]
      exact yields_pure (Form.checkAtom_fits v fun a n h => .amount (Form.asAmount_eq_ok h))
  | .quantity, v => by
      rw [Form.check]
      exact yields_pure (Form.checkAtom_fits v fun a n _ => .quantity n)
  | .price, v => by
      rw [Form.check]
      exact yields_pure (Form.checkAtom_fits v fun a x h => .price (Form.asPrice_eq_ok h))
  | .moment, v => by
      rw [Form.check]
      exact yields_pure (Form.checkAtom_fits v fun a m _ => .moment m)
  | .record kind fields, v => by
      unfold Form.check
      split
      · refine yields_bind_any fun row => yields_pure ?_
        split
        · exact fits_good (.record kind fields _)
        · exact fits_bad _
      · -- A map of fields that are good is laid in the row, and a place in the row is let through.
        refine yields_bind_any fun checked => ?_
        split
        · exact yields_bind_any fun r => yields_pure (fits_good (.record kind fields r))
        · exact yields_pure (fits_of_value_none rfl)
      · exact yields_pure (fits_bad _)
  | .mapOf form, v => by
      unfold Form.check
      split
      · next entries =>
          have hentries := yields_mapM (l := entries)
            (P := fun c : Checked (Atom × Value) =>
              c.Fits fun e => (∃ key, e.1 = .text key) ∧ form.Takes e.2)
            (f := fun e => do
              let c ← form.check e.2
              return (e.1.checkKey.both Prod.mk c).under (e.1.text?.getD ""))
            fun e _ => yields_bind (form.check_takes e.2) fun c hc =>
              yields_pure (fits_both (Form.checkKey_fits e.1) hc fun _ _ hk hv => ⟨hk, hv⟩)
          refine yields_bind hentries fun cs hcs => yields_pure ?_
          exact (fits_all hcs).map fun es hes =>
            .mapOf (fun e he => (hes e he).1) fun e he => (hes e he).2
      · exact yields_pure (fits_bad _)
  | .orNull form, v => by
      rw [Form.check]
      split
      · next hnull => exact yields_pure (fits_good (.null hnull))
      · exact fun row w hw => .orNull (form.check_takes v row w hw)

/-- What is in fields that were all good. -/
theorem Fields.check_takes : ∀ (fields : Fields) (given : Entries Value),
    (fields.check given).Yields (·.Fits fields.Takes)
  | .done, given => by
      rw [Fields.check]
      exact yields_pure (fits_good .done)
  | .required name form rest, given => by
      rw [Fields.check]
      have hrest := rest.check_takes given
      split
      · next v _ => exact yields_field (form.check_takes v) hrest fun _ _ => .required
      · exact yields_field (yields_pure (fits_bad _)) hrest fun _ _ => .required
  | .optional name standard form rest, given => by
      rw [Fields.check]
      have hrest := rest.check_takes given
      split
      · next v _ => exact yields_field (form.check_takes v) hrest fun _ _ => .given
      · refine yields_field (P := (· = standard)) (yields_pure (fits_good rfl)) hrest ?_
        rintro v fields rfl hfields
        exact .leftOut hfields

end

/-- The validator that runs takes what is declared. -/
theorem check_lawful : Validator.Lawful Fields.check := Fields.check_takes

namespace Bench

/-- The record that a handle holds. -/
def card? (b : Bench) (handle : String) : Option Card :=
  (b.handles.get? handle).bind fun r => b.row[r]?

/-- A record that was made is held by its handle, and has in its fields what was declared of them. -/
theorem makeBy_eq_ok {validate : Validator} (hlawful : validate.Lawful) {b b' : Bench}
    {handle : String} {kind : RecordKind} {given : Entries Value} {v : Value}
    (h : b.makeBy validate handle kind given = .ok (v, b')) :
    ∃ fields, kind.fields.Takes fields ∧ b'.card? handle = some ⟨kind, fields⟩ := by
  have htakes := hlawful kind.fields given b.row
  unfold makeBy at h
  rcases hrun : (validate kind.fields given).run b.row with ⟨⟨value, flaws⟩, row⟩
  rw [hrun] at h htakes
  cases value with
  | none => cases h
  | some fields =>
      cases h
      refine ⟨fields, htakes fields rfl, ?_⟩
      unfold card?
      rw [Keyed.get?_insert_self, Option.bind_some, List.getElem?_concat_length]

end Bench

end Shopfloor
