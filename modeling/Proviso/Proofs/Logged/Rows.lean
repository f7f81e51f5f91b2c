/-
  Proviso/Proofs/Logged/Rows.lean
  ===============================
  **Where results and errors come from.**

  A sequence of two computations succeeds iff both do, and its error is that of one of them.  A
  row succeeds iff each of its members does (`result_forEach_eq_ok_iff`); a row that stops at the
  first verdict other than the neutral one has that verdict, or the neutral one from all members
  (`result_untilOther_eq_ok`).  Either way an error of the row is the error of a member.

  Two sequences are compared step by step where their results are related or their errors are the
  same (`Matched`), or where one has the result of the other or one certain error (`bind_ok_or`).
-/
import Mathlib.Data.List.Forall2
import Proviso.Logged

namespace Proviso

variable {ε α β : Type}

/-- What is told of the right row alone is told of its members. -/
theorem forall_mem_of_forall₂ {q : β → Prop} {as : List α} {bs : List β}
    (h : List.Forall₂ (fun _ b => q b) as bs) : ∀ b ∈ bs, q b := by
  induction h with
  | nil => exact List.forall_mem_nil _
  | cons hb _ ih => exact List.forall_mem_cons.mpr ⟨hb, ih⟩

theorem forall_mem_iff_of_forall₂ {p : α → Prop} {q : β → Prop} {as : List α} {bs : List β}
    (h : List.Forall₂ (fun a b => p a ↔ q b) as bs) : (∀ a ∈ as, p a) ↔ ∀ b ∈ bs, q b := by
  induction h with
  | nil => exact iff_of_true (List.forall_mem_nil _) (List.forall_mem_nil _)
  | cons hab _ ih => rw [List.forall_mem_cons, List.forall_mem_cons, hab, ih]

theorem eq_nil_iff_of_forall₂ {R : α → β → Prop} {as : List α} {bs : List β}
    (h : List.Forall₂ R as bs) : as = [] ↔ bs = [] := by
  rw [← List.length_eq_zero_iff, h.length_eq, List.length_eq_zero_iff]

theorem findSome?_congr {f g : α → Option β} {as : List α} (h : ∀ a ∈ as, f a = g a) :
    as.findSome? f = as.findSome? g := by
  induction as with
  | nil => rfl
  | cons a rest ih =>
    rw [List.forall_mem_cons] at h
    rw [List.findSome?_cons, List.findSome?_cons, h.1, ih h.2]

/-! ### Plain results -/

theorem bind_eq_ok_iff {x : Except ε α} {f : α → Except ε β} {b : β} :
    (x >>= f) = .ok b ↔ ∃ a, x = .ok a ∧ f a = .ok b := by
  cases x with
  | error e => simp [bind, Except.bind]
  | ok a => simp [bind, Except.bind]

theorem eq_ok_of_toOption_eq_some {x : Except ε α} {a : α} (h : x.toOption = some a) :
    x = .ok a := by
  cases x with
  | error e => cases h
  | ok b => exact congrArg Except.ok (Option.some.inj h)

theorem bind_eq_error_iff {x : Except ε α} {f : α → Except ε β} {e : ε} :
    (x >>= f) = .error e ↔ x = .error e ∨ ∃ a, x = .ok a ∧ f a = .error e := by
  cases x with
  | error e => simp [bind, Except.bind]
  | ok a => simp [bind, Except.bind]

theorem map_eq_ok_iff {x : Except ε α} {f : α → β} {b : β} :
    x.map f = .ok b ↔ ∃ a, x = .ok a ∧ f a = b := by
  cases x with
  | error e => simp [Except.map]
  | ok a => simp [Except.map]

/-- If both computations succeed or have the error `e`, so does their sequence. -/
theorem bind_ok_or {x : Except ε α} {f : α → Except ε β} {a : α} {b : β} {e : ε}
    (hx : x = .ok a ∨ x = .error e) (hf : f a = .ok b ∨ f a = .error e) :
    (x >>= f) = .ok b ∨ (x >>= f) = .error e := by
  rcases hx with rfl | rfl
  · exact hf
  · exact Or.inr rfl

/-- The error of a result. -/
def error? : Except ε α → Option ε
  | .ok _ => none
  | .error e => some e

@[simp] theorem error?_ok (a : α) : error? (.ok a : Except ε α) = none := rfl

@[simp] theorem error?_error (e : ε) : error? (.error e : Except ε α) = some e := rfl

theorem error?_eq_some_iff {x : Except ε α} {e : ε} : error? x = some e ↔ x = .error e := by
  cases x <;> simp

theorem error?_eq_none_iff {x : Except ε α} : error? x = none ↔ ∃ a, x = .ok a := by
  cases x <;> simp

/-- If the error of the second computation does not depend on what the first gives, then the two
    have the error of the first, or else that of the second. -/
theorem error?_bind {x : Except ε α} {f : α → Except ε β} {e : Option ε}
    (h : ∀ a, x = .ok a → error? (f a) = e) : error? (x >>= f) = (error? x).or e := by
  cases x with
  | error e => rfl
  | ok a =>
    have hf : error? (f a) = e := h a rfl
    simpa [bind, Except.bind] using hf

theorem exists_of_mapM_eq_error {f : α → Except ε β} {as : List α} {e : ε}
    (h : as.mapM f = .error e) : ∃ a ∈ as, f a = .error e := by
  induction as with
  | nil => cases h
  | cons a rest ih =>
    rw [List.mapM_cons, bind_eq_error_iff] at h
    rcases h with h | ⟨b, -, h⟩
    · exact ⟨a, List.mem_cons_self, h⟩
    · rcases bind_eq_error_iff.mp h with h | ⟨bs, -, h⟩
      · obtain ⟨a', ha', h⟩ := ih h
        exact ⟨a', List.mem_cons_of_mem a ha', h⟩
      · cases h

/-- The error of a row is that of its first member that has one. -/
theorem error?_mapM (f : α → Except ε β) (as : List α) :
    error? (as.mapM f) = as.findSome? fun a => error? (f a) := by
  induction as with
  | nil => rfl
  | cons a rest ih =>
    have hrest : ∀ b, f a = .ok b →
        error? (rest.mapM f >>= fun bs => (pure (b :: bs) : Except ε (List β))) =
          rest.findSome? fun a => error? (f a) := by
      intro b _
      rw [error?_bind (e := none) (fun _ _ => rfl), ih, Option.or_none]
    rw [List.mapM_cons, error?_bind hrest, List.findSome?_cons]
    cases error? (f a) <;> rfl

theorem mapM_eq_ok_iff {f : α → Except ε β} {as : List α} {bs : List β} :
    as.mapM f = .ok bs ↔ List.Forall₂ (fun a b => f a = .ok b) as bs := by
  induction as generalizing bs with
  | nil =>
    rw [List.mapM_nil, List.forall₂_nil_left_iff]
    exact ⟨fun h => (Except.ok.inj h).symm, fun h => h ▸ rfl⟩
  | cons a rest ih =>
    rw [List.mapM_cons, bind_eq_ok_iff, List.forall₂_cons_left_iff]
    constructor
    · rintro ⟨b, hb, h⟩
      obtain ⟨bs', hbs, h⟩ := bind_eq_ok_iff.mp h
      exact ⟨b, bs', hb, ih.mp hbs, (Except.ok.inj h).symm⟩
    · rintro ⟨b, bs', hb, hbs, rfl⟩
      exact ⟨b, hb, bind_eq_ok_iff.mpr ⟨bs', ih.mpr hbs, rfl⟩⟩

theorem exists_of_mem_of_mapM_eq_ok {f : α → Except ε β} {as : List α} {bs : List β}
    (h : as.mapM f = .ok bs) {a : α} (ha : a ∈ as) : ∃ b, f a = .ok b := by
  rw [mapM_eq_ok_iff] at h
  induction h with
  | nil => exact absurd ha List.not_mem_nil
  | cons hb _ ih =>
    rcases List.mem_cons.mp ha with rfl | ha
    · exact ⟨_, hb⟩
    · exact ih ha

/-- Rows have the same result if their members have, where both is told only short of the errors
    that are `bad`. -/
theorem mapM_congr_unless (bad : ε → Prop) {f g : α → Except ε β} {as : List α}
    (h : ∀ a ∈ as, (∀ e, bad e → f a ≠ .error e) → f a = g a)
    (hrow : ∀ e, bad e → as.mapM f ≠ .error e) : as.mapM f = as.mapM g := by
  induction as with
  | nil => rfl
  | cons a rest ih =>
    rw [List.forall_mem_cons] at h
    -- a bad error of the first would be that of the row
    have hfirst : f a = g a := by
      apply h.1
      intro e hbad he
      apply hrow e hbad
      rw [List.mapM_cons, bind_eq_error_iff]
      exact Or.inl he
    rw [List.mapM_cons, List.mapM_cons, ← hfirst]
    cases hb : f a with
    | error e => rfl
    | ok b =>
      have hrest : rest.mapM f = rest.mapM g := by
        apply ih h.2
        intro e hbad he
        apply hrow e hbad
        rw [List.mapM_cons, bind_eq_error_iff]
        exact Or.inr ⟨b, hb, bind_eq_error_iff.mpr (Or.inl he)⟩
      rw [hrest]

/-- Two results that are related, or the same error twice. -/
inductive Matched (R : α → β → Prop) : Except ε α → Except ε β → Prop where
  | ok {a b} (h : R a b) : Matched R (.ok a) (.ok b)
  | error (e : ε) : Matched R (.error e) (.error e)

namespace Matched

variable {γ δ : Type} {R : α → β → Prop} {S : γ → δ → Prop} {x : Except ε α} {y : Except ε β}

theorem refl {R : α → α → Prop} (hR : ∀ a, R a a) (x : Except ε α) : Matched R x x := by
  cases x with
  | ok a => exact .ok (hR a)
  | error e => exact .error e

theorem bind (h : Matched R x y) {f : α → Except ε γ} {g : β → Except ε δ}
    (hfg : ∀ a b, R a b → Matched S (f a) (g b)) : Matched S (x >>= f) (y >>= g) := by
  cases h with
  | ok hab => exact hfg _ _ hab
  | error e => exact .error e

theorem bind_eq (h : Matched R x y) {f : α → Except ε γ} {g : β → Except ε γ}
    (hfg : ∀ a b, R a b → f a = g b) : x >>= f = y >>= g := by
  cases h with
  | ok hab => exact hfg _ _ hab
  | error e => rfl

end Matched

namespace Logged

/-! ### Two computations -/

theorem result_bind_eq_ok_iff {x : Logged ε α} {f : α → Logged ε β} {b : β} :
    (x >>= f).result = .ok b ↔ ∃ a, x.result = .ok a ∧ (f a).result = .ok b := by
  rw [result_bind, bind_eq_ok_iff]

theorem result_bind_eq_error_iff {x : Logged ε α} {f : α → Logged ε β} {e : ε} :
    (x >>= f).result = .error e ↔
      x.result = .error e ∨ ∃ a, x.result = .ok a ∧ (f a).result = .error e := by
  rw [result_bind, bind_eq_error_iff]

/-- What comes second matters only for the result that the first has. -/
theorem bind_congr_of_result {x : Logged ε α} {f g : α → Logged ε β}
    (h : ∀ a, x.result = .ok a → f a = g a) : x >>= f = x >>= g := by
  obtain ⟨events, result⟩ := x
  cases result with
  | error e => rfl
  | ok a =>
    show (⟨events ++ (f a).events, (f a).result⟩ : Logged ε β) =
      ⟨events ++ (g a).events, (g a).result⟩
    rw [h a rfl]

/-! ### Rows -/

theorem result_forEach_eq_ok_iff {f : α → Logged ε β} {as : List α} {bs : List β} :
    (forEach f as).result = .ok bs ↔ List.Forall₂ (fun a b => (f a).result = .ok b) as bs := by
  induction as generalizing bs with
  | nil =>
    rw [forEach, result_pure, List.forall₂_nil_left_iff]
    exact ⟨fun h => (Except.ok.inj h).symm, fun h => h ▸ rfl⟩
  | cons a rest ih =>
    rw [forEach, result_bind_eq_ok_iff, List.forall₂_cons_left_iff]
    constructor
    · rintro ⟨b, hb, h⟩
      obtain ⟨bs', hbs, h⟩ := result_bind_eq_ok_iff.mp h
      exact ⟨b, bs', hb, ih.mp hbs, (Except.ok.inj h).symm⟩
    · rintro ⟨b, bs', hb, hbs, rfl⟩
      exact ⟨b, hb, result_bind_eq_ok_iff.mpr ⟨bs', ih.mpr hbs, rfl⟩⟩

/-- The result of a row depends on nothing but the results of its members. -/
theorem result_forEach_congr {α' : Type} {f : α → Logged ε β} {g : α' → Logged ε β}
    {as : List α} {as' : List α'}
    (h : List.Forall₂ (fun a a' => (f a).result = (g a').result) as as') :
    (forEach f as).result = (forEach g as').result := by
  induction h with
  | nil => rfl
  | cons ha _ ih => simp only [forEach, result_bind, ha, ih]

theorem exists_of_result_forEach_eq_error {f : α → Logged ε β} {as : List α} {e : ε}
    (h : (forEach f as).result = .error e) : ∃ a ∈ as, (f a).result = .error e := by
  induction as with
  | nil => cases h
  | cons a rest ih =>
    rw [forEach, result_bind_eq_error_iff] at h
    rcases h with h | ⟨b, -, h⟩
    · exact ⟨a, List.mem_cons_self, h⟩
    · rcases result_bind_eq_error_iff.mp h with h | ⟨bs, -, h⟩
      · obtain ⟨a', ha', h⟩ := ih h
        exact ⟨a', List.mem_cons_of_mem a ha', h⟩
      · cases h

/-- A row whose end succeeds has the result of its front, continued by that of the end. -/
theorem result_forEach_append {f : α → Logged ε β} {as as' : List α} {bs' : List β}
    (h : (forEach f as').result = .ok bs') :
    (forEach f (as ++ as')).result = (forEach f as).result.map (· ++ bs') := by
  induction as with
  | nil => exact h
  | cons a rest ih =>
    rw [List.cons_append, forEach, result_bind, forEach, result_bind]
    cases (f a).result with
    | error e => rfl
    | ok b =>
      show (forEach f (rest ++ as') >>= fun bs => return b :: bs : Logged ε (List β)).result =
        ((forEach f rest >>= fun bs => return b :: bs : Logged ε (List β)).result).map (· ++ bs')
      rw [result_bind, ih, result_bind]
      cases (forEach f rest).result <;> rfl

/-- If each member of a row succeeds or has the error `e`, so does the row. -/
theorem result_forEach_ok_or {f : α → Logged ε β} {as : List α} {bs : List β} {e : ε}
    (h : List.Forall₂ (fun a b => (f a).result = .ok b ∨ (f a).result = .error e) as bs) :
    (forEach f as).result = .ok bs ∨ (forEach f as).result = .error e := by
  induction h with
  | nil => exact Or.inl rfl
  | cons hb _ ih =>
    rw [forEach, result_bind]
    refine bind_ok_or hb ?_
    rw [result_bind]
    exact bind_ok_or ih (Or.inl rfl)

/-- The error of a row is that of its first member that has one. -/
theorem error?_forEach (f : α → Logged ε β) (as : List α) :
    error? (forEach f as).result = as.findSome? fun a => error? (f a).result := by
  induction as with
  | nil => rfl
  | cons a rest ih =>
    have hrest : ∀ b, (f a).result = .ok b →
        error? ((forEach f rest >>= fun bs => return b :: bs : Logged ε (List β)).result) =
          rest.findSome? fun a => error? (f a).result := by
      intro b _
      rw [result_bind, error?_bind (e := none) (fun _ _ => rfl), ih, Option.or_none]
    rw [forEach, result_bind, error?_bind hrest, List.findSome?_cons]
    cases error? (f a).result <;> rfl

/-- A row that goes on while verdicts are `neutral` ends with that verdict from all its members,
    or with the other verdict from one of them. -/
theorem result_untilOther_eq_ok {neutral : Bool} {f : α → Logged ε Bool} {as : List α} {b : Bool}
    (h : (untilOther neutral f as).result = .ok b) :
    (b = neutral ∧ ∀ a ∈ as, (f a).result = .ok neutral) ∨
      (b ≠ neutral ∧ ∃ a ∈ as, (f a).result = .ok b) := by
  induction as with
  | nil =>
    have hb : neutral = b := Except.ok.inj h
    exact Or.inl ⟨hb.symm, fun a ha => absurd ha List.not_mem_nil⟩
  | cons a rest ih =>
    rw [untilOther] at h
    obtain ⟨verdict, ha, h⟩ := result_bind_eq_ok_iff.mp h
    by_cases hv : verdict = neutral
    · -- the first member leaves the verdict to the rest
      rw [if_pos hv] at h
      subst hv
      rcases ih h with ⟨hb, hall⟩ | ⟨hb, a', ha', hres⟩
      · refine Or.inl ⟨hb, fun a' ha' => ?_⟩
        rcases List.mem_cons.mp ha' with rfl | ha'
        · exact ha
        · exact hall a' ha'
      · exact Or.inr ⟨hb, a', List.mem_cons_of_mem a ha', hres⟩
    · rw [if_neg hv] at h
      have hb : verdict = b := Except.ok.inj h
      subst hb
      exact Or.inr ⟨hv, a, List.mem_cons_self, ha⟩

/-- Rows are alike if their members are, where both is told only short of the errors that are
    `bad`. -/
theorem untilOther_congr_unless (bad : ε → Prop) {neutral : Bool} {f g : α → Logged ε Bool}
    {as : List α} (h : ∀ a ∈ as, (∀ e, bad e → (f a).result ≠ .error e) → f a = g a)
    (hrow : ∀ e, bad e → (untilOther neutral f as).result ≠ .error e) :
    untilOther neutral f as = untilOther neutral g as := by
  induction as with
  | nil => rfl
  | cons a rest ih =>
    rw [List.forall_mem_cons] at h
    -- a bad error of the first would be that of the row, and the rest counts only if it is come to
    have hfirst : f a = g a := by
      apply h.1
      intro e hbad he
      apply hrow e hbad
      rw [untilOther, result_bind_eq_error_iff]
      exact Or.inl he
    rw [untilOther, untilOther, ← hfirst]
    apply bind_congr_of_result
    intro verdict hverdict
    by_cases hv : verdict = neutral
    · rw [if_pos hv, if_pos hv]
      apply ih h.2
      intro e hbad he
      apply hrow e hbad
      rw [untilOther, result_bind_eq_error_iff]
      refine Or.inr ⟨verdict, hverdict, ?_⟩
      rw [if_pos hv]
      exact he
    · rw [if_neg hv, if_neg hv]

theorem untilOther_congr {neutral : Bool} {f g : α → Logged ε Bool} {as : List α}
    (h : ∀ a ∈ as, f a = g a) : untilOther neutral f as = untilOther neutral g as := by
  apply untilOther_congr_unless fun _ => False
  · intro a ha _
    exact h a ha
  · intro e hbad
    exact hbad.elim

theorem result_untilOther_singleton (neutral : Bool) (f : α → Logged ε Bool) (a : α) :
    (untilOther neutral f [a]).result = (f a).result := by
  rw [untilOther, result_bind]
  cases (f a).result with
  | error e => rfl
  | ok verdict =>
    show (if verdict = neutral then pure neutral else pure verdict : Logged ε Bool).result = _
    by_cases hv : verdict = neutral
    · rw [if_pos hv, hv, result_pure]
    · rw [if_neg hv, result_pure]

theorem exists_of_result_untilOther_eq_error {neutral : Bool} {f : α → Logged ε Bool}
    {as : List α} {e : ε} (h : (untilOther neutral f as).result = .error e) :
    ∃ a ∈ as, (f a).result = .error e := by
  induction as with
  | nil => cases h
  | cons a rest ih =>
    rw [untilOther, result_bind_eq_error_iff] at h
    rcases h with h | ⟨verdict, -, h⟩
    · exact ⟨a, List.mem_cons_self, h⟩
    · by_cases hv : verdict = neutral
      · rw [if_pos hv] at h
        obtain ⟨a', ha', h⟩ := ih h
        exact ⟨a', List.mem_cons_of_mem a ha', h⟩
      · rw [if_neg hv] at h
        cases h

end Logged

end Proviso
