import Mathlib.Data.List.Forall2

/-!
# Rust results

`Result`-returning Rust code is modelled in `Except`; `?` is its bind and
`collect::<Result<Vec<_>, _>>()` is `List.mapM`, which stops at the first error.
A call that may also panic ends in an `Outcome`.
-/

namespace Pulsar

variable {ε α β : Type}

/-- How a call of a Rust function ends: with the `Ok` or `Err` of its `Result`, or in a panic
carrying the panic's message. -/
inductive Outcome (ε α : Type) where
  | ok (value : α)
  | err (error : ε)
  | panic (message : String)

theorem except_bind_ok (x : Except ε α) (f : α → Except ε β) (b : β) :
    x >>= f = .ok b ↔ ∃ a, x = .ok a ∧ f a = .ok b := by
  cases x <;> simp [bind, Except.bind]

theorem except_bind_error (x : Except ε α) (f : α → Except ε β) (e : ε) :
    x >>= f = .error e ↔ x = .error e ∨ ∃ a, x = .ok a ∧ f a = .error e := by
  cases x <;> simp [bind, Except.bind]

@[simp] theorem except_mapError_ok {ε' : Type} (f : ε → ε') (x : Except ε α) (a : α) :
    x.mapError f = .ok a ↔ x = .ok a := by
  cases x <;> simp [Except.mapError]

@[simp] theorem except_mapError_error {ε' : Type} (f : ε → ε') (x : Except ε α) (e : ε') :
    x.mapError f = .error e ↔ ∃ e₀, x = .error e₀ ∧ e = f e₀ := by
  cases x <;> simp [Except.mapError, eq_comm]

theorem mapM_ok_iff (f : α → Except ε β) (l : List α) (bs : List β) :
    l.mapM f = .ok bs ↔ List.Forall₂ (fun a b => f a = .ok b) l bs := by
  induction l generalizing bs with
  | nil => rw [List.mapM_nil]; cases bs <;> simp [pure, Except.pure]
  | cons a l ih =>
    simp only [List.mapM_cons, except_bind_ok, ih]
    cases bs <;> simp [pure, Except.pure, List.forall₂_cons]

theorem mapM_ok_of_forall (f : α → Except ε β) (l : List α) (h : ∀ a ∈ l, ∃ b, f a = .ok b) :
    ∃ bs, l.mapM f = .ok bs := by
  simp only [mapM_ok_iff]
  induction l with
  | nil => exact ⟨[], .nil⟩
  | cons a l ih =>
    obtain ⟨b, hb⟩ := h a (List.mem_cons_self _ _)
    obtain ⟨bs, hbs⟩ := ih fun x hx => h x (List.mem_cons_of_mem _ hx)
    exact ⟨b :: bs, .cons hb hbs⟩

theorem mapM_error_iff (f : α → Except ε β) (l : List α) (e : ε) :
    l.mapM f = .error e ↔
      ∃ pre a post, l = pre ++ a :: post ∧ (∀ x ∈ pre, ∃ b, f x = .ok b) ∧ f a = .error e := by
  induction l with
  | nil => rw [List.mapM_nil]; simp [pure, Except.pure]
  | cons a l ih =>
    simp only [List.mapM_cons, except_bind_error, ih, pure, Except.pure, reduceCtorEq, and_false,
      exists_false, or_false]
    constructor
    · rintro (h | ⟨b, hb, pre, x, post, rfl, hpre, hx⟩)
      · exact ⟨[], a, l, rfl, by simp, h⟩
      · exact ⟨a :: pre, x, post, rfl, by simpa [hb] using hpre, hx⟩
    · rintro ⟨_ | ⟨y, pre⟩, x, post, h, hpre, hx⟩
      · obtain ⟨rfl, rfl⟩ := List.cons.inj h
        exact .inl hx
      · obtain ⟨rfl, rfl⟩ := List.cons.inj h
        obtain ⟨b, hb⟩ := hpre a (by simp)
        exact .inr ⟨b, hb, pre, x, post, rfl, fun z hz => hpre z (by simp [hz]), hx⟩

theorem forall₂_comp_iff {γ : Type} (R : α → β → Prop) (S : β → γ → Prop) (as : List α)
    (cs : List γ) :
    (∃ bs, List.Forall₂ R as bs ∧ List.Forall₂ S bs cs) ↔
      List.Forall₂ (fun a c => ∃ b, R a b ∧ S b c) as cs := by
  induction as generalizing cs with
  | nil => simp
  | cons a as ih =>
    cases cs with
    | nil => simp
    | cons c cs =>
      rw [List.forall₂_cons, ← ih]
      constructor
      · rintro ⟨_ | ⟨b, bs⟩, h₁, h₂⟩
        · cases h₁
        · rw [List.forall₂_cons] at h₁ h₂
          exact ⟨⟨b, h₁.1, h₂.1⟩, bs, h₁.2, h₂.2⟩
      · rintro ⟨⟨b, hab, hbc⟩, bs, hbs, hcs⟩
        exact ⟨b :: bs, .cons hab hbs, .cons hbc hcs⟩

end Pulsar
