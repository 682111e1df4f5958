import Mathlib.Data.List.Forall2

/-!
# Outcomes

Operations that can refuse, run one after another: the whole succeeds if each of its parts does.
-/

namespace SitePresets

variable {ε α β : Type}

theorem bind_eq_ok {x : Except ε α} {f : α → Except ε β} {b : β} :
    x >>= f = .ok b ↔ ∃ a, x = .ok a ∧ f a = .ok b := by
  cases x <;> simp [bind, Except.bind]

theorem bind_eq_error {x : Except ε α} {f : α → Except ε β} {e : ε} :
    x >>= f = .error e ↔ x = .error e ∨ ∃ a, x = .ok a ∧ f a = .error e := by
  cases x <;> simp [bind, Except.bind]

theorem map_eq_ok {x : Except ε α} {f : α → β} {b : β} :
    x.map f = .ok b ↔ ∃ a, x = .ok a ∧ f a = b := by
  cases x <;> simp [Except.map]

@[simp]
theorem ok_bind (a : α) (f : α → Except ε β) : (Except.ok a >>= f) = f a := rfl

@[simp]
theorem error_bind (e : ε) (f : α → Except ε β) : (Except.error e >>= f) = .error e := rfl

@[simp]
theorem pure_eq_ok (a : α) : (pure a : Except ε α) = .ok a := rfl

theorem mapError_eq_ok {ε' : Type} {x : Except ε α} {f : ε → ε'} {a : α} :
    x.mapError f = .ok a ↔ x = .ok a := by
  cases x with
  | error cause => exact iff_of_false nofun nofun
  | ok b => exact ⟨fun h => congrArg _ (Except.ok.inj h), fun h => congrArg _ (Except.ok.inj h)⟩

theorem mapError_eq_error {ε' : Type} {x : Except ε α} {f : ε → ε'} {e : ε'} :
    x.mapError f = .error e ↔ ∃ cause, x = .error cause ∧ f cause = e := by
  cases x with
  | ok b => exact iff_of_false nofun fun ⟨_, h, _⟩ => nomatch h
  | error cause =>
    refine ⟨fun h => ⟨cause, rfl, Except.error.inj h⟩, ?_⟩
    rintro ⟨_, h, rfl⟩
    rw [Except.error.inj h]
    rfl

theorem toOption_join_eq_some {x : Except ε (Option α)} {a : α} :
    x.toOption.join = some a ↔ x = .ok (some a) := by
  cases x with
  | error e => simp [Except.toOption]
  | ok found => simp [Except.toOption]

/-- A list of operations succeeds if each does, and the results come in order. -/
theorem mapM_eq_ok {f : α → Except ε β} {xs : List α} {ys : List β} :
    xs.mapM f = .ok ys ↔ List.Forall₂ (fun x y => f x = .ok y) xs ys := by
  induction xs generalizing ys with
  | nil => simp [eq_comm]
  | cons x rest ih =>
    rw [List.mapM_cons, bind_eq_ok]
    constructor
    · rintro ⟨y, hy, h⟩
      obtain ⟨more, hmore, h⟩ := bind_eq_ok.1 h
      obtain rfl := Except.ok.inj h
      exact .cons hy (ih.1 hmore)
    · rintro (_ | ⟨hy, hmore⟩)
      exact ⟨_, hy, bind_eq_ok.2 ⟨_, ih.2 hmore, rfl⟩⟩

theorem exists_mapM {f : α → Except ε β} {R : α → β → Prop} {xs : List α}
    (h : ∀ x ∈ xs, ∃ y, f x = .ok y ∧ R x y) :
    ∃ ys, xs.mapM f = .ok ys ∧ List.Forall₂ R xs ys := by
  induction xs with
  | nil => exact ⟨[], rfl, .nil⟩
  | cons x rest ih =>
    obtain ⟨y, hy, hxy⟩ := h x List.mem_cons_self
    obtain ⟨more, hmore, hrest⟩ := ih fun x hx => h x (List.mem_cons_of_mem _ hx)
    exact ⟨y :: more, mapM_eq_ok.2 (.cons hy (mapM_eq_ok.1 hmore)), .cons hxy hrest⟩

/-! ### Two outcomes -/

/-- Two operations that fail with the same error, or come to related results. -/
inductive SameOutcome (R : α → β → Prop) : Except ε α → Except ε β → Prop
  | ok {a : α} {b : β} (h : R a b) : SameOutcome R (.ok a) (.ok b)
  | error (e : ε) : SameOutcome R (.error e) (.error e)

namespace SameOutcome

variable {α' β' : Type} {R : α → β → Prop} {R' : α' → β' → Prop}

theorem bind {x : Except ε α} {y : Except ε β} {f : α → Except ε α'} {g : β → Except ε β'}
    (h : SameOutcome R x y) (hrest : ∀ a b, R a b → SameOutcome R' (f a) (g b)) :
    SameOutcome R' (x >>= f) (y >>= g) := by
  cases h with
  | ok h => exact hrest _ _ h
  | error e => exact .error e

theorem mapM {f : α' → Except ε α} {g : α' → Except ε β} {xs : List α'}
    (h : ∀ x ∈ xs, SameOutcome R (f x) (g x)) :
    SameOutcome (List.Forall₂ R) (xs.mapM f) (xs.mapM g) := by
  induction xs with
  | nil => exact .ok .nil
  | cons x rest ih =>
    rw [List.mapM_cons, List.mapM_cons]
    refine (h x List.mem_cons_self).bind fun a b hab => ?_
    refine (ih fun other hother => h other (List.mem_cons_of_mem _ hother)).bind fun as bs hrest => ?_
    exact .ok (.cons hab hrest)

theorem foldlM {f : α → α' → Except ε α} {g : β → α' → Except ε β} {xs : List α'} {a : α} {b : β}
    (hstep : ∀ a b, ∀ x ∈ xs, R a b → SameOutcome R (f a x) (g b x)) (hstart : R a b) :
    SameOutcome R (xs.foldlM f a) (xs.foldlM g b) := by
  induction xs generalizing a b with
  | nil => exact .ok hstart
  | cons x rest ih =>
    rw [List.foldlM_cons, List.foldlM_cons]
    refine (hstep a b x List.mem_cons_self hstart).bind fun a' b' h => ?_
    exact ih (fun a b other hother => hstep a b other (List.mem_cons_of_mem _ hother)) h

theorem refl (x : Except ε α) : SameOutcome Eq x x := by
  cases x with
  | ok a => exact .ok rfl
  | error e => exact .error e

theorem map {x : Except ε α} {y : Except ε β} {f : α → α'} {g : β → β'} (h : SameOutcome R x y)
    (hresult : ∀ a b, R a b → R' (f a) (g b)) : SameOutcome R' (x.map f) (y.map g) := by
  cases h with
  | ok h => exact .ok (hresult _ _ h)
  | error e => exact .error e

theorem map_eq {x : Except ε α} {y : Except ε β} {f : α → α'} {g : β → α'} (h : SameOutcome R x y)
    (hresult : ∀ a b, R a b → g b = f a) : y.map g = x.map f := by
  cases h with
  | ok h => exact congrArg Except.ok (hresult _ _ h)
  | error e => rfl

theorem mapError {ε' : Type} {x : Except ε α} {y : Except ε β} (h : SameOutcome R x y)
    (f : ε → ε') : SameOutcome R (x.mapError f) (y.mapError f) := by
  cases h with
  | ok h => exact .ok h
  | error e => exact .error (f e)

end SameOutcome

end SitePresets
