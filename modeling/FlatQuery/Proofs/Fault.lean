/-!
# Computations that may fail

One computation after another succeeds exactly if both do (`bind_eq_ok_iff`),
and a list of them fails with the first that fails (`mapM_eq_error_iff`). What
holds of every error of the parts holds of every error of the whole
(`Fails.bind`).
-/

namespace FlatQuery

variable {ε α β : Type}

/-! ## Success -/

theorem bind_eq_ok_iff {x : Except ε α} {f : α → Except ε β} {b : β} :
    x >>= f = .ok b ↔ ∃ a, x = .ok a ∧ f a = .ok b := by
  cases x with
  | error e => simp [bind, Except.bind]
  | ok a => simp [bind, Except.bind]

theorem map_eq_ok_iff {x : Except ε α} {f : α → β} {b : β} :
    x.map f = .ok b ↔ ∃ a, x = .ok a ∧ f a = b := by
  cases x <;> simp [Except.map]

theorem pure_eq_ok_iff {a b : α} : (pure a : Except ε α) = .ok b ↔ a = b := by
  simp [pure, Except.pure]

theorem mapM_none_eq_ok_iff {f : α → Except ε β} {r : Option β} :
    (none : Option α).mapM f = .ok r ↔ r = none := by
  simp [pure, Except.pure, eq_comm]

theorem mapM_some_eq_ok_iff {f : α → Except ε β} {x : α} {r : Option β} :
    (some x).mapM f = .ok r ↔ ∃ y, f x = .ok y ∧ r = some y := by
  cases h : f x <;> simp [h, Functor.map, Except.map, eq_comm]

theorem mapM_cons_eq_ok_iff {f : α → Except ε β} {a : α} {l : List α} {r : List β} :
    (a :: l).mapM f = .ok r ↔ ∃ b bs, f a = .ok b ∧ l.mapM f = .ok bs ∧ r = b :: bs := by
  rw [List.mapM_cons]
  simp only [bind_eq_ok_iff, pure_eq_ok_iff]
  constructor
  · intro h
    obtain ⟨b, hb, bs, hbs, rfl⟩ := h
    exact ⟨b, bs, hb, hbs, rfl⟩
  · intro h
    obtain ⟨b, bs, hb, hbs, rfl⟩ := h
    exact ⟨b, hb, bs, hbs, rfl⟩

theorem length_of_mapM {f : α → Except ε β} {l : List α} {r : List β} (h : l.mapM f = .ok r) :
    r.length = l.length := by
  induction l generalizing r with
  | nil =>
    rw [List.mapM_nil, pure_eq_ok_iff] at h
    rw [← h]; rfl
  | cons a l ih =>
    obtain ⟨b, bs, -, hbs, rfl⟩ := mapM_cons_eq_ok_iff.mp h
    rw [List.length_cons, List.length_cons, ih hbs]

/-! ## Errors -/

theorem bind_eq_error_iff {x : Except ε α} {f : α → Except ε β} {e : ε} :
    x >>= f = .error e ↔ x = .error e ∨ ∃ a, x = .ok a ∧ f a = .error e := by
  cases x with
  | error e' => simp [bind, Except.bind]
  | ok a => simp [bind, Except.bind]

/-- The first element that fails gives the error of the list. -/
theorem mapM_eq_error_iff {f : α → Except ε β} {l : List α} {e : ε} :
    l.mapM f = .error e ↔
      ∃ xs x ys, l = xs ++ x :: ys ∧ (∀ y ∈ xs, ∃ b, f y = .ok b) ∧ f x = .error e := by
  induction l with
  | nil => simp [pure, Except.pure]
  | cons a l ih =>
    rw [List.mapM_cons, bind_eq_error_iff]
    simp only [bind_eq_error_iff, ih]
    constructor
    · intro h
      obtain ha | ⟨b, ha, ⟨xs, x, ys, rfl, hxs, hx⟩ | ⟨bs, -, h⟩⟩ := h
      · exact ⟨[], a, l, rfl, by simp, ha⟩
      · exact ⟨a :: xs, x, ys, rfl, by simpa using ⟨⟨b, ha⟩, hxs⟩, hx⟩
      · cases h
    · intro h
      obtain ⟨xs, x, ys, hl, hxs, hx⟩ := h
      cases xs with
      | nil =>
        cases hl
        exact .inl hx
      | cons y xs =>
        obtain ⟨rfl, rfl⟩ := List.cons.inj hl
        obtain ⟨b, hb⟩ := hxs a (by simp)
        exact .inr ⟨b, hb, .inl ⟨xs, x, ys, rfl, fun y hy => hxs y (by simp [hy]), hx⟩⟩

/-- If this computation fails, its error is one of these. -/
def Fails (P : ε → Prop) (x : Except ε α) : Prop := ∀ e, x = .error e → P e

variable {P Q : ε → Prop}

theorem fails_ok (a : α) : Fails P (.ok a : Except ε α) := nofun

theorem fails_error {e : ε} (h : P e) : Fails P (.error e : Except ε α) := by
  intro e' he
  cases he
  exact h

theorem Fails.bind {x : Except ε α} {f : α → Except ε β} (hx : Fails P x)
    (hf : ∀ a, Fails P (f a)) : Fails P (x >>= f) := by
  cases x with
  | error e => exact fails_error (hx e rfl)
  | ok a => exact hf a

theorem Fails.mapM {f : α → Except ε β} (hf : ∀ a, Fails P (f a)) (l : List α) :
    Fails P (l.mapM f) := by
  induction l with
  | nil => exact fails_ok []
  | cons a l ih =>
    rw [List.mapM_cons]
    apply (hf a).bind
    intro b
    exact ih.bind fun bs => fails_ok (b :: bs)

theorem Fails.option {f : α → Except ε β} (hf : ∀ a, Fails P (f a)) (o : Option α) :
    Fails P (o.mapM f) := by
  cases o with
  | none => exact fails_ok none
  | some a => exact (hf a).bind fun b => fails_ok (some b)

end FlatQuery
