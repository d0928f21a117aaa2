import Mathlib.Data.List.Forall2

/-!
# Computations that may fail

When computations that follow one another succeed, and with which error they fail: that of the
first that does.
-/

namespace PathRouting

variable {α β γ ε ε' : Type}

theorem bind_eq_ok_iff {x : Except ε α} {next : α → Except ε β} {b : β} :
    (x >>= next) = .ok b ↔ ∃ a, x = .ok a ∧ next a = .ok b := by
  cases x <;> simp [bind, Except.bind]

theorem bind_eq_error_iff {x : Except ε α} {next : α → Except ε β} {e : ε} :
    (x >>= next) = .error e ↔ x = .error e ∨ ∃ a, x = .ok a ∧ next a = .error e := by
  cases x <;> simp [bind, Except.bind]

theorem bind_pure_eq_ok_iff {x : Except ε α} {f : α → β} {b : β} :
    (do return f (← x)) = Except.ok b ↔ ∃ a, x = .ok a ∧ b = f a := by
  cases x with
  | error e => simp [bind, Except.bind]
  | ok a => simp [bind, Except.bind, pure, Except.pure, eq_comm]

theorem bind_pure_eq_error_iff {x : Except ε α} {f : α → β} {e : ε} :
    (do return f (← x)) = Except.error e ↔ x = .error e := by
  cases x <;> simp [bind, Except.bind, pure, Except.pure]

theorem mapError_eq_ok_iff {x : Except ε α} {f : ε → ε'} {a : α} :
    x.mapError f = .ok a ↔ x = .ok a := by
  cases x <;> simp [Except.mapError]

theorem mapError_eq_error_iff {x : Except ε α} {f : ε → ε'} {e : ε'} :
    x.mapError f = .error e ↔ ∃ cause, x = .error cause ∧ e = f cause := by
  cases x <;> simp [Except.mapError, eq_comm]

theorem map_eq_ok_iff {x : Except ε α} {f : α → β} {b : β} :
    x.map f = .ok b ↔ ∃ a, x = .ok a ∧ f a = b := by
  cases x <;> simp [Except.map]

theorem map_eq_error_iff {x : Except ε α} {f : α → β} {e : ε} :
    x.map f = .error e ↔ x = .error e := by
  cases x <;> simp [Except.map]

theorem exists_ok_iff {x : Except ε α} : (∃ a, x = .ok a) ↔ ∀ e, x ≠ .error e := by
  cases x <;> simp

/-! ## Checks in order -/

/-- The error of the first item that is refused: the items before it are not. -/
inductive FirstRefusal (refuses : α → ε → Prop) : List α → ε → Prop where
  | here {item : α} {rest : List α} {e : ε} (refused : refuses item e) :
      FirstRefusal refuses (item :: rest) e
  | later {item : α} {rest : List α} {e : ε} (passes : ∀ other, ¬ refuses item other)
      (refused : FirstRefusal refuses rest e) : FirstRefusal refuses (item :: rest) e

section

variable {refuses : α → ε → Prop} {item : α} {earlier later rest : List α} {e : ε}

@[simp] theorem not_firstRefusal_nil : ¬ FirstRefusal refuses [] e := by
  rintro ⟨⟩

theorem firstRefusal_cons_iff : FirstRefusal refuses (item :: rest) e ↔
    refuses item e ∨ (∀ other, ¬ refuses item other) ∧ FirstRefusal refuses rest e := by
  constructor
  · rintro (refused | ⟨passes, refused⟩)
    · exact .inl refused
    · exact .inr ⟨passes, refused⟩
  · rintro (refused | ⟨passes, refused⟩)
    · exact .here refused
    · exact .later passes refused

theorem firstRefusal_singleton_iff : FirstRefusal refuses [item] e ↔ refuses item e := by
  simp [firstRefusal_cons_iff]

theorem forall_not_firstRefusal_iff : (∀ e, ¬ FirstRefusal refuses rest e) ↔
    ∀ item ∈ rest, ∀ e, ¬ refuses item e := by
  induction rest with
  | nil => simp
  | cons item rest ih =>
    simp only [firstRefusal_cons_iff, List.forall_mem_cons, ← ih]
    constructor
    · intro passes
      have first (e : ε) : ¬ refuses item e := fun refused => passes e (.inl refused)
      exact ⟨first, fun e refused => passes e (.inr ⟨first, refused⟩)⟩
    · rintro ⟨first, others⟩ e (refused | ⟨-, refused⟩)
      · exact first e refused
      · exact others e refused

theorem firstRefusal_map_iff {f : β → α} {items : List β} :
    FirstRefusal refuses (items.map f) e ↔
      FirstRefusal (fun item => refuses (f item)) items e := by
  induction items with
  | nil => simp
  | cons item rest ih => rw [List.map_cons, firstRefusal_cons_iff, firstRefusal_cons_iff, ih]

/-- Lists whose items are refused for corresponding errors have corresponding first errors. -/
theorem firstRefusal_iff_of_forall₂ {refuses' : β → ε' → Prop} {wrap : ε' → ε} {items : List α}
    {others : List β} (alike : List.Forall₂ (fun item other =>
      ∀ e, refuses item e ↔ ∃ cause, refuses' other cause ∧ e = wrap cause) items others) :
    FirstRefusal refuses items e ↔
      ∃ cause, FirstRefusal refuses' others cause ∧ e = wrap cause := by
  induction alike with
  | nil => simp
  | @cons item other items others first _ ih =>
    have passes : (∀ e, ¬ refuses item e) ↔ ∀ cause, ¬ refuses' other cause := by
      simp only [first]
      exact ⟨fun free cause refused => free _ ⟨cause, refused, rfl⟩,
        fun free _ ⟨cause, refused, _⟩ => free cause refused⟩
    rw [firstRefusal_cons_iff, passes, first, ih]
    simp only [firstRefusal_cons_iff]
    constructor
    · rintro (⟨cause, refused, rfl⟩ | ⟨free, cause, refused, rfl⟩)
      · exact ⟨cause, .inl refused, rfl⟩
      · exact ⟨cause, .inr ⟨free, refused⟩, rfl⟩
    · rintro ⟨cause, refused | ⟨free, refused⟩, rfl⟩
      · exact .inl ⟨cause, refused, rfl⟩
      · exact .inr ⟨free, cause, refused, rfl⟩

theorem firstRefusal_append_iff : FirstRefusal refuses (earlier ++ later) e ↔
    FirstRefusal refuses earlier e ∨
      (∀ other, ¬ FirstRefusal refuses earlier other) ∧ FirstRefusal refuses later e := by
  simp only [forall_not_firstRefusal_iff]
  induction earlier with
  | nil => simp
  | cons item rest ih =>
    rw [List.cons_append, firstRefusal_cons_iff, firstRefusal_cons_iff, ih, List.forall_mem_cons]
    tauto

/-- Computations that follow one another make their checks one after the other. -/
theorem bind_eq_error_iff_firstRefusal {x : Except ε β} {next : β → Except ε γ}
    (first : ∀ e, x = .error e ↔ FirstRefusal refuses earlier e)
    (second : ∀ b, x = .ok b → (next b = .error e ↔ FirstRefusal refuses later e)) :
    (x >>= next) = .error e ↔ FirstRefusal refuses (earlier ++ later) e := by
  have passes : (∃ b, x = .ok b) ↔ ∀ other, ¬ FirstRefusal refuses earlier other := by
    simp only [exists_ok_iff, ne_eq, first]
  rw [bind_eq_error_iff, firstRefusal_append_iff, ← passes, ← first]
  constructor
  · rintro (fails | ⟨b, ends, fails⟩)
    · exact .inl fails
    · exact .inr ⟨⟨b, ends⟩, (second b ends).mp fails⟩
  · rintro (fails | ⟨⟨b, ends⟩, fails⟩)
    · exact .inl fails
    · exact .inr ⟨b, ends, (second b ends).mpr fails⟩

theorem mapM_eq_error_iff {f : α → Except ε β} {items : List α}
    (fails : ∀ item e, f item = .error e ↔ refuses item e) :
    items.mapM f = .error e ↔ FirstRefusal refuses items e := by
  induction items with
  | nil => simp [pure, Except.pure]
  | cons item rest ih =>
    rw [List.mapM_cons, bind_eq_error_iff, firstRefusal_cons_iff, fails]
    simp only [bind_pure_eq_error_iff, ih, exists_and_right, exists_ok_iff, ne_eq, fails]

end

/-! ## Lists -/

theorem mapM_eq_ok_iff {f : α → Except ε β} {items : List α} {results : List β} :
    items.mapM f = .ok results ↔
      List.Forall₂ (fun item result => f item = .ok result) items results := by
  induction items generalizing results with
  | nil => cases results <;> simp [pure, Except.pure]
  | cons item rest ih =>
    rw [List.mapM_cons, bind_eq_ok_iff]
    constructor
    · rintro ⟨result, first, others⟩
      obtain ⟨tail, traversed, rfl⟩ := bind_pure_eq_ok_iff.mp others
      exact .cons first (ih.mp traversed)
    · rintro (_ | ⟨first, others⟩)
      exact ⟨_, first, bind_pure_eq_ok_iff.mpr ⟨_, ih.mpr others, rfl⟩⟩

end PathRouting
