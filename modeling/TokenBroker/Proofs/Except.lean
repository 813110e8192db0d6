/-!
# Computations that may fail

What a computation in `Except` has done if it ended well, step by step, so that later proofs take it
apart by `obtain` and not by cases on every step.
-/

variable {ε ε' α β γ : Type}

/-- A step that goes on has gone well, and so has what follows. -/
theorem Except.bind_eq_ok_iff {x : Except ε α} {f : α → Except ε β} {b : β} :
    x >>= f = .ok b ↔ ∃ a, x = .ok a ∧ f a = .ok b := by
  cases x <;> simp [bind, Except.bind]

/-- Steps fail where the first one fails, or else what follows it. -/
theorem Except.bind_eq_error_iff {x : Except ε α} {f : α → Except ε β} {error : ε} :
    x >>= f = .error error ↔ x = .error error ∨ ∃ a, x = .ok a ∧ f a = .error error := by
  cases x <;> simp [bind, Except.bind]

theorem Except.map_eq_error_iff {f : α → β} {x : Except ε α} {error : ε} :
    x.map f = .error error ↔ x = .error error := by
  cases x <;> simp [Except.map]

/-- Errors said in another way are errors still. -/
theorem Except.mapError_eq_error_iff {f : ε → ε'} {x : Except ε α} {error : ε'} :
    x.mapError f = .error error ↔ ∃ cause, x = .error cause ∧ f cause = error := by
  cases x with
  | error cause =>
    refine ⟨fun h ↦ ⟨cause, rfl, Except.error.inj h⟩, ?_⟩
    rintro ⟨_, ⟨⟩, rfl⟩
    rfl
  | ok a => exact ⟨nofun, fun ⟨_, h, _⟩ ↦ nomatch h⟩

/-- What succeeds with its errors said in another way succeeds as it is. -/
theorem Except.of_mapError_eq_ok {f : ε → ε'} {x : Except ε α} {a : α}
    (h : x.mapError f = .ok a) : x = .ok a := by
  cases x with
  | error cause => cases h
  | ok b => cases h; rfl

/-- Two computations with results that look the same fail alike or both succeed. -/
theorem Except.map_eq_map_iff {f : α → γ} {g : β → γ} {x : Except ε α} {y : Except ε β} :
    x.map f = y.map g ↔ (∃ error, x = .error error ∧ y = .error error) ∨
      ∃ a b, x = .ok a ∧ y = .ok b ∧ f a = g b := by
  cases x <;> cases y <;> simp [Except.map, eq_comm]

/-- What holds of every result of a reader holds of all that it reads from a list. -/
theorem Except.forall_of_mapM_eq_ok {read : α → Except ε β} {P : β → Prop}
    (hread : ∀ x y, read x = .ok y → P y) {xs : List α} {ys : List β}
    (h : xs.mapM read = .ok ys) : ∀ y ∈ ys, P y := by
  induction xs generalizing ys with
  | nil =>
    cases h
    exact fun y hy ↦ absurd hy List.not_mem_nil
  | cons x rest ih =>
    rw [List.mapM_cons, Except.bind_eq_ok_iff] at h
    obtain ⟨first, hfirst, h⟩ := h
    rw [Except.bind_eq_ok_iff] at h
    obtain ⟨later, hlater, h⟩ := h
    cases h
    exact List.forall_mem_cons.2 ⟨hread x first hfirst, ih hlater⟩

/-- A reader that reads back what was written of every item reads the list back. -/
theorem Except.mapM_map_of_forall {write : α → β} {read : β → Except ε α} {xs : List α}
    (h : ∀ x ∈ xs, read (write x) = .ok x) : (xs.map write).mapM read = .ok xs := by
  induction xs with
  | nil => rfl
  | cons x rest ih =>
    rw [List.map_cons, List.mapM_cons, h x List.mem_cons_self,
      ih fun y hy ↦ h y (List.mem_cons_of_mem _ hy)]
    rfl

/-- Reading a list fails where an item cannot be read and all before it can. -/
theorem Except.mapM_eq_error_iff {read : α → Except ε β} {xs : List α} {error : ε} :
    xs.mapM read = .error error ↔ ∃ before x after, xs = before ++ x :: after ∧
      (∀ y ∈ before, ∃ b, read y = .ok b) ∧ read x = .error error := by
  constructor
  · intro h
    induction xs with
    | nil => cases h
    | cons x rest ih =>
      rw [List.mapM_cons, Except.bind_eq_error_iff] at h
      obtain hfirst | ⟨b, hfirst, h⟩ := h
      · exact ⟨[], x, rest, rfl, fun _ hy ↦ absurd hy List.not_mem_nil, hfirst⟩
      · obtain hrest | ⟨_, -, hdone⟩ := Except.bind_eq_error_iff.1 h
        · obtain ⟨before, y, after, rfl, hbefore, hy⟩ := ih hrest
          exact ⟨x :: before, y, after, rfl, List.forall_mem_cons.2 ⟨⟨b, hfirst⟩, hbefore⟩, hy⟩
        · cases hdone
  · rintro ⟨before, x, after, rfl, hbefore, hx⟩
    induction before with
    | nil => rw [List.nil_append, List.mapM_cons, hx]; rfl
    | cons y before ih =>
      obtain ⟨⟨b, hy⟩, hrest⟩ := List.forall_mem_cons.1 hbefore
      rw [List.cons_append, List.mapM_cons, hy, ih hrest]
      rfl
