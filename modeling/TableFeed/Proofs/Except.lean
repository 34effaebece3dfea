/-!
# Steps that may fail

What is known of the steps when a result comes out of several of them.  Steps on a state are
done one after the other, up to the first that fails (`andThen`, `performAll`); doing two
lists of them in a row is doing the one list that they make (`performAll_append`).
-/

namespace TableFeed

variable {ε ε' α β : Type}

theorem map_eq_ok_iff {f : α → β} {result : Except ε α} {b : β} :
    result.map f = .ok b ↔ ∃ a, result = .ok a ∧ f a = b := by
  cases result with
  | error error => simp [Except.map]
  | ok a => simp [Except.map]

theorem bind_eq_ok_iff {step : Except ε α} {next : α → Except ε β} {result : β} :
    step >>= next = .ok result ↔ ∃ value, step = .ok value ∧ next value = .ok result := by
  cases step with
  | error error => simp [bind, Except.bind]
  | ok value => simp [bind, Except.bind]

/-- A result comes from a step that succeeded and from what follows it. -/
theorem exists_of_bind_eq_ok {step : Except ε α} {next : α → Except ε β} {result : β}
    (h : step >>= next = .ok result) : ∃ value, step = .ok value ∧ next value = .ok result :=
  bind_eq_ok_iff.1 h

/-- After a check there is a result just when the check held. -/
theorem ite_throw_bind_eq_ok_iff {c : Prop} [Decidable c] {error : ε} {next : α → Except ε β}
    {rest : Except ε β} {result : β} :
    (if c then (throw error : Except ε α) >>= next else rest) = .ok result ↔
      ¬ c ∧ rest = .ok result := by
  by_cases hc : c
  · simp [hc, throw, throwThe, MonadExceptOf.throw, bind, Except.bind]
  · simp [hc]

theorem eq_ok_of_mapError {step : Except ε α} {f : ε → ε'} {result : α}
    (h : step.mapError f = .ok result) : step = .ok result := by
  cases step with
  | error error => cases h
  | ok value =>
    cases h
    rfl

theorem bind_eq_error {step : Except ε α} {next : α → Except ε β} {error : ε}
    (h : step >>= next = .error error) :
    step = .error error ∨ ∃ value, step = .ok value ∧ next value = .error error := by
  cases step with
  | error error' =>
    cases h
    exact .inl rfl
  | ok value => exact .inr ⟨value, rfl, h⟩

theorem exists_of_mapM_eq_error {f : α → Except ε β} {items : List α} {error : ε}
    (h : items.mapM f = .error error) : ∃ item ∈ items, f item = .error error := by
  induction items with
  | nil => cases h
  | cons item rest ih =>
    rw [List.mapM_cons] at h
    rcases bind_eq_error h with hfirst | ⟨first, -, h⟩
    · exact ⟨item, List.mem_cons_self, hfirst⟩
    rcases bind_eq_error h with hrest | ⟨others, -, h⟩
    · obtain ⟨other, hmem, hother⟩ := ih hrest
      exact ⟨other, List.mem_cons_of_mem _ hmem, hother⟩
    · cases h

theorem forM_eq_error_iff {f : α → Except ε Unit} {items : List α} {error : ε} :
    items.forM f = .error error ↔ ∃ (index : Nat) (item : α), items[index]? = some item ∧
      f item = .error error ∧
        ∀ earlier < index, ∀ other, items[earlier]? = some other → f other = .ok () := by
  induction items with
  | nil => exact ⟨nofun, fun ⟨_, _, hitem, _⟩ => nomatch hitem⟩
  | cons first rest ih =>
    change (f first >>= fun _ => rest.forM f) = .error error ↔ _
    cases hfirst : f first with
    | error error' =>
      constructor
      · intro h
        exact ⟨0, first, rfl, hfirst.trans h, nofun⟩
      · rintro ⟨index, item, hitem, herror, hbefore⟩
        cases index with
        | zero =>
          cases hitem
          exact hfirst.symm.trans herror
        | succ index =>
          exact absurd (hfirst.symm.trans (hbefore 0 (Nat.succ_pos index) first rfl)) nofun
    | ok _ =>
      change rest.forM f = .error error ↔ _
      rw [ih]
      constructor
      · rintro ⟨index, item, hitem, herror, hbefore⟩
        refine ⟨index + 1, item, hitem, herror, ?_⟩
        intro earlier hlt other hother
        cases earlier with
        | zero =>
          cases hother
          exact hfirst
        | succ earlier => exact hbefore earlier (Nat.lt_of_succ_lt_succ hlt) other hother
      · rintro ⟨index, item, hitem, herror, hbefore⟩
        cases index with
        | zero =>
          cases hitem
          exact absurd (hfirst.symm.trans herror) nofun
        | succ index =>
          refine ⟨index, item, hitem, herror, ?_⟩
          intro earlier hlt other hother
          exact hbefore (earlier + 1) (Nat.succ_lt_succ hlt) other hother

theorem forM_congr {f : α → Except ε Unit} {g : β → Except ε Unit}
    {items : List α} {others : List β} (h : items.map f = others.map g) :
    items.forM f = others.forM g := by
  induction items generalizing others with
  | nil =>
    obtain rfl := List.map_eq_nil_iff.1 h.symm
    rfl
  | cons item rest ih =>
    cases others with
    | nil => cases h
    | cons other others =>
      obtain ⟨hfirst, hrest⟩ := List.cons.inj h
      change (f item >>= fun _ => rest.forM f) = (g other >>= fun _ => others.forM g)
      rw [hfirst, ih hrest]

/-! ## Steps on a state -/

variable {σ : Type}

/-- A step, and another one when it has not failed. -/
def andThen (first : σ → Except ε Unit × σ) (next : σ → Except ε α × σ) (s : σ) :
    Except ε α × σ :=
  match first s with
  | (.error error, s) => (.error error, s)
  | (.ok (), s) => next s

/-- A step for each item, up to the first that fails. -/
def performAll (step : α → σ → Except ε Unit × σ) : List α → σ → Except ε Unit × σ
  | [], s => (.ok (), s)
  | item :: rest, s => andThen (step item) (performAll step rest) s

theorem andThen_assoc (first second : σ → Except ε Unit × σ) (third : σ → Except ε α × σ) (s : σ) :
    andThen (andThen first second) third s = andThen first (andThen second third) s := by
  simp only [andThen]
  rcases first s with ⟨_ | _, _⟩
  · rfl
  · rfl

theorem performAll_singleton (step : α → σ → Except ε Unit × σ) (item : α) (s : σ) :
    performAll step [item] s = step item s := by
  simp only [performAll, andThen]
  rcases step item s with ⟨_ | _, _⟩
  · rfl
  · rfl

theorem performAll_append (step : α → σ → Except ε Unit × σ) (first second : List α) (s : σ) :
    performAll step (first ++ second) s =
      andThen (performAll step first) (performAll step second) s := by
  induction first generalizing s with
  | nil => rfl
  | cons item rest ih =>
    have hrest : performAll step (rest ++ second) =
        andThen (performAll step rest) (performAll step second) := funext ih
    rw [List.cons_append, performAll, hrest, ← andThen_assoc]
    rfl

/-- What every step keeps is kept by all of them, also where one fails. -/
theorem performAll_invariant {step : α → σ → Except ε Unit × σ} {P : σ → Prop}
    (hstep : ∀ item s, P s → P (step item s).2) (items : List α) {s : σ} (h : P s) :
    P (performAll step items s).2 := by
  induction items generalizing s with
  | nil => exact h
  | cons item rest ih =>
    have hitem := hstep item s h
    rw [performAll, andThen]
    split
    · next heq => rwa [heq] at hitem
    · next heq =>
      rw [heq] at hitem
      exact ih hitem

end TableFeed
