import ProgramImage.Load.Traced

/-!
# Outcomes of traced computations

A traced computation succeeds when each of its steps does, whatever the events are.
The laws below say what the outcome of each way to build a computation is, so that a
statement about a load can be read as one about the steps it takes. A list of
declarations is gone through by a fold; what one step of a fold keeps, the whole fold
keeps.

## Main statements

* `Traced.outcome_bind` and `Traced.outcome_foldlM` turn a traced computation into one
  that has an outcome only.
* `Except.bind_eq_ok` splits a success into the successes of its two parts.
* `Except.foldlM_keeps` carries an invariant through a fold, and `Except.foldlM_of_limit` compares
  a fold with one that stops at a limit.
* `Except.foldlM_perm` goes through a list in another order, when the steps commute.
-/

namespace ProgramImage

section Except

variable {ε α β σ : Type}

/-- A computation in two parts succeeds when both parts do. -/
theorem Except.bind_eq_ok {x : Except ε α} {f : α → Except ε β} {b : β} :
    (x >>= f) = .ok b ↔ ∃ a, x = .ok a ∧ f a = .ok b := by
  cases x with
  | error e =>
    constructor
    · intro h
      cases h
    · rintro ⟨a, ha, _⟩
      cases ha
  | ok a =>
    constructor
    · intro h
      exact ⟨a, rfl, h⟩
    · rintro ⟨a', ha, h⟩
      cases ha
      exact h

theorem Except.ok_bind (a : α) (f : α → Except ε β) : (Except.ok a >>= f) = f a :=
  rfl

@[simp] theorem Except.map_eq_ok {x : Except ε α} {f : α → β} {b : β} :
    x.map f = .ok b ↔ ∃ a, x = .ok a ∧ f a = b := by
  cases x with
  | error e => simp [Except.map]
  | ok a => simp [Except.map]

@[simp] theorem Except.mapError_eq_ok {δ : Type} {x : Except ε α} {f : ε → δ} {a : α} :
    x.mapError f = .ok a ↔ x = .ok a := by
  cases x with
  | error e => exact ⟨nofun, nofun⟩
  | ok b =>
    constructor <;> intro h
    · cases h
      rfl
    · cases h
      rfl

theorem Except.map_bind {γ : Type} (x : Except ε α) (f : α → Except ε β) (g : β → γ) :
    (x >>= f).map g = x >>= fun a => (f a).map g := by
  cases x <;> rfl

theorem Except.exists_of_isOk {x : Except ε α} (h : x.isOk = true) : ∃ a, x = .ok a := by
  cases x with
  | error e => cases h
  | ok a => exact ⟨a, rfl⟩

theorem Except.exists_of_any {x : Except ε α} {test : α → Bool}
    (h : x.toOption.any test = true) : ∃ a, x = .ok a ∧ test a = true := by
  cases x with
  | error e => cases h
  | ok a => exact ⟨a, rfl, h⟩

/-- A fold that succeeds keeps what each of its steps keeps. -/
theorem Except.foldlM_keeps {f : σ → α → Except ε σ} {P : σ → Prop} {xs : List α}
    (hstep : ∀ s x s', x ∈ xs → P s → f s x = .ok s' → P s')
    {s s' : σ} (hs : P s) (h : xs.foldlM f s = .ok s') : P s' := by
  induction xs generalizing s with
  | nil =>
    cases h
    exact hs
  | cons x xs ih =>
    rw [List.foldlM_cons] at h
    obtain ⟨mid, hmid, hrest⟩ := Except.bind_eq_ok.mp h
    have hP : P mid := hstep s x mid List.mem_cons_self hs hmid
    exact ih (fun s y s' hy => hstep s y s' (List.mem_cons_of_mem x hy)) hP hrest

/-- A fold over two lists succeeds by way of a state between them. -/
theorem Except.foldlM_append_eq_ok {f : σ → α → Except ε σ} {xs ys : List α} {s s' : σ} :
    (xs ++ ys).foldlM f s = .ok s' ↔
      ∃ mid, xs.foldlM f s = .ok mid ∧ ys.foldlM f mid = .ok s' := by
  rw [List.foldlM_append]
  exact Except.bind_eq_ok

/-- A fold whose states grow, next to one that does the same as long as the states stay within a
    limit and else stops. The second does all that the first does, or stops at the step with which
    the first leaves the limit. -/
theorem Except.foldlM_of_limit {f g : σ → α → Except ε σ} (size : σ → Nat) (view : σ → σ)
    {stop : α → ε} {limit : Nat} (hgrow : ∀ s x t, f s x = .ok t → size s ≤ size t)
    (hstep : ∀ s x t, size s ≤ limit → f s x = .ok t →
      g (view s) x = if size t ≤ limit then .ok (view t) else .error (stop x))
    {xs : List α} {s t : σ} (hroom : size s ≤ limit) (h : xs.foldlM f s = .ok t) :
    (size t ≤ limit → xs.foldlM g (view s) = .ok (view t)) ∧
      (limit < size t → ∃ before x rest mid next, xs = before ++ x :: rest ∧
        before.foldlM f s = .ok mid ∧ f mid x = .ok next ∧ size mid ≤ limit ∧
        limit < size next ∧ xs.foldlM g (view s) = .error (stop x)) := by
  induction xs generalizing s with
  | nil =>
    cases h
    exact ⟨fun _ => rfl, fun hover => absurd hroom (Nat.not_le_of_lt hover)⟩
  | cons x xs ih =>
    rw [List.foldlM_cons] at h
    obtain ⟨mid, hmid, hrest⟩ := Except.bind_eq_ok.mp h
    rw [List.foldlM_cons, hstep s x mid hroom hmid]
    by_cases hfits : size mid ≤ limit
    · rw [if_pos hfits, Except.ok_bind]
      obtain ⟨hall, hstop⟩ := ih hfits hrest
      refine ⟨hall, fun hover => ?_⟩
      obtain ⟨before, y, rest, last, next, rfl, hbefore, hnext, hlast, hfull, herror⟩ := hstop hover
      refine ⟨x :: before, y, rest, last, next, rfl, ?_, hnext, hlast, hfull, herror⟩
      rw [List.foldlM_cons]
      exact Except.bind_eq_ok.mpr ⟨mid, hmid, hbefore⟩
    · -- the first fold leaves the limit here and does not come back
      rw [if_neg hfits]
      have hlater : size mid ≤ size t :=
        Except.foldlM_keeps (P := fun last => size mid ≤ size last)
          (fun s x t _ hs ht => Nat.le_trans hs (hgrow s x t ht)) (Nat.le_refl _) hrest
      refine ⟨fun hall => absurd (Nat.le_trans hlater hall) hfits, fun _ => ?_⟩
      exact ⟨[], x, xs, s, mid, rfl, rfl, hmid, hroom, Nat.lt_of_not_le hfits, rfl⟩

/-- A fold whose steps commute gives the same for every order of the list. -/
theorem Except.foldlM_perm {f : σ → α → Except ε σ}
    (hcomm : ∀ s a b m t, f s a = .ok m → f m b = .ok t → ∃ m', f s b = .ok m' ∧ f m' a = .ok t)
    {xs ys : List α} (hperm : xs.Perm ys) {s t : σ} (h : xs.foldlM f s = .ok t) :
    ys.foldlM f s = .ok t := by
  induction hperm generalizing s with
  | nil => exact h
  | cons x _ ih =>
    rw [List.foldlM_cons] at h ⊢
    obtain ⟨mid, hmid, hrest⟩ := Except.bind_eq_ok.mp h
    exact Except.bind_eq_ok.mpr ⟨mid, hmid, ih hrest⟩
  | swap x y xs =>
    -- the steps of two neighbours commute over whatever state comes before them
    simp only [List.foldlM_cons] at h ⊢
    obtain ⟨first, hfirst, h⟩ := Except.bind_eq_ok.mp h
    obtain ⟨second, hsecond, hrest⟩ := Except.bind_eq_ok.mp h
    obtain ⟨other, hother, hlast⟩ := hcomm s y x first second hfirst hsecond
    exact Except.bind_eq_ok.mpr ⟨other, hother, Except.bind_eq_ok.mpr ⟨second, hlast, hrest⟩⟩
  | trans _ _ ihFirst ihSecond => exact ihSecond (ihFirst h)

/-- A list of computations that succeeds gives one result for each, and only such results. -/
theorem Except.mapM_eq_ok {f : α → Except ε β} {xs : List α} {ys : List β}
    (h : xs.mapM f = .ok ys) :
    ys.length = xs.length ∧ ∀ y ∈ ys, ∃ x ∈ xs, f x = .ok y := by
  induction xs generalizing ys with
  | nil =>
    rw [List.mapM_nil] at h
    cases h
    exact ⟨rfl, nofun⟩
  | cons x xs ih =>
    rw [List.mapM_cons] at h
    obtain ⟨first, hfirst, h⟩ := Except.bind_eq_ok.mp h
    obtain ⟨rest, hrest, hpure⟩ := Except.bind_eq_ok.mp h
    cases hpure
    obtain ⟨hlength, hmem⟩ := ih hrest
    refine ⟨by simp [hlength], ?_⟩
    intro y hy
    rcases List.mem_cons.mp hy with rfl | hlater
    · exact ⟨x, List.mem_cons_self, hfirst⟩
    · obtain ⟨source, hsource, hresult⟩ := hmem y hlater
      exact ⟨source, List.mem_cons_of_mem x hsource, hresult⟩

theorem Except.optionMapM_eq_ok {f : α → Except ε β} {x : Option α} {y : Option β}
    (h : x.mapM f = .ok y) : ∀ result ∈ y, ∃ source ∈ x, f source = .ok result := by
  cases x with
  | none =>
    cases h
    exact nofun
  | some source =>
    obtain ⟨found, hfound, hpure⟩ := Except.map_eq_ok.mp h
    subst hpure
    rintro result hresult
    obtain rfl : found = result := Option.some.inj hresult
    exact ⟨source, rfl, hfound⟩

end Except

namespace Traced

variable {ε α β σ : Type}

theorem outcome_bind (x : Traced α) (f : α → Traced β) :
    (x >>= f).outcome = x.outcome >>= fun a => (f a).outcome := by
  change (andThen x f).outcome = _
  unfold andThen
  cases x.outcome with
  | error e => rfl
  | ok a => rfl

/-- A part of the program succeeds within a load as it does on its own. -/
theorem outcome_lift_eq_ok {wrap : ε → LoadError} {x : Except ε α} {a : α} :
    (lift wrap x).outcome = .ok a ↔ x = .ok a := by
  constructor
  · intro h
    cases x with
    | error e => cases h
    | ok b =>
      cases h
      rfl
  · rintro rfl
    rfl

/-- An event on the way, whether or not it happens, does not change the outcome. -/
theorem outcome_optional (c : Prop) [Decidable c] (event : LoadEvent) (next : Unit → Traced β) :
    (if c then emit event >>= next else next ()).outcome = (next ()).outcome := by
  split <;> rfl

theorem outcome_lift (wrap : ε → LoadError) (x : Except ε α) :
    (lift wrap x).outcome = x.mapError wrap := by
  cases x <;> rfl

/-- A load error of a resolved declaration is reported as it is. -/
@[simp] theorem outcome_lift_id (x : Except LoadError α) : (lift id x).outcome = x := by
  cases x <;> rfl

/-- An item that is made, stored and then reported is stored when it can be made and stored. -/
theorem outcome_store (item : Except LoadError α) (wrap : ε → LoadError) (store : α → Except ε β)
    (event : α → LoadEvent) :
    (do let a ← lift id item
        let b ← lift wrap (store a)
        emit (event a)
        return b : Traced β).outcome = item >>= fun a => (store a).mapError wrap := by
  rw [outcome_bind, outcome_lift_id]
  congr
  funext a
  rw [outcome_bind, outcome_lift]
  cases (store a).mapError wrap <;> rfl

theorem outcome_foldlM (f : σ → α → Traced σ) (s : σ) (xs : List α) :
    (xs.foldlM f s).outcome = xs.foldlM (fun s x => (f s x).outcome) s := by
  induction xs generalizing s with
  | nil => rfl
  | cons x xs ih =>
    rw [List.foldlM_cons, List.foldlM_cons, outcome_bind]
    congr
    funext mid
    exact ih mid

end Traced

end ProgramImage
