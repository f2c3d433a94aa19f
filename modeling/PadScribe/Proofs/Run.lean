import PadScribe.Studio.Session

/-!
# `Proofs.Run` — running steps

A `Step` is a function of the state that ends with a value or with a failure, and leaves a state behind
either way. This file opens the `do` blocks of the studio: one `_apply` lemma for each primitive step, the
inversion of a bind that succeeds, and `after`, the state that is left behind.

## Contents

* `bind_apply`, `bind_ok` — a step after another
* `get_apply`, `modify_apply`, … `respond_apply` — the primitive steps
* `after` — the state that a step leaves behind, with its own equations; `after_recordFailure`
* `afterAll`, `afterAll_keep` — the state that a row of steps leaves behind
* `StepClass` — properties of steps that hold of steps in a row
-/

namespace PadScribe

variable {α β : Type} {s s' : Studio}

/-! ## Binds and primitive steps -/

theorem bind_apply (x : Step α) (f : α → Step β) (s : Studio) :
    (x >>= f) s = match x s with
      | .ok a t => f a t
      | .error e t => .error e t := by
  show EStateM.bind x f s = _
  unfold EStateM.bind
  cases x s <;> rfl

/-- **A bind that succeeds** splits into its two successful halves. -/
theorem bind_ok {x : Step α} {f : α → Step β} {b : β} (h : (x >>= f) s = .ok b s') :
    ∃ a t, x s = .ok a t ∧ f a t = .ok b s' := by
  rw [bind_apply] at h
  cases hx : x s with
  | ok a t => rw [hx] at h; exact ⟨a, t, rfl, h⟩
  | error e t => rw [hx] at h; exact absurd h (by simp)

@[simp] theorem pure_apply (a : α) (s : Studio) : (pure a : Step α) s = .ok a s := rfl

@[simp] theorem throw_apply (e : Fault) (s : Studio) : (throw e : Step α) s = .error e s := rfl

@[simp] theorem get_apply (s : Studio) : (get : Step Studio) s = .ok s s := rfl

@[simp] theorem set_apply (t s : Studio) : (set t : Step PUnit) s = .ok ⟨⟩ t := rfl

@[simp] theorem modify_apply (f : Studio → Studio) (s : Studio) :
    (modify f : Step PUnit) s = .ok ⟨⟩ (f s) := rfl

@[simp] theorem emit_apply (e : Effect) (s : Studio) :
    emit e s = .ok () { s with record := s.record ++ [e] } := rfl

@[simp] theorem submit_apply (t : Task) (s : Studio) :
    submit t s = .ok () { s with pool := s.pool ++ [t] } := rfl

@[simp] theorem submitAll_apply (ts : List Task) (s : Studio) :
    submitAll ts s = .ok () { s with pool := s.pool ++ ts } := rfl

@[simp] theorem updateManager_apply (f : Manager → Manager) (s : Studio) :
    updateManager f s = .ok () { s with manager := f s.manager } := rfl

theorem tryCatch_apply (x : Step α) (f : Fault → Step α) (s : Studio) :
    (tryCatch x f : Step α) s = match x s with
      | .ok a t => .ok a t
      | .error e t => f e t := by
  show EStateM.tryCatch x f s = _
  unfold EStateM.tryCatch
  cases x s <;> rfl

theorem respond_apply (r : Response) (s : Studio) :
    respond r s = match r.fault with
      | none => .ok () { s with record := s.record ++ r.effects }
      | some fault => .error fault { s with record := s.record ++ r.effects } := by
  unfold respond
  rw [bind_apply, modify_apply]
  cases r.fault <;> rfl

theorem liftFault_apply (r : Except Fault α) (s : Studio) :
    liftFault r s = match r with
      | .ok a => .ok a s
      | .error fault => .error fault s := by
  cases r <;> rfl

/-! ## The state left behind -/

/-- The state that a step leaves behind, whether or not it fails. -/
def after (x : Step α) (s : Studio) : Studio :=
  match x s with
  | .ok _ t => t
  | .error _ t => t

theorem after_ok {x : Step α} {a : α} (h : x s = .ok a s') : after x s = s' := by
  unfold after; rw [h]

theorem after_error {x : Step α} {e : Fault} (h : x s = .error e s') : after x s = s' := by
  unfold after; rw [h]

/-- A step that gives no value fails. -/
theorem exists_error {x : Step α} (h : x.run' s = none) : ∃ fault, x s = .error fault (after x s) := by
  cases hx : x s with
  | ok a t =>
    delta EStateM.run' EStateM.run at h
    rw [hx] at h
    cases h
  | error fault t => exact ⟨fault, by rw [after_error hx]⟩

/-- Steps that run alike leave the same state behind. -/
theorem after_eq {x y : Step α} {t : Studio} (h : x s = y t) : after x s = after y t := by
  unfold after; rw [h]

@[simp] theorem after_pure (a : α) (s : Studio) : after (pure a) s = s := rfl

@[simp] theorem after_throw (e : Fault) (s : Studio) : after (throw e : Step α) s = s := rfl

@[simp] theorem after_emit (e : Effect) (s : Studio) :
    after (emit e) s = { s with record := s.record ++ [e] } := rfl

@[simp] theorem after_submit (t : Task) (s : Studio) :
    after (submit t) s = { s with pool := s.pool ++ [t] } := rfl

theorem after_respond (r : Response) (s : Studio) :
    after (respond r) s = { s with record := s.record ++ r.effects } := by
  unfold after
  rw [respond_apply]
  cases r.fault <;> rfl

@[simp] theorem after_liftFault (r : Except Fault α) (s : Studio) : after (liftFault r) s = s := by
  cases r <;> rfl

/-- A bind after a step that is known to succeed. -/
theorem after_bind_ok {x : Step α} {f : α → Step β} {a : α} {t : Studio} (h : x s = .ok a t) :
    after (x >>= f) s = after (f a) t := by
  unfold after; rw [bind_apply, h]

/-- A bind after a step that is known to fail. -/
theorem after_bind_error {x : Step α} {f : α → Step β} {e : Fault} {t : Studio} (h : x s = .error e t) :
    after (x >>= f) s = t := by
  have hb : (x >>= f) s = .error e t := by rw [bind_apply, h]
  exact after_error hb

/-- **The composition principle.** What a transitive relation says of a step and of all that may follow it,
it says of both in a row: a step that fails ends the row. -/
theorem after_bind_rel {R : Studio → Studio → Prop} {x : Step α} {f : α → Step β}
    (trans : ∀ {a b c : Studio}, R a b → R b c → R a c) (hx : R s (after x s))
    (hf : ∀ a t, x s = .ok a t → R t (after (f a) t)) : R s (after (x >>= f) s) := by
  cases h : x s with
  | ok a t =>
      rw [after_bind_ok h]
      rw [after_ok h] at hx
      exact trans hx (hf a t h)
  | error e t =>
      -- nothing follows a failure, so the row ends where the first step ended
      rw [after_bind_error h]
      rwa [after_error h] at hx

/-- The same for a step whose failure is caught. -/
theorem after_tryCatch_rel {R : Studio → Studio → Prop} {x : Step α} {f : Fault → Step α}
    (trans : ∀ {a b c : Studio}, R a b → R b c → R a c) (hx : R s (after x s))
    (hf : ∀ e t, x s = .error e t → R t (after (f e) t)) : R s (after (tryCatch x f) s) := by
  cases h : x s with
  | ok a t =>
      have hb : (tryCatch x f : Step α) s = .ok a t := by rw [tryCatch_apply, h]
      rw [after_ok hb]
      rwa [after_ok h] at hx
  | error e t =>
      have hb : (tryCatch x f : Step α) s = f e t := by rw [tryCatch_apply, h]
      rw [after_eq hb]
      rw [after_error h] at hx
      exact trans hx (hf e t h)

/-- Recording the failure of a step only adds the note of it, if there is one. -/
theorem after_recordFailure_rel {R : Studio → Studio → Prop} (refl : ∀ t, R t t)
    (note : ∀ fault t, R t (after (emit (.taskFailed fault)) t)) (x : Step Unit) (s : Studio) :
    R (after x s) (after (recordFailure x) s) := by
  unfold recordFailure
  cases h : x s with
  | ok a t =>
      have hr : (tryCatch x fun fault => emit (.taskFailed fault)) s = .ok a t := by rw [tryCatch_apply, h]
      rw [after_ok hr, after_ok h]
      exact refl t
  | error e t =>
      have hr : (tryCatch x fun fault => emit (.taskFailed fault)) s = emit (.taskFailed e) t := by
        rw [tryCatch_apply, h]
      rw [after_eq hr, after_error h]
      exact note e t

/-- A step whose failure is recorded leaves behind what the step leaves behind, but for the record. -/
theorem after_recordFailure (x : Step Unit) (s : Studio) :
    ∃ es, after (recordFailure x) s = { after x s with record := (after x s).record ++ es } :=
  after_recordFailure_rel (R := fun t u => ∃ es, u = { t with record := t.record ++ es })
    (fun t => ⟨[], by simp⟩) (fun fault t => ⟨[.taskFailed fault], rfl⟩) x s

/-- The state that a row of steps leaves behind, one after another. -/
def afterAll (act : α → Step β) (as : List α) (s : Studio) : Studio :=
  as.foldl (fun s a => after (act a) s) s

theorem afterAll_concat (act : α → Step β) (as : List α) (a : α) (s : Studio) :
    afterAll act (as ++ [a]) s = after (act a) (afterAll act as s) := by
  unfold afterAll
  rw [List.foldl_append]
  rfl

/-- What every step of a row keeps, the row keeps. -/
theorem afterAll_keep_of_mem {P : Studio → Prop} {act : α → Step β} {as : List α}
    (keep : ∀ a ∈ as, ∀ s, P s → P (after (act a) s)) (h : P s) : P (afterAll act as s) := by
  induction as generalizing s with
  | nil => exact h
  | cons a rest ih =>
      exact ih (fun a' ha' => keep a' (List.mem_cons_of_mem _ ha')) (keep a List.mem_cons_self s h)

/-- **What every step keeps, every row of steps keeps.** -/
theorem afterAll_keep {P : Studio → Prop} {act : α → Step β} (keep : ∀ a s, P s → P (after (act a) s))
    (as : List α) (h : P s) : P (afterAll act as s) :=
  afterAll_keep_of_mem (fun a _ => keep a) h

/-! ## Properties of steps -/

/-- **A property of steps that holds of steps in a row**, of caught failures, and of what is done with a state
that was looked at. It says something of a step at the state that the step starts in. -/
structure StepClass (P : ∀ {α : Type}, Step α → Studio → Prop) : Prop where
  pure {α : Type} (a : α) (s : Studio) : P (pure a) s
  throw {α : Type} (e : Fault) (s : Studio) : P (throw e : Step α) s
  bind {α β : Type} {x : Step α} {f : α → Step β} {s : Studio} (first : P x s)
    (next : ∀ a t, x s = .ok a t → P (f a) t) : P (x >>= f) s
  tryCatch {α : Type} {x : Step α} {f : Fault → Step α} {s : Studio} (first : P x s)
    (next : ∀ e t, x s = .error e t → P (f e) t) : P (tryCatch x f) s
  /-- What is done with the state does not look at the recognizers. -/
  look {β : Type} {f : Studio → Step β} {s : Studio} (blind : ∀ rs, f { s with recognizers := rs } = f s)
    (next : P (f s) s) : P (get >>= f) s

theorem StepClass.liftFault {P : ∀ {α : Type}, Step α → Studio → Prop} (h : StepClass P) (r : Except Fault α)
    (s : Studio) : P (liftFault r) s := by
  cases r with
  | ok a => exact h.pure a s
  | error e => exact h.throw e s

theorem StepClass.and {P Q : ∀ {α : Type}, Step α → Studio → Prop} (h : StepClass P) (h' : StepClass Q) :
    StepClass (fun x s => P x s ∧ Q x s) where
  pure a s := ⟨h.pure a s, h'.pure a s⟩
  throw e s := ⟨h.throw e s, h'.throw e s⟩
  bind first next := ⟨h.bind first.1 fun a t ht => (next a t ht).1, h'.bind first.2 fun a t ht => (next a t ht).2⟩
  tryCatch first next :=
    ⟨h.tryCatch first.1 fun e t ht => (next e t ht).1, h'.tryCatch first.2 fun e t ht => (next e t ht).2⟩
  look blind next := ⟨h.look blind next.1, h'.look blind next.2⟩

/-- What is only said of states with an invariant that the steps keep. -/
theorem StepClass.under {P : ∀ {α : Type}, Step α → Studio → Prop} (h : StepClass P) (Inv : Studio → Prop)
    (keep : ∀ {α : Type} {x : Step α} {s : Studio}, P x s → Inv s → Inv (after x s)) :
    StepClass (fun x s => Inv s → P x s) where
  pure a s _ := h.pure a s
  throw e s _ := h.throw e s
  bind first next hs := h.bind (first hs) fun a t ht => next a t ht (after_ok ht ▸ keep (first hs) hs)
  tryCatch first next hs := h.tryCatch (first hs) fun e t ht => next e t ht (after_error ht ▸ keep (first hs) hs)
  look blind next hs := h.look blind (next hs)

/-- What a preorder says of the states before and after steps holds of steps in a row. -/
theorem stepClass_of_rel {R : Studio → Studio → Prop} (refl : ∀ s, R s s)
    (trans : ∀ {a b c : Studio}, R a b → R b c → R a c) : StepClass (fun x s => R s (after x s)) where
  pure _ s := refl s
  throw _ s := refl s
  bind first next := after_bind_rel (R := R) trans first next
  tryCatch first next := after_tryCatch_rel (R := R) trans first next
  look {_ f s} _ next := by
    rw [after_bind_ok (get_apply s)]
    exact next

end PadScribe
