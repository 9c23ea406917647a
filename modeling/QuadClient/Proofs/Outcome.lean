import QuadClient.Attempt

/-!
# Outcomes

How a chain of steps that may fail comes to a value: every step before gave one. What an attempt
keeps whatever its outcome is, and what it looks like where only a part of its state is seen:
both are proved rule by rule along the way the attempt is put together.
-/

namespace QuadClient

variable {ε ε' σ τ α β : Type}

/-! ### Values of a chain -/

theorem bind_eq_ok {x : Except ε α} {f : α → Except ε β} {b : β} :
    (x >>= f) = .ok b ↔ ∃ a, x = .ok a ∧ f a = .ok b := by
  cases x with
  | error e => simp [bind, Except.bind]
  | ok a => simp [bind, Except.bind]

theorem map_eq_ok {x : Except ε α} {f : α → β} {b : β} :
    x.map f = .ok b ↔ ∃ a, x = .ok a ∧ f a = b := by
  cases x with
  | error e => simp [Except.map]
  | ok a => simp [Except.map]

/-- Another form of the failure makes no difference to a value. -/
theorem mapError_eq_ok {x : Except ε α} {f : ε → ε'} {a : α} :
    x.mapError f = .ok a ↔ x = .ok a := by
  cases x with
  | error e =>
    constructor
    · intro h
      cases h
    · intro h
      cases h
  | ok b =>
    constructor
    · intro h
      cases h
      rfl
    · intro h
      cases h
      rfl

/-! ### What an attempt keeps -/

namespace Attempt

@[simp] theorem on_get (s : σ) : (get : Attempt ε σ σ).on s = (.ok s, s) := rfl

@[simp] theorem on_modify (f : σ → σ) (s : σ) :
    (modify f : Attempt ε σ Unit).on s = (.ok (), f s) := rfl

/-- The first step of several is taken, and the others if it succeeds. -/
theorem on_forM_cons (f : β → Attempt ε σ PUnit) (u : β) (us : List β) (s : σ) :
    ((u :: us).forM f).on s =
      match (f u).on s with
      | (.ok _, t) => (us.forM f).on t
      | (.error e, t) => (.error e, t) := by
  rw [List.forM_eq_forM, List.forM_cons, on_bind]
  rcases (f u).on s with ⟨e | x, t⟩
  · rfl
  · rfl

/-- Steps that succeed leave the rest to those that follow. -/
theorem on_forM_append {f : β → Attempt ε σ PUnit} {us vs : List β} {s s' : σ}
    (h : (us.forM f).on s = (.ok (), s')) : ((us ++ vs).forM f).on s = (vs.forM f).on s' := by
  induction us generalizing s with
  | nil =>
    have hsame : s = s' := congrArg Prod.snd h
    rw [List.nil_append, hsame]
  | cons u us ih =>
    rw [on_forM_cons] at h
    rw [List.cons_append, on_forM_cons]
    rcases hon : (f u).on s with ⟨e | x, t⟩
    · rw [hon] at h
      cases h
    · rw [hon] at h
      exact ih h

/-- If the state satisfied `I` before the attempt it does so after it, whether the attempt
failed or not; a value that the attempt gives satisfies `Q`. -/
def Keeps (I : σ → Prop) (a : Attempt ε σ α) (Q : α → Prop) : Prop :=
  ∀ s, I s → I (a.on s).2 ∧ ∀ x, (a.on s).1 = .ok x → Q x

variable {I : σ → Prop} {J : τ → Prop} {Q : α → Prop} {R : β → Prop}

/-- To give a value keeps everything. -/
theorem keeps_pure {x : α} (hx : Q x) : Keeps I (pure x : Attempt ε σ α) Q := by
  intro s hs
  refine ⟨hs, ?_⟩
  intro y hy
  cases hy
  exact hx

theorem keeps_throw (e : ε) : Keeps I (throw e : Attempt ε σ α) Q := by
  intro s hs
  refine ⟨hs, ?_⟩
  intro y hy
  cases hy

/-- What is read of the state satisfies what is kept of it. -/
theorem keeps_get : Keeps I (get : Attempt ε σ σ) I := by
  intro s hs
  refine ⟨hs, ?_⟩
  intro y hy
  cases hy
  exact hs

theorem keeps_modify {f : σ → σ} (hf : ∀ s, I s → I (f s)) :
    Keeps I (modify f : Attempt ε σ Unit) fun _ => True := by
  intro s hs
  exact ⟨hf s hs, fun _ _ => trivial⟩

theorem keeps_done {r : Except ε α} (hr : ∀ x, r = .ok x → Q x) :
    Keeps I (done r : Attempt ε σ α) Q := by
  intro s hs
  exact ⟨hs, hr⟩

namespace Keeps

/-- Two attempts in a row keep what each of them keeps; the second may use what is known of the
value of the first. -/
theorem bind {a : Attempt ε σ α} {f : α → Attempt ε σ β} (ha : Keeps I a Q)
    (hf : ∀ x, Q x → Keeps I (f x) R) : Keeps I (a >>= f) R := by
  intro s hs
  obtain ⟨hI, hx⟩ := ha s hs
  rw [on_bind]
  rcases hon : a.on s with ⟨r | x, t⟩
  · -- A failure ends the chain, and what was kept until then is kept.
    rw [hon] at hI
    refine ⟨hI, ?_⟩
    intro y hy
    cases hy
  · rw [hon] at hI hx
    exact hf x (hx x rfl) t hI

theorem mapError {a : Attempt ε σ α} (ha : Keeps I a Q) (f : ε → ε') :
    Keeps I (a.mapError f) Q := by
  intro s hs
  obtain ⟨hI, hx⟩ := ha s hs
  exact ⟨hI, fun x h => hx x (mapError_eq_ok.1 h)⟩

/-- When the outcome is taken as a value, what is known of the value is known of it. -/
theorem outcome {a : Attempt ε σ α} (ha : Keeps I a Q) :
    Keeps I (a.outcome : Attempt ε' σ _) fun r => ∀ x, r = .ok x → Q x := by
  intro s hs
  obtain ⟨hI, hx⟩ := ha s hs
  refine ⟨hI, ?_⟩
  intro r hr
  cases hr
  exact hx

/-- An attempt on a part keeps what is kept of the whole, if putting the part back does. -/
theorem zoom {part : σ → τ} {put : τ → σ → σ} {a : Attempt ε τ α} (ha : Keeps J a Q)
    (hpart : ∀ s, I s → J (part s)) (hput : ∀ s t, I s → J t → I (put t s)) :
    Keeps I (a.zoom part put) Q := by
  intro s hs
  obtain ⟨hJ, hx⟩ := ha (part s) (hpart s hs)
  exact ⟨hput s _ hs hJ, hx⟩

end Keeps

/-! ### What an attempt looks like from outside -/

/-- Where only `view` of the state is seen, the attempt looks like the other one: it has the same
outcomes and leaves the same to be seen. -/
def LooksLike (view : σ → τ) (a : Attempt ε σ α) (b : Attempt ε τ α) : Prop :=
  ∀ s, b.on (view s) = ((a.on s).1, view (a.on s).2)

variable {view : σ → τ}

theorem looksLike_pure (x : α) : LooksLike view (pure x : Attempt ε σ α) (pure x) :=
  fun _ => rfl

theorem looksLike_throw (e : ε) : LooksLike view (throw e : Attempt ε σ α) (throw e) :=
  fun _ => rfl

theorem looksLike_modify {f : σ → σ} {g : τ → τ} (hfg : ∀ s, g (view s) = view (f s)) :
    LooksLike view (modify f : Attempt ε σ Unit) (modify g) :=
  fun s => congrArg (Prod.mk (Except.ok ())) (hfg s)

/-- Two attempts that look at the state look alike if they do so wherever the states look alike. -/
theorem looksLike_get_bind {f : σ → Attempt ε σ β} {g : τ → Attempt ε τ β}
    (hfg : ∀ s, LooksLike view (f s) (g (view s))) : LooksLike view (get >>= f) (get >>= g) :=
  fun s => hfg s s

namespace LooksLike

/-- Attempts that look alike may be put behind each other. -/
theorem bind {a : Attempt ε σ α} {b : Attempt ε τ α} {f : α → Attempt ε σ β}
    {g : α → Attempt ε τ β} (hab : LooksLike view a b) (hfg : ∀ x, LooksLike view (f x) (g x)) :
    LooksLike view (a >>= f) (b >>= g) := by
  intro s
  rw [on_bind, on_bind, hab s]
  rcases a.on s with ⟨e | x, s'⟩
  · rfl
  · exact hfg x s'

theorem mapError {a : Attempt ε σ α} {b : Attempt ε τ α} (hab : LooksLike view a b)
    (f : ε → ε') : LooksLike view (a.mapError f) (b.mapError f) := by
  intro s
  rw [on_mapError, hab s]
  rfl

theorem outcome {a : Attempt ε σ α} {b : Attempt ε τ α} (hab : LooksLike view a b) :
    LooksLike view (a.outcome : Attempt ε' σ _) b.outcome := by
  intro s
  rw [on_outcome, hab s]
  rfl

/-- If the part that is worked on looks like that, so does the whole around it. -/
theorem zoom {σ' τ' : Type} {a : Attempt ε σ α} {b : Attempt ε τ α} (hab : LooksLike view a b)
    {part : σ' → σ} {put : σ → σ' → σ'} {part' : τ' → τ} {put' : τ → τ' → τ'} {view' : σ' → τ'}
    (hpart : ∀ s, part' (view' s) = view (part s))
    (hput : ∀ t s, put' (view t) (view' s) = view' (put t s)) :
    LooksLike view' (a.zoom part put) (b.zoom part' put') := by
  intro s
  rw [on_zoom, hpart, hab (part s)]
  exact congrArg (Prod.mk _) (hput _ s)

/-- The attempts for the elements of a list look alike one after the other if each of them does. -/
theorem forM {f : β → Attempt ε σ PUnit} {g : β → Attempt ε τ PUnit}
    (hfg : ∀ b, LooksLike view (f b) (g b)) (l : List β) :
    LooksLike view (l.forM f) (l.forM g) := by
  induction l with
  | nil => exact looksLike_pure _
  | cons b l ih => exact (hfg b).bind fun _ => ih

end LooksLike

end Attempt

end QuadClient
