/-! Steps that may fail. A sequence that succeeds has succeeded at each of its steps
(`exists_of_bind_eq_ok`), and telling a failure in other words changes no result. Where every step
fails in one way and it is known when, it is known when the sequence fails (`Yields.bind`,
`Yields.mapM`). -/

namespace WindSymbols

variable {ε δ α β : Type}

theorem exists_of_bind_eq_ok {x : Except ε α} {f : α → Except ε β} {b : β}
    (h : x >>= f = .ok b) : ∃ a, x = .ok a ∧ f a = .ok b := by
  cases x with
  | error e => cases h
  | ok a => exact ⟨a, rfl, h⟩

theorem ok_bind (a : α) (f : α → Except ε β) : (Except.ok a >>= f) = f a := rfl

theorem exists_of_isSome_toOption {x : Except ε α} (h : x.toOption.isSome = true) :
    ∃ a, x = .ok a := by
  cases x with
  | error e => cases h
  | ok a => exact ⟨a, rfl⟩

theorem mapError_eq_ok_iff {f : ε → δ} {x : Except ε α} {a : α} :
    x.mapError f = .ok a ↔ x = .ok a := by
  cases x with
  | error e => exact ⟨nofun, nofun⟩
  | ok b =>
    constructor
    · intro h
      cases h
      rfl
    · intro h
      cases h
      rfl

theorem mapError_eq_error_iff {f : ε → δ} {x : Except ε α} {d : δ} :
    x.mapError f = .error d ↔ ∃ e, x = .error e ∧ d = f e := by
  cases x with
  | error e =>
    constructor
    · intro h
      cases h
      exact ⟨e, rfl, rfl⟩
    · rintro ⟨_, heq, rfl⟩
      cases heq
      rfl
  | ok b => exact ⟨nofun, nofun⟩

theorem mapM_eq_map {f : α → Except ε β} {g : α → β} {l : List α}
    (h : ∀ a ∈ l, f a = .ok (g a)) : l.mapM f = .ok (l.map g) := by
  induction l with
  | nil => rfl
  | cons a rest ih =>
    rw [List.mapM_cons, h a List.mem_cons_self, ih fun b hb => h b (List.mem_cons_of_mem a hb)]
    rfl

theorem mapM_eq_self {f : α → Except ε α} {l : List α} (h : ∀ a ∈ l, f a = .ok a) :
    l.mapM f = .ok l := by
  rw [mapM_eq_map h, List.map_id']

/-- A step with this result under a condition, which otherwise has this fault. -/
structure Yields (fault : ε) (x : Except ε α) (c : Prop) (a : α) : Prop where
  ok : c → x = .ok a
  error : ¬ c → x = .error fault

namespace Yields

variable {fault : ε} {x : Except ε α} {c c' : Prop} {a : α} {b : β}

theorem of_eq_ok (h : x = .ok a) : Yields fault x True a :=
  ⟨fun _ => h, fun hc => absurd trivial hc⟩

theorem congr (h : Yields fault x c a) (hc : c ↔ c') : Yields fault x c' a :=
  ⟨fun h' => h.ok (hc.mpr h'), fun h' => h.error (mt hc.mp h')⟩

/-- A sequence needs the conditions of all its steps, and has the fault of any. -/
theorem bind {f : α → Except ε β} (hx : Yields fault x c a) (hf : c → Yields fault (f a) c' b) :
    Yields fault (x >>= f) (c ∧ c') b := by
  by_cases hc : c
  · rw [hx.ok hc, ok_bind]
    exact (hf hc).congr (and_iff_right hc).symm
  · rw [hx.error hc]
    exact ⟨fun h => absurd h.1 hc, fun _ => rfl⟩

theorem map {f : α → Except ε β} (hx : Yields fault x c a) (hf : f a = .ok b) :
    Yields fault (x >>= f) c b :=
  (hx.bind fun _ => of_eq_ok hf).congr (and_iff_left trivial)

theorem mapError (f : ε → δ) (hx : Yields fault x c a) : Yields (f fault) (x.mapError f) c a where
  ok hc := by
    rw [hx.ok hc]
    rfl
  error hc := by
    rw [hx.error hc]
    rfl

theorem mapM {f : α → Except ε β} {g : α → β} {c : α → Prop} {l : List α}
    (h : ∀ a ∈ l, Yields fault (f a) (c a) (g a)) :
    Yields fault (l.mapM f) (∀ a ∈ l, c a) (l.map g) := by
  induction l with
  | nil => exact (of_eq_ok rfl).congr (iff_of_true trivial fun a ha => nomatch ha)
  | cons a rest ih =>
    have hrest := ih fun b hb => h b (List.mem_cons_of_mem a hb)
    have hcons : Yields fault ((a :: rest).mapM f) (c a ∧ ∀ b ∈ rest, c b) (g a :: rest.map g) := by
      rw [List.mapM_cons]
      exact (h a List.mem_cons_self).bind fun _ => hrest.map rfl
    exact hcons.congr List.forall_mem_cons.symm

theorem eq_ok_iff (h : Yields fault x c a) {b : α} : x = .ok b ↔ c ∧ b = a := by
  constructor
  · intro hb
    by_cases hc : c
    · rw [h.ok hc, Except.ok.injEq] at hb
      exact ⟨hc, hb.symm⟩
    · rw [h.error hc] at hb
      cases hb
  · rintro ⟨hc, rfl⟩
    exact h.ok hc

end Yields

end WindSymbols
