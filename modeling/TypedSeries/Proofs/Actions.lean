import Mathlib.Data.List.Forall2

/-!
# Actions that may fail

Conversations, operations and actions of a store are all functions from a state to a result or an
error and a state after it.

1. `mapM_eq_ok_iff`: a list of results, or the error of one of them.
2. `bind_apply`: one action after another, evaluated.
3. `Respects`: two actions that, from states of a relation, give one result and leave states of
   the relation. What respects a relation can be put together (`Respects.bind`).
-/

namespace TypedSeries

/-! ## Lists of results -/

section Results

variable {α β γ ε : Type} {f : α → Except ε β} {l : List α} {out : List β}

/-- Results for every item of a list, or the error of one of them. -/
theorem mapM_cases (f : α → Except ε β) (l : List α) :
    (∃ out, l.mapM f = .ok out ∧ List.Forall₂ (fun a b => f a = .ok b) l out) ∨
      ∃ a ∈ l, ∃ e, f a = .error e ∧ l.mapM f = .error e := by
  induction l with
  | nil => exact .inl ⟨[], rfl, .nil⟩
  | cons a l ih =>
    rw [List.mapM_cons]
    cases ha : f a with
    | error e => exact .inr ⟨a, List.mem_cons_self, e, ha, rfl⟩
    | ok b =>
      rcases ih with ⟨out, hout, hall⟩ | ⟨a', ha', e, he, herr⟩
      · rw [hout]
        exact .inl ⟨b :: out, rfl, .cons ha hall⟩
      · rw [herr]
        exact .inr ⟨a', List.mem_cons_of_mem a ha', e, he, rfl⟩

theorem mapM_eq_ok_iff : l.mapM f = .ok out ↔ List.Forall₂ (fun a b => f a = .ok b) l out := by
  constructor
  · intro h
    rcases mapM_cases f l with ⟨out', hout, hall⟩ | ⟨a, -, e, -, herr⟩
    · obtain rfl : out = out' := Except.ok.inj (h.symm.trans hout)
      exact hall
    · exact nomatch h.symm.trans herr
  · intro h
    induction h with
    | nil => rfl
    | cons ha _ ih =>
      rw [List.mapM_cons, ha, ih]
      rfl

theorem mem_of_mapM (h : l.mapM f = .ok out) {b : β} (hb : b ∈ out) : ∃ a ∈ l, f a = .ok b := by
  induction mapM_eq_ok_iff.1 h with
  | nil => cases hb
  | @cons a _ l _ ha hall ih =>
    rcases List.mem_cons.1 hb with rfl | hb
    · exact ⟨a, List.mem_cons_self, ha⟩
    · obtain ⟨x, hx, hfx⟩ := ih (mapM_eq_ok_iff.2 hall) hb
      exact ⟨x, List.mem_cons_of_mem _ hx, hfx⟩

theorem mapM_map_eq_ok {g : γ → α} {k : γ → β} {l : List γ} (h : ∀ c ∈ l, f (g c) = .ok (k c)) :
    (l.map g).mapM f = .ok (l.map k) := by
  rw [mapM_eq_ok_iff, List.forall₂_map_left_iff, List.forall₂_map_right_iff, List.forall₂_same]
  exact h

end Results

theorem mapM_map_eq_some {α β γ : Type} {f : α → Option β} {g : γ → α} {k : γ → β}
    (h : ∀ c, f (g c) = some (k c)) (l : List γ) : (l.map g).mapM f = some (l.map k) := by
  have hpure : f ∘ g = fun c => pure (k c) := funext h
  rw [List.mapM_map, hpure]
  exact List.mapM_pure

/-! ## One after another -/

/-- An action that may fail, then one on its result and on the state it leaves. -/
theorem bind_apply {ε σ α β : Type} (a : ExceptT ε (StateM σ) α) (f : α → ExceptT ε (StateM σ) β)
    (s : σ) : (a >>= f) s = match a s with
      | (.ok x, s) => f x s
      | (.error e, s) => (.error e, s) := by
  show ExceptT.bindCont f (a s).1 (a s).2 = _
  generalize a s = p
  obtain ⟨x | e, s⟩ := p <;> rfl

/-! ## Two side by side -/

/-- Two actions give one result from related states, and leave related states. -/
def Respects {ε σ α : Type} (R : σ → σ → Prop) (a a' : ExceptT ε (StateM σ) α) : Prop :=
  ∀ s s', R s s' → (a s).1 = (a' s').1 ∧ R (a s).2 (a' s').2

section Respects

variable {ε σ α β : Type} {R : σ → σ → Prop}

theorem Respects.bind {a a' : ExceptT ε (StateM σ) α} {f f' : α → ExceptT ε (StateM σ) β}
    (ha : Respects R a a') (hf : ∀ x, Respects R (f x) (f' x)) :
    Respects R (a >>= f) (a' >>= f') := by
  intro s s' hs
  obtain ⟨hresult, hafter⟩ := ha s s' hs
  rw [bind_apply, bind_apply]
  generalize a s = p at hresult hafter
  generalize a' s' = p' at hresult hafter
  obtain ⟨e | x, u⟩ := p
  · obtain ⟨e', u'⟩ := p'
    obtain rfl : .error e = e' := hresult
    exact ⟨rfl, hafter⟩
  · obtain ⟨x', u'⟩ := p'
    obtain rfl : .ok x = x' := hresult
    exact hf x u u' hafter

theorem respects_pure (x : α) : Respects R (pure x : ExceptT ε (StateM σ) α) (pure x) :=
  fun _ _ hs => ⟨rfl, hs⟩

theorem respects_throw (e : ε) : Respects R (throw e : ExceptT ε (StateM σ) α) (throw e) :=
  fun _ _ hs => ⟨rfl, hs⟩

theorem respects_result (result : Except ε α) :
    Respects R (liftM result : ExceptT ε (StateM σ) α) (liftM result) := by
  cases result with
  | ok x => exact respects_pure x
  | error e => exact respects_throw e

end Respects

end TypedSeries
