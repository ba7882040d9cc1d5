import RaucUpdate.Library.Programs

/-!
# Programs that leave a part of the state alone

A program that only asks its environment and decides leaves every assertion about the visible part
of the state as it is, and what it returns is a fact about its value.
-/

namespace RaucUpdate.Library.Prog

variable {σ τ υ ε α β : Type} {view : σ → υ} {C : α → Prop} {D : β → Prop}

/-- Nothing that is seen of the state changes, and what it returns satisfies the condition. -/
def Still (view : σ → υ) (p : Prog σ ε α) (C : α → Prop) : Prop :=
  ∀ v, Triple (fun s => view s = v) p (fun a s => view s = v ∧ C a) (fun _ s => view s = v)

lemma Still.triple {P : υ → Prop} {p : Prog σ ε α} (h : Still view p C) :
    Triple (fun s => P (view s)) p (fun a s => P (view s) ∧ C a) (fun _ s => P (view s)) := by
  intro w hw
  refine triple_consequence (h (view w.state)) (fun _ hs => hs) ?_ ?_ w rfl
  · rintro a s ⟨hs, ha⟩
    rw [hs]
    exact ⟨hw, ha⟩
  · intro x s hs
    rw [hs]
    exact hw

lemma still_pure {a : α} (h : C a) : Still view (pure a : Prog σ ε α) C :=
  fun _ => triple_pure (fun _ hs => ⟨hs, h⟩)

lemma still_exit (x : Exit ε) : Still view (exit x : Prog σ ε α) C :=
  fun _ => triple_exit (fun _ hs => hs)

lemma still_modify {f : σ → σ} (h : ∀ s, view (f s) = view s) :
    Still view (modify f : Prog σ ε Unit) (fun _ => True) :=
  fun _ => triple_modify (fun s hs => ⟨(h s).trans hs, trivial⟩)

lemma still_bind {p : Prog σ ε α} {f : α → Prog σ ε β} (hp : Still view p C)
    (hf : ∀ a, C a → Still view (f a) D) :
    Still view (p >>= f) D := by
  intro v
  apply triple_bind (hp v)
  intro a
  exact triple_fact (fun ha => hf a ha v)

lemma still_read_bind {f : σ → Prog σ ε β} (hf : ∀ s, Still view (f s) D) :
    Still view (read >>= f) D := by
  intro v
  apply triple_read_bind
  rintro s rfl
  exact triple_consequence (hf s (view s)) (fun s' hs => by rw [hs]) (fun _ _ h => h)
    (fun _ _ h => h)

lemma still_each {f : α → Prog σ ε Unit} (h : ∀ a, Still view (f a) (fun _ => True)) (l : List α) :
    Still view (each f l) (fun _ => True) := by
  induction l with
  | nil => exact still_pure trivial
  | cons a rest ih => exact still_bind (h a) (fun _ _ => ih)

lemma still_ask : Still view (ask : Prog σ ε (Option Failure)) (fun _ => True) :=
  fun _ => triple_ask (fun _ _ hs => ⟨hs, trivial⟩) (fun _ hs => hs)

lemma still_external (report : Failure → ε) : Still view (external id report : Prog σ ε Unit)
    (fun _ => True) :=
  fun _ => triple_external (fun _ hs => ⟨hs, trivial⟩) (fun _ hs _ => hs) (fun _ hs => hs)

/-- The effect of the step is out of sight. -/
lemma still_effect {effect : σ → σ} (report : Failure → ε) (h : ∀ s, view (effect s) = view s) :
    Still view (external effect report) (fun _ => True) :=
  fun _ => triple_external (fun s hs => ⟨(h s).trans hs, trivial⟩) (fun _ hs _ => hs)
    (fun _ hs => hs)

/-- A program on a part of the state that is out of sight. -/
lemma still_zoom_unseen {get : σ → τ} {put : τ → σ → σ} {p : Prog τ ε α}
    (h : ∀ t s, view (put t s) = view s) :
    Still view (zoom get put p) (fun _ => True) := by
  intro v
  apply triple_zoom
  intro s hs
  exact triple_consequence (triple_any (P := fun _ => True)) (fun _ _ => trivial)
    (fun _ t _ => ⟨(h t s).trans hs, trivial⟩) (fun _ t _ => (h t s).trans hs)

lemma still_attempt {p : Prog σ ε α} (h : Still view p C) :
    Still view (attempt p) (fun r => ∀ a, r = .ok a → C a) := by
  intro v
  refine triple_consequence (triple_attempt_cases (h v)) (fun _ hs => hs) ?_ (fun _ _ hs => hs)
  intro r s hr
  cases r with
  | ok a =>
    refine ⟨hr.1, ?_⟩
    rintro b ⟨⟩
    exact hr.2
  | error e =>
    refine ⟨hr, ?_⟩
    rintro b ⟨⟩

lemma still_mapError {p : Prog σ ε α} (f : ε → ε) (h : Still view p C) :
    Still view (mapError f p) C :=
  fun v => triple_mapError (h v) (fun _ _ hs => hs)

lemma still_consequence {p : Prog σ ε α} {C' : α → Prop} (h : Still view p C)
    (hC : ∀ a, C a → C' a) :
    Still view p C' :=
  fun v => triple_consequence (h v) (fun _ hs => hs) (fun _ _ hs => ⟨hs.1, hC _ hs.2⟩)
    (fun _ _ hs => hs)

/-- A program on something that is thrown away. -/
lemma still_zoom {t : τ} {p : Prog τ ε α}
    (h : Triple (fun t' => t' = t) p (fun a _ => C a) (fun _ _ => True)) :
    Still view (zoom (fun _ => t) (fun _ s => s) p : Prog σ ε α) C := by
  intro v
  apply triple_zoom
  intro s hs
  exact triple_consequence h (fun _ ht => ht) (fun _ _ ha => ⟨hs, ha⟩) (fun _ _ _ => hs)

end RaucUpdate.Library.Prog
