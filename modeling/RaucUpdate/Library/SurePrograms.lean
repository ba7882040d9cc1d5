import RaucUpdate.Library.Programs

/-!
# Programs that end early only for a fault

`Sure P p Q` says at once what a program leaves behind when it returns, under whatever faults, and
that nothing but a fault keeps it from returning.
-/

namespace RaucUpdate.Library.Prog

variable {σ ε α β : Type} {P P' : σ → Prop} {Q Q' : α → σ → Prop} {R : β → σ → Prop}

/-- From every state with `P` the program returns a value with `Q`, unless an external step does not
succeed. -/
def Sure (P : σ → Prop) (p : Prog σ ε α) (Q : α → σ → Prop) : Prop :=
  ∀ w, P w.state → match p w with
    | (.value a, w') => Q a w'.state ∧ ∃ k, w'.fates = fun n => w.fates (n + k)
    | (.exit _, _) => ∃ n, w.fates n ≠ .succeeds

lemma Sure.value {p : Prog σ ε α} (h : Sure P p Q) {w : World σ} (hw : P w.state) {a : α}
    {w' : World σ}
    (hrun : p w = (.value a, w')) : Q a w'.state ∧ ∃ k, w'.fates = fun n => w.fates (n + k) := by
  have hend := h w hw
  rwa [hrun] at hend

lemma Sure.fault {p : Prog σ ε α} (h : Sure P p Q) {w : World σ} (hw : P w.state) {x : Exit ε}
    {w' : World σ}
    (hrun : p w = (.exit x, w')) : ∃ n, w.fates n ≠ .succeeds := by
  have hend := h w hw
  rwa [hrun] at hend

lemma Sure.triple {p : Prog σ ε α} (h : Sure P p Q) : Triple P p Q (fun _ _ => True) := by
  intro w hw
  unfold Holds
  cases hrun : p w with
  | mk o w' =>
    cases o with
    | value a => exact (h.value hw hrun).1
    | exit x => trivial

lemma Sure.calms {p : Prog σ ε α} (h : Sure P p Q) : Calms P p Q := by
  intro s hs
  cases hrun : p (calm s) with
  | mk o w' =>
    cases o with
    | value a =>
      obtain ⟨hQ, k, hfates⟩ := h.value (w := calm s) hs hrun
      refine ⟨a, w'.state, ?_, hQ⟩
      unfold Calmly
      rw [hrun]
      exact congrArg (Prod.mk _) (congrArg (World.mk w'.state) hfates)
    | exit x =>
      obtain ⟨n, hn⟩ := h.fault (w := calm s) hs hrun
      exact absurd rfl hn

lemma sure_pure {a : α} (h : ∀ s, P s → Q a s) : Sure P (pure a : Prog σ ε α) Q :=
  fun w hw => ⟨h w.state hw, 0, rfl⟩

lemma sure_bind {p : Prog σ ε α} {f : α → Prog σ ε β} (hp : Sure P p Q)
    (hf : ∀ a, Sure (Q a) (f a) R) :
    Sure P (p >>= f) R := by
  intro w hw
  cases hfirst : p w with
  | mk o w₁ =>
    cases o with
    | exit x =>
      rw [bind_of_exit hfirst]
      exact hp.fault hw hfirst
    | value a =>
      obtain ⟨hQ, k, hk⟩ := hp.value hw hfirst
      rw [bind_of_value hfirst]
      cases hsecond : f a w₁ with
      | mk o' w₂ =>
        cases o' with
        | value b =>
          obtain ⟨hR, m, hm⟩ := (hf a).value hQ hsecond
          refine ⟨hR, m + k, ?_⟩
          rw [hm, hk]
          funext n
          exact congrArg w.fates (Nat.add_assoc n m k)
        | exit x =>
          obtain ⟨n, hn⟩ := (hf a).fault hQ hsecond
          rw [hk] at hn
          exact ⟨n + k, hn⟩

lemma sure_read_bind {f : σ → Prog σ ε β} (h : ∀ s, P s → Sure (fun s' => s' = s) (f s) R) :
    Sure P (read >>= f) R :=
  fun w hw => h w.state hw w rfl

lemma sure_modify {f : σ → σ} {Q : Unit → σ → Prop} (h : ∀ s, P s → Q () (f s)) :
    Sure P (modify f : Prog σ ε Unit) Q :=
  fun w hw => ⟨h w.state hw, 0, rfl⟩

lemma sure_external {effect : σ → σ} {report : Failure → ε} {Q : Unit → σ → Prop}
    (h : ∀ s, P s → Q () (effect s)) :
    Sure P (external effect report) Q := by
  intro w hw
  rw [external_eq]
  cases hfate : w.fates 0 with
  | succeeds => exact ⟨h w.state hw, 1, rfl⟩
  | fails failure => exact ⟨0, by rw [hfate]; exact Fate.noConfusion⟩
  | stops => exact ⟨0, by rw [hfate]; exact Fate.noConfusion⟩

/-- An external step that changes nothing. -/
lemma sure_external_id {report : Failure → ε} : Sure P (external id report) (fun _ => P) :=
  sure_external (fun _ h => h)

/-- A step whose failure ends the program. -/
lemma sure_ask_bind {f : Option Failure → Prog σ ε β} (hnone : Sure P (f none) R)
    (hsome : ∀ failure, Triple (fun _ => True) (f (some failure)) (fun _ _ => False)
      (fun _ _ => True)) :
    Sure P (ask >>= f) R := by
  intro w hw
  cases hfate : w.fates 0 with
  | succeeds =>
    have hask : (ask : Prog σ ε (Option Failure)) w =
        (.value none, ⟨w.state, fun n => w.fates (n + 1)⟩) := by
      unfold ask
      rw [hfate]
    rw [bind_of_value hask]
    cases hrun : f none ⟨w.state, fun n => w.fates (n + 1)⟩ with
    | mk o w' =>
      cases o with
      | value b =>
        obtain ⟨hR, k, hk⟩ := hnone.value (w := ⟨w.state, fun n => w.fates (n + 1)⟩) hw hrun
        exact ⟨hR, k + 1, hk⟩
      | exit x =>
        obtain ⟨n, hn⟩ := hnone.fault (w := ⟨w.state, fun n => w.fates (n + 1)⟩) hw hrun
        exact ⟨n + 1, hn⟩
  | fails failure =>
    have hask : (ask : Prog σ ε (Option Failure)) w =
        (.value (some failure), ⟨w.state, fun n => w.fates (n + 1)⟩) := by
      unfold ask
      rw [hfate]
    rw [bind_of_value hask]
    cases hrun : f (some failure) ⟨w.state, fun n => w.fates (n + 1)⟩ with
    | mk o w' =>
      cases o with
      | value b =>
        have hend := (hsome failure).value (w := ⟨w.state, fun n => w.fates (n + 1)⟩) trivial
          (congrArg Prod.fst hrun)
        exact absurd hend not_false
      | exit x => exact ⟨0, by rw [hfate]; exact Fate.noConfusion⟩
  | stops =>
    have hask : (ask : Prog σ ε (Option Failure)) w =
        (.exit .stopped, ⟨w.state, fun n => w.fates (n + 1)⟩) := by
      unfold ask
      rw [hfate]
    rw [bind_of_exit hask]
    exact ⟨0, by rw [hfate]; exact Fate.noConfusion⟩

lemma sure_consequence {p : Prog σ ε α} (h : Sure P p Q) (hP : ∀ s, P' s → P s)
    (hQ : ∀ a s, Q a s → Q' a s) :
    Sure P' p Q' := by
  intro w hw
  cases hrun : p w with
  | mk o w' =>
    cases o with
    | value a =>
      obtain ⟨hend, hfates⟩ := h.value (hP _ hw) hrun
      exact ⟨hQ a _ hend, hfates⟩
    | exit x => exact h.fault (hP _ hw) hrun

/-- The state in which the program starts can be named. -/
lemma sure_start {p : Prog σ ε α} (h : ∀ s, P s → Sure (fun s' => s' = s) p Q) : Sure P p Q :=
  fun w hw => h w.state hw w rfl

/-- A fact about the values read so far moves from the assertion into the context. -/
lemma sure_fact {C : Prop} {p : Prog σ ε α} (h : C → Sure P p Q) : Sure (fun s => P s ∧ C) p Q :=
  fun w hw => h hw.2 w hw.1

/-- What is done about an error does not return. -/
lemma sure_attempt_bind {p : Prog σ ε α} {f : Except ε α → Prog σ ε β} (hp : Sure P p Q)
    (hok : ∀ a, Sure (Q a) (f (.ok a)) R)
    (herror : ∀ e, Triple (fun _ => True) (f (.error e)) (fun _ _ => False) (fun _ _ => True)) :
    Sure P (attempt p >>= f) R := by
  intro w hw
  have hgood := sure_bind hp hok w hw
  cases hfirst : p w with
  | mk o w₁ =>
    cases o with
    | value a =>
      rw [bind_of_value hfirst] at hgood
      rwa [bind_of_value (attempt_of_value hfirst)]
    | exit x =>
      have hfault := hp.fault hw hfirst
      have hexit : ∀ o w', (attempt p >>= f) w = (o, w') → ∃ x, o = .exit x := by
        intro o w' hrun
        cases o with
        | exit x => exact ⟨x, rfl⟩
        | value b =>
          cases x with
          | error e =>
            rw [bind_of_value (attempt_of_error hfirst)] at hrun
            exact absurd ((herror e).value (w := w₁) trivial (congrArg Prod.fst hrun)) not_false
          | aborted reason =>
            rw [bind_of_exit (attempt_of_exit hfirst (by simp))] at hrun
            cases hrun
          | stopped =>
            rw [bind_of_exit (attempt_of_exit hfirst (by simp))] at hrun
            cases hrun
      cases hall : (attempt p >>= f) w with
      | mk o w' =>
        obtain ⟨x, rfl⟩ := hexit o w' hall
        exact hfault

/-- The loop rule: the assertion may depend on the elements that are still to come. -/
lemma sure_each {f : α → Prog σ ε Unit} (I : List α → σ → Prop)
    (h : ∀ a rest, Sure (I (a :: rest)) (f a) (fun _ => I rest)) (l : List α) :
    Sure (I l) (each f l) (fun _ => I []) := by
  induction l with
  | nil => exact sure_pure (fun _ hs => hs)
  | cons a rest ih => exact sure_bind (h a rest) (fun _ => ih)

lemma sure_mapError {f : ε → ε} {p : Prog σ ε α} (h : Sure P p Q) : Sure P (mapError f p) Q := by
  intro w hw
  have hend := h w hw
  unfold mapError
  cases hrun : p w with
  | mk o w' =>
    rw [hrun] at hend
    cases o with
    | value a => exact hend
    | exit x =>
      cases x with
      | error e => exact hend
      | aborted reason => exact hend
      | stopped => exact hend

section Refusal

variable {e : ε}

/-- From no state with `P` the program returns, and it reports this error unless an external step
does not succeed. -/
def Refuses (P : σ → Prop) (p : Prog σ ε α) (e : ε) : Prop :=
  ∀ w, P w.state → ∃ x, (p w).1 = .exit x ∧ (x = .error e ∨ ∃ n, w.fates n ≠ .succeeds)

lemma refuses_fail : Refuses P (fail e : Prog σ ε α) e := fun _ _ => ⟨.error e, rfl, .inl rfl⟩

lemma Refuses.triple {p : Prog σ ε α} (h : Refuses P p e) :
    Triple P p (fun _ _ => False) (fun _ _ => True) := by
  intro w hw
  obtain ⟨x, hx, -⟩ := h w hw
  unfold Holds
  rw [hx]
  trivial

lemma refuses_bind {p : Prog σ ε α} {f : α → Prog σ ε β} (hp : Sure P p Q)
    (hf : ∀ a, Refuses (Q a) (f a) e) :
    Refuses P (p >>= f) e := by
  intro w hw
  cases hfirst : p w with
  | mk o w₁ =>
    cases o with
    | exit x => exact ⟨x, by rw [bind_of_exit hfirst], .inr (hp.fault hw hfirst)⟩
    | value a =>
      obtain ⟨hQ, k, hk⟩ := hp.value hw hfirst
      obtain ⟨x, hx, hcause⟩ := hf a w₁ hQ
      refine ⟨x, by rw [bind_of_value hfirst, hx], ?_⟩
      rcases hcause with herror | ⟨n, hn⟩
      · exact .inl herror
      · rw [hk] at hn
        exact .inr ⟨n + k, hn⟩

lemma refuses_read_bind {f : σ → Prog σ ε β} (h : ∀ s, P s → Refuses (fun s' => s' = s) (f s) e) :
    Refuses P (read >>= f) e :=
  fun w hw => h w.state hw w rfl

lemma refuses_mapError {f : ε → ε} {p : Prog σ ε α} (h : Refuses P p e) :
    Refuses P (mapError f p) (f e) := by
  intro w hw
  obtain ⟨x, hx, hcause⟩ := h w hw
  cases hrun : p w with
  | mk o w' =>
    rw [hrun] at hx
    have ho : o = .exit x := hx
    subst ho
    unfold mapError
    rw [hrun]
    cases x with
    | error e' =>
      refine ⟨.error (f e'), rfl, hcause.imp_left (fun herror => ?_)⟩
      rw [Exit.error.inj herror]
    | aborted reason => exact ⟨.aborted reason, rfl, .inr (hcause.resolve_left (by simp))⟩
    | stopped => exact ⟨.stopped, rfl, .inr (hcause.resolve_left (by simp))⟩

end Refusal

end RaucUpdate.Library.Prog
