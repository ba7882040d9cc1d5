import RaucUpdate.Library.Programs

/-!
# Programs with a part of the state of their own

A program on a larger state mirrors a program on the part of it that `view` shows: it ends in the
same way, takes the same external steps and leaves the same behind, whatever it does to the rest of
the state meanwhile.
-/

namespace RaucUpdate.Library.Prog

variable {σ τ ε α β : Type} {view : σ → τ} {P P' : σ → Prop} {Q Q' : α → σ → Prop}
  {R : β → σ → Prop}
  {E E' : Exit ε → σ → Prop}

/-- The ways to end of both programs are the same, and so is what `view` shows of them. -/
structure SameRun (view : σ → τ) (r : Outcome ε α × World σ) (r' : Outcome ε α × World τ) :
    Prop where
  outcome : r.1 = r'.1
  fates : r.2.fates = r'.2.fates
  state : view r.2.state = r'.2.state

def Mirrors (view : σ → τ) (P : σ → Prop) (p : Prog σ ε α) (q : Prog τ ε α) (Q : α → σ → Prop)
    (E : Exit ε → σ → Prop) : Prop :=
  ∀ w, P w.state → SameRun view (p w) (q ⟨view w.state, w.fates⟩) ∧ Holds Q E (p w)

/-- The program returns this value without any external step and changes nothing that `view`
shows. -/
def Hidden (view : σ → τ) (P : σ → Prop) (p : Prog σ ε α) (a : α) (P' : σ → Prop) : Prop :=
  ∀ w, P w.state → ∃ s, p w = (.value a, ⟨s, w.fates⟩) ∧ view s = view w.state ∧ P' s

section Rules

lemma Mirrors.triple {p : Prog σ ε α} {q : Prog τ ε α} (h : Mirrors view P p q Q E) :
    Triple P p Q E :=
  fun w hw => (h w hw).2

lemma mirrors_consequence {p : Prog σ ε α} {q : Prog τ ε α} (h : Mirrors view P p q Q E)
    (hP : ∀ s, P' s → P s)
    (hQ : ∀ a s, Q a s → Q' a s) (hE : ∀ x s, E x s → E' x s) : Mirrors view P' p q Q' E' :=
  fun w hw => ⟨(h w (hP _ hw)).1, triple_consequence h.triple hP hQ hE w hw⟩

lemma mirrors_pure {a : α} (h : ∀ s, P s → Q a s) :
    Mirrors view P (pure a : Prog σ ε α) (pure a : Prog τ ε α) Q E :=
  fun w hw => ⟨⟨rfl, rfl, rfl⟩, h w.state hw⟩

lemma mirrors_exit {x : Exit ε} (h : ∀ s, P s → E x s) :
    Mirrors view P (exit x : Prog σ ε α) (exit x : Prog τ ε α) Q E :=
  fun w hw => ⟨⟨rfl, rfl, rfl⟩, h w.state hw⟩

lemma mirrors_bind {p : Prog σ ε α} {q : Prog τ ε α} {f : α → Prog σ ε β} {g : α → Prog τ ε β}
    (hp : Mirrors view P p q Q E) (hf : ∀ a, Mirrors view (Q a) (f a) (g a) R E) :
    Mirrors view P (p >>= f) (q >>= g) R E := by
  intro w hw
  obtain ⟨⟨hout, hfates, hstate⟩, hend⟩ := hp w hw
  cases hrun : p w with
  | mk o w' =>
    rw [hrun] at hout hfates hstate hend
    have hrun' : q ⟨view w.state, w.fates⟩ = (o, ⟨view w'.state, w'.fates⟩) := by
      rw [hfates, hstate, show o = _ from hout]
    cases o with
    | value a =>
      rw [bind_of_value hrun, bind_of_value hrun']
      exact hf a w' hend
    | exit x =>
      rw [bind_of_exit hrun, bind_of_exit hrun']
      exact ⟨⟨rfl, rfl, rfl⟩, hend⟩

/-- A program on the part that `view` shows, under an assertion on the rest. -/
lemma mirrors_zoom {put : τ → σ → σ} (hview : ∀ t s, view (put t s) = t)
    (hP : ∀ t s, P s → P (put t s))
    (q : Prog τ ε α) : Mirrors view P (zoom view put q) q (fun _ => P) (fun _ => P) := by
  intro w hw
  unfold zoom
  cases hrun : q ⟨view w.state, w.fates⟩ with
  | mk o w' =>
    refine ⟨⟨rfl, rfl, hview _ _⟩, ?_⟩
    unfold Holds
    cases o with
    | value a => exact hP _ _ hw
    | exit x => exact hP _ _ hw

lemma mirrors_hidden_bind {a : α} {p : Prog σ ε α} {f : α → Prog σ ε β} {q : Prog τ ε β}
    {M : σ → Prop}
    (hp : Hidden view P p a M) (hf : Mirrors view M (f a) q R E) :
      Mirrors view P (p >>= f) q R E := by
  intro w hw
  obtain ⟨s, hrun, hview, hM⟩ := hp w hw
  have hrest := hf ⟨s, w.fates⟩ hM
  rw [bind_of_value hrun, ← hview]
  exact hrest

lemma mirrors_attempt {p : Prog σ ε α} {q : Prog τ ε α} (h : Mirrors view P p q Q E) :
    Mirrors view P (attempt p) (attempt q) (fun r s => match r with
      | .ok a => Q a s
      | .error e => E (.error e) s) E := by
  intro w hw
  refine ⟨?_, triple_attempt_cases h.triple w hw⟩
  obtain ⟨⟨hout, hfates, hstate⟩, -⟩ := h w hw
  unfold attempt
  cases hrun : p w with
  | mk o w' =>
    rw [hrun] at hout hfates hstate
    have hrun' : q ⟨view w.state, w.fates⟩ = (o, ⟨view w'.state, w'.fates⟩) := by
      rw [hfates, hstate, show o = _ from hout]
    rw [hrun']
    cases o with
    | value a => exact ⟨rfl, rfl, rfl⟩
    | exit x =>
      cases x with
      | error e => exact ⟨rfl, rfl, rfl⟩
      | aborted reason => exact ⟨rfl, rfl, rfl⟩
      | stopped => exact ⟨rfl, rfl, rfl⟩

lemma mirrors_each {f : α → Prog σ ε Unit} {g : α → Prog τ ε Unit} (I : List α → σ → Prop)
    {l : List α}
    (h : ∀ a rest, a :: rest <:+ l → Mirrors view (I (a :: rest)) (f a) (g a) (fun _ => I rest) E) :
    Mirrors view (I l) (each f l) (each g l) (fun _ => I []) E := by
  induction l with
  | nil => exact mirrors_pure (fun _ hs => hs)
  | cons a rest ih =>
    exact mirrors_bind (h a rest (List.suffix_refl _))
      (fun _ => ih (fun b later hlater => h b later (hlater.trans (List.suffix_cons a rest))))

/-- A program whose error is looked at before it is passed on. -/
lemma mirrors_attempt_bind {p : Prog σ ε α} {q : Prog τ ε α} {f : Except ε α → Prog σ ε β}
    {g : α → Prog τ ε β}
    (hp : Mirrors view P p q Q E) (hok : ∀ a, Mirrors view (Q a) (f (.ok a)) (g a) R E')
    (herror : ∀ e, Mirrors view (E (.error e)) (f (.error e)) (exit (.error e)) R E')
    (haborted : ∀ reason s, E (.aborted reason) s → E' (.aborted reason) s)
    (hstopped : ∀ s, E .stopped s → E' .stopped s) :
      Mirrors view P (attempt p >>= f) (q >>= g) R E' := by
  intro w hw
  obtain ⟨⟨hout, hfates, hstate⟩, hend⟩ := hp w hw
  cases hrun : p w with
  | mk o w' =>
    rw [hrun] at hout hfates hstate hend
    have hrun' : q ⟨view w.state, w.fates⟩ = (o, ⟨view w'.state, w'.fates⟩) := by
      rw [hfates, hstate, show o = _ from hout]
    cases o with
    | value a =>
      rw [bind_of_value (attempt_of_value hrun), bind_of_value hrun']
      exact hok a w' hend
    | exit x =>
      rw [bind_of_exit hrun']
      cases x with
      | error e =>
        rw [bind_of_value (attempt_of_error hrun)]
        exact herror e w' hend
      | aborted reason =>
        rw [bind_of_exit (attempt_of_exit hrun (by simp))]
        exact ⟨⟨rfl, rfl, rfl⟩, haborted reason _ hend⟩
      | stopped =>
        rw [bind_of_exit (attempt_of_exit hrun (by simp))]
        exact ⟨⟨rfl, rfl, rfl⟩, hstopped _ hend⟩

lemma bind_pure_eq (p : Prog σ ε α) : (p >>= fun a => pure a) = p := by
  funext w
  cases hrun : p w with
  | mk o w' =>
    cases o with
    | value a => exact bind_of_value hrun
    | exit x => exact bind_of_exit hrun

/-- What is done after a program in its frame, with its result or with its error. -/
lemma mirrors_attempt_end {p : Prog σ ε α} {q : Prog τ ε α} {f : Except ε α → Prog σ ε α}
    (hp : Mirrors view P p q Q E)
    (hok : ∀ a, Mirrors view (Q a) (f (.ok a)) (pure a) Q' E')
    (herror : ∀ e, Mirrors view (E (.error e)) (f (.error e)) (exit (.error e)) Q' E')
    (haborted : ∀ reason s, E (.aborted reason) s → E' (.aborted reason) s)
    (hstopped : ∀ s, E .stopped s → E' .stopped s) : Mirrors view P (attempt p >>= f) q Q' E' := by
  rw [← bind_pure_eq q]
  exact mirrors_attempt_bind hp hok herror haborted hstopped

/-- What holds of every value of the mirrored program. -/
lemma mirrors_value {p : Prog σ ε α} {q : Prog τ ε α} {C : α → Prop} (h : Mirrors view P p q Q E)
    (hq : Triple (fun _ => True) q (fun a _ => C a) (fun _ _ => True)) :
    Mirrors view P p q (fun a s => Q a s ∧ C a) E := by
  intro w hw
  obtain ⟨hsame, hend⟩ := h w hw
  refine ⟨hsame, ?_⟩
  unfold Holds at hend ⊢
  cases hrun : (p w).1 with
  | value a =>
    rw [hrun] at hend
    exact ⟨hend, hq.value (w := ⟨view w.state, w.fates⟩) trivial (hsame.outcome.symm.trans hrun)⟩
  | exit x =>
    rw [hrun] at hend
    exact hend

lemma mirrors_fact {C : Prop} {p : Prog σ ε α} {q : Prog τ ε α} (h : C → Mirrors view P p q Q E) :
    Mirrors view (fun s => P s ∧ C) p q Q E :=
  fun w hw => h hw.2 w hw.1

end Rules

section Hidden

lemma hidden_pure {a : α} (h : ∀ s, P s → P' s) : Hidden view P (pure a : Prog σ ε α) a P' :=
  fun w hw => ⟨w.state, rfl, rfl, h _ hw⟩

lemma hidden_modify {f : σ → σ} (hview : ∀ s, view (f s) = view s) (h : ∀ s, P s → P' (f s)) :
    Hidden view P (modify f : Prog σ ε Unit) () P' :=
  fun w hw => ⟨f w.state, rfl, hview _, h _ hw⟩

lemma hidden_bind {a : α} {b : β} {p : Prog σ ε α} {f : α → Prog σ ε β} {M : σ → Prop}
    (hp : Hidden view P p a M)
    (hf : Hidden view M (f a) b P') : Hidden view P (p >>= f) b P' := by
  intro w hw
  obtain ⟨s, hrun, hview, hM⟩ := hp w hw
  obtain ⟨s', hrun', hview', hP'⟩ := hf ⟨s, w.fates⟩ hM
  refine ⟨s', ?_, hview'.trans hview, hP'⟩
  rw [bind_of_value hrun, hrun']

lemma hidden_read_bind {a : α} {f : σ → Prog σ ε α}
    (hf : ∀ s, P s → Hidden view (fun s' => s' = s) (f s) a P') :
    Hidden view P (read >>= f) a P' :=
  fun w hw => hf w.state hw w rfl

lemma hidden_each {f : α → Prog σ ε Unit} (I : List α → σ → Prop)
    (h : ∀ a rest, Hidden view (I (a :: rest)) (f a) () (I rest)) (l : List α) :
    Hidden view (I l) (each f l) () (I []) := by
  induction l with
  | nil => exact hidden_pure (fun _ hs => hs)
  | cons a rest ih => exact hidden_bind (h a rest) ih

lemma Hidden.triple {a : α} {p : Prog σ ε α} (h : Hidden view P p a P') :
    Triple P p (fun b s => b = a ∧ P' s) E := by
  intro w hw
  obtain ⟨s, hrun, -, hP'⟩ := h w hw
  rw [hrun]
  exact ⟨rfl, hP'⟩

end Hidden

section Equations

/-- The error of a sequence whose first part always returns is that of the second part. -/
lemma attempt_bind_eq {p : Prog σ ε α} (hp : ∀ w, ∃ a w', p w = (.value a, w'))
    (f : α → Prog σ ε β) :
    attempt (p >>= f) = p >>= fun a => attempt (f a) := by
  funext w
  obtain ⟨a, w', hrun⟩ := hp w
  have hleft : (p >>= f) w = f a w' := bind_of_value hrun
  have hright : (p >>= fun a => attempt (f a)) w = attempt (f a) w' := bind_of_value hrun
  rw [hright]
  unfold attempt
  rw [hleft]

/-- A sequence on a part of the state. -/
lemma zoom_bind {get : σ → τ} {put : τ → σ → σ} (hget : ∀ t s, get (put t s) = t)
    (hput : ∀ t t' s, put t (put t' s) = put t s) (p : Prog τ ε α) (f : α → Prog τ ε β) :
    zoom get put (p >>= f) = zoom get put p >>= fun a => zoom get put (f a) := by
  funext w
  cases hrun : p ⟨get w.state, w.fates⟩ with
  | mk o w' =>
    have hzoom : zoom get put p w = (o, ⟨put w'.state w.state, w'.fates⟩) := by
      unfold zoom
      rw [hrun]
    cases o with
    | value a =>
      rw [bind_of_value hzoom]
      unfold zoom
      rw [bind_of_value hrun]
      simp only [hget, hput]
    | exit x =>
      rw [bind_of_exit hzoom]
      unfold zoom
      rw [bind_of_exit hrun]

end Equations

end RaucUpdate.Library.Prog
