import Mathlib.Logic.Basic

/-!
# Programs under faults

A program runs on a state and asks its environment for the fate of each external step: the
step succeeds, it fails in some way, or the whole execution stops there. Quantifying over
the fates quantifies over every choice of failing steps and over every point at which the
execution can stop. `Triple` states what holds on each way out, and the rules below follow the
structure of a program.
-/

namespace RaucUpdate.Library

/-- How an external command can fail: it does not start, the exchange with it breaks, a signal
ends it, or it reports an exit status. -/
inductive Failure where
  | notStarted (message : String)
  | interrupted (message : String)
  | killed
  | exitStatus (code : Nat)
  deriving DecidableEq

inductive Fate where
  | succeeds
  | fails (failure : Failure)
  | stops
  deriving DecidableEq

structure World (σ : Type) where
  state : σ
  fates : Nat → Fate

/-- The ways a program ends without a value: a reported error, an abort of the process, or the
stop of the whole execution. -/
inductive Exit (ε : Type) where
  | error (e : ε)
  | aborted (reason : String)
  | stopped
  deriving DecidableEq

inductive Outcome (ε α : Type) where
  | value (a : α)
  | exit (x : Exit ε)
  deriving DecidableEq

def Prog (σ ε α : Type) : Type := World σ → Outcome ε α × World σ

namespace Prog

variable {σ ε α β : Type}

def pure (a : α) : Prog σ ε α := fun w => (.value a, w)

def bind (p : Prog σ ε α) (f : α → Prog σ ε β) : Prog σ ε β := fun w =>
  match p w with
  | (.value a, w') => f a w'
  | (.exit x, w') => (.exit x, w')

instance : Monad (Prog σ ε) where
  pure := pure
  bind := bind

def read : Prog σ ε σ := fun w => (.value w.state, w)

def modify (f : σ → σ) : Prog σ ε Unit := fun w => (.value (), { w with state := f w.state })

def exit (x : Exit ε) : Prog σ ε α := fun w => (.exit x, w)

def fail (e : ε) : Prog σ ε α := exit (.error e)

def abort (reason : String) : Prog σ ε α := exit (.aborted reason)

/-- Asks for the fate of the next external step. A stop ends the execution at once. -/
def ask : Prog σ ε (Option Failure) := fun w =>
  let w' := { w with fates := fun n => w.fates (n + 1) }
  match w.fates 0 with
  | .succeeds => (.value none, w')
  | .fails failure => (.value (some failure), w')
  | .stops => (.exit .stopped, w')

/-- An external step: its effect takes place when it succeeds, and a failure is reported. -/
def external (effect : σ → σ) (report : Failure → ε) : Prog σ ε Unit := do
  match ← ask with
  | none => modify effect
  | some failure => fail (report failure)

/-- Runs a program and hands its error to the caller. -/
def attempt (p : Prog σ ε α) : Prog σ ε (Except ε α) := fun w =>
  match p w with
  | (.value a, w') => (.value (.ok a), w')
  | (.exit (.error e), w') => (.value (.error e), w')
  | (.exit x, w') => (.exit x, w')

/-- Changes the error a program reports. -/
def mapError (f : ε → ε) (p : Prog σ ε α) : Prog σ ε α := fun w =>
  match p w with
  | (.exit (.error e), w') => (.exit (.error (f e)), w')
  | r => r

/-- Turns the error of a program into one of another kind. -/
def reportAs {ε' : Type} (f : ε → ε') (p : Prog σ ε α) : Prog σ ε' α := fun w =>
  match p w with
  | (.value a, w') => (.value a, w')
  | (.exit (.error e), w') => (.exit (.error (f e)), w')
  | (.exit (.aborted reason), w') => (.exit (.aborted reason), w')
  | (.exit .stopped, w') => (.exit .stopped, w')

/-- Runs a program on a part of the state. -/
def zoom {τ : Type} (get : σ → τ) (put : τ → σ → σ) (p : Prog τ ε α) : Prog σ ε α := fun w =>
  match p ⟨get w.state, w.fates⟩ with
  | (r, w') => (r, ⟨put w'.state w.state, w'.fates⟩)

/-- A result that was computed without the state. -/
def ofExcept : Except ε α → Prog σ ε α
  | .ok a => pure a
  | .error e => fail e

/-- The world in which every external step succeeds. -/
def calm (s : σ) : World σ := ⟨s, fun _ => .succeeds⟩

/-- What a program reports when no external step fails. -/
def observe (p : Prog σ ε α) (s : σ) : Outcome ε α := (p (calm s)).1

/-- Runs a program for each element of a list, in order. -/
def each (f : α → Prog σ ε Unit) : List α → Prog σ ε Unit
  | [] => pure ()
  | a :: rest => bind (f a) (fun _ => each f rest)

lemma bind_of_value {p : Prog σ ε α} {f : α → Prog σ ε β} {w w' : World σ} {a : α}
    (h : p w = (.value a, w')) : (p >>= f) w = f a w' := by
  change bind p f w = f a w'
  rw [bind, h]

lemma bind_of_exit {p : Prog σ ε α} {f : α → Prog σ ε β} {w w' : World σ} {x : Exit ε}
    (h : p w = (.exit x, w')) : (p >>= f) w = (.exit x, w') := by
  change bind p f w = _
  rw [bind, h]

/-- A sequence has a result only if its first part has one. -/
lemma bind_eq_value {p : Prog σ ε α} {f : α → Prog σ ε β} {w w' : World σ} {b : β}
    (h : bind p f w = (.value b, w')) : ∃ a w₁, p w = (.value a, w₁) ∧ f a w₁ = (.value b, w') := by
  cases hrun : p w with
  | mk o w₁ =>
    cases o with
    | value a => exact ⟨a, w₁, rfl, (bind_of_value hrun).symm.trans h⟩
    | exit x => exact absurd ((bind_of_exit hrun).symm.trans h) (by simp)

/-- Sequences may be taken together from either end. -/
lemma bind_bind {γ : Type} (p : Prog σ ε α) (f : α → Prog σ ε β) (g : β → Prog σ ε γ) :
    (p >>= f) >>= g = p >>= fun a => f a >>= g := by
  funext w
  cases hrun : p w with
  | mk o w' =>
    cases o with
    | value a =>
      rw [bind_of_value hrun]
      cases hnext : f a w' with
      | mk o' w'' =>
        cases o' with
        | value b => rw [bind_of_value hnext, bind_of_value ((bind_of_value hrun).trans hnext)]
        | exit x => rw [bind_of_exit hnext, bind_of_exit ((bind_of_value hrun).trans hnext)]
    | exit x => rw [bind_of_exit hrun, bind_of_exit (bind_of_exit hrun)]

lemma attempt_of_value {p : Prog σ ε α} {w w' : World σ} {a : α} (h : p w = (.value a, w')) :
    attempt p w = (.value (.ok a), w') := by
  unfold attempt
  rw [h]

lemma attempt_of_error {p : Prog σ ε α} {w w' : World σ} {e : ε}
    (h : p w = (.exit (.error e), w')) :
    attempt p w = (.value (.error e), w') := by
  unfold attempt
  rw [h]

lemma attempt_of_exit {p : Prog σ ε α} {w w' : World σ} {x : Exit ε} (h : p w = (.exit x, w'))
    (hx : ∀ e, x ≠ .error e) : attempt p w = (.exit x, w') := by
  unfold attempt
  rw [h]
  cases x with
  | error e => exact absurd rfl (hx e)
  | aborted reason => rfl
  | stopped => rfl

lemma each_append (f : α → Prog σ ε Unit) (xs ys : List α) :
    each f (xs ++ ys) = bind (each f xs) (fun _ => each f ys) := by
  induction xs with
  | nil => rfl
  | cons x rest ih =>
    have hassoc := bind_bind (f x) (fun _ => each f rest) (fun _ => each f ys)
    rw [List.cons_append, each, each, ih]
    exact hassoc.symm

/-- The programs for the elements in front return, and the one for this element does not. -/
def StopsAt (f : α → Prog σ ε Unit) (l : List α) (w : World σ) (a : α) (x : Exit ε)
    (w' : World σ) : Prop :=
  ∃ before after w₁, l = before ++ a :: after ∧ each f before w = (.value (), w₁) ∧
    f a w₁ = (.exit x, w')

/-- A loop ends early where one of its programs does. -/
lemma each_exit_iff {f : α → Prog σ ε Unit} {l : List α} {w w' : World σ} {x : Exit ε} :
    each f l w = (.exit x, w') ↔ ∃ a, StopsAt f l w a x w' := by
  constructor
  · intro h
    induction l generalizing w with
    | nil => exact absurd (congrArg Prod.fst h) (by simp [each, pure])
    | cons a rest ih =>
      cases hrun : f a w with
      | mk o w₁ =>
        cases o with
        | value _ =>
          obtain ⟨b, before, after, w₂, hl, hbefore, hstop⟩ :=
            ih ((bind_of_value hrun).symm.trans h)
          exact ⟨b, a :: before, after,
            w₂, by rw [hl, List.cons_append], (bind_of_value hrun).trans hbefore, hstop⟩
        | exit y =>
          have hexit : (Outcome.exit y, w₁) = (Outcome.exit x, w') :=
            (bind_of_exit hrun).symm.trans h
          exact ⟨a, [], rest, w, rfl, rfl, hrun.trans hexit⟩
  · rintro ⟨a, before, after, w₁, rfl, hbefore, hstop⟩
    rw [each_append]
    exact (bind_of_value hbefore).trans (bind_of_exit hstop)

lemma external_eq (effect : σ → σ) (report : Failure → ε) (w : World σ) :
    external effect report w =
      match w.fates 0 with
      | .succeeds => (.value (), ⟨effect w.state, fun n => w.fates (n + 1)⟩)
      | .fails failure => (.exit (.error (report failure)), ⟨w.state, fun n => w.fates (n + 1)⟩)
      | .stops => (.exit .stopped, ⟨w.state, fun n => w.fates (n + 1)⟩) := by
  change bind ask _ w = _
  unfold bind ask
  cases w.fates 0 with
  | succeeds => rfl
  | fails failure => rfl
  | stops => rfl

def Holds (Q : α → σ → Prop) (E : Exit ε → σ → Prop) (r : Outcome ε α × World σ) : Prop :=
  match r.1 with
  | .value a => Q a r.2.state
  | .exit x => E x r.2.state

def Triple (P : σ → Prop) (p : Prog σ ε α) (Q : α → σ → Prop) (E : Exit ε → σ → Prop) : Prop :=
  ∀ w, P w.state → Holds Q E (p w)

variable {P P' : σ → Prop} {Q Q' : α → σ → Prop} {R : β → σ → Prop} {E E' : Exit ε → σ → Prop}

lemma Triple.value {p : Prog σ ε α} (h : Triple P p Q E) {w : World σ} (hw : P w.state) {a : α}
    (hr : (p w).1 = .value a) : Q a (p w).2.state := by
  have hrun := h w hw
  unfold Holds at hrun
  rwa [hr] at hrun

lemma Triple.exit {p : Prog σ ε α} (h : Triple P p Q E) {w : World σ} (hw : P w.state) {x : Exit ε}
    (hr : (p w).1 = .exit x) : E x (p w).2.state := by
  have hrun := h w hw
  unfold Holds at hrun
  rwa [hr] at hrun

/-- What holds on every way out holds of the state afterwards. -/
lemma Triple.state {I : σ → Prop} {p : Prog σ ε α} (h : Triple P p (fun _ => I) (fun _ => I))
    {w : World σ}
    (hw : P w.state) : I (p w).2.state := by
  cases hr : (p w).1 with
  | value a => exact h.value hw hr
  | exit x => exact h.exit hw hr

lemma triple_consequence {p : Prog σ ε α} (h : Triple P p Q E) (hP : ∀ s, P' s → P s)
    (hQ : ∀ a s, Q a s → Q' a s) (hE : ∀ x s, E x s → E' x s) : Triple P' p Q' E' := by
  intro w hw
  unfold Holds
  cases hr : (p w).1 with
  | value a => exact hQ a _ (h.value (hP _ hw) hr)
  | exit x => exact hE x _ (h.exit (hP _ hw) hr)

/-- A program is looked at for each state it can start in. -/
lemma triple_start {p : Prog σ ε α} (h : ∀ s, P s → Triple (fun s' => s' = s) p Q E) :
    Triple P p Q E :=
  fun w hw => h w.state hw w rfl

lemma triple_and {p : Prog σ ε α} (h : Triple P p Q E) (h' : Triple P p Q' E') :
    Triple P p (fun a s => Q a s ∧ Q' a s) (fun x s => E x s ∧ E' x s) := by
  intro w hw
  unfold Holds
  cases hr : (p w).1 with
  | value a => exact ⟨h.value hw hr, h'.value hw hr⟩
  | exit x => exact ⟨h.exit hw hr, h'.exit hw hr⟩

/-- Two triples with assertions of their own. -/
lemma triple_both {p : Prog σ ε α} (h : Triple P p Q E) (h' : Triple P' p Q' E') :
    Triple (fun s => P s ∧ P' s) p (fun a s => Q a s ∧ Q' a s) (fun x s => E x s ∧ E' x s) :=
  triple_and (triple_consequence h (fun _ hs => hs.1) (fun _ _ hs => hs) (fun _ _ hs => hs))
    (triple_consequence h' (fun _ hs => hs.2) (fun _ _ hs => hs) (fun _ _ hs => hs))

/-- Nothing is said of any way out. -/
lemma triple_any {p : Prog σ ε α} : Triple P p (fun _ _ => True) (fun _ _ => True) := by
  intro w _
  unfold Holds
  cases (p w).1 with
  | value a => trivial
  | exit x => trivial

/-- A fact about the values read so far moves from the assertion into the context. -/
lemma triple_fact {C : Prop} {p : Prog σ ε α} (h : C → Triple P p Q E) :
    Triple (fun s => P s ∧ C) p Q E :=
  fun w hw => h hw.2 w hw.1

lemma triple_pure {a : α} (h : ∀ s, P s → Q a s) : Triple P (pure a : Prog σ ε α) Q E :=
  fun w hw => h w.state hw

lemma triple_bind {p : Prog σ ε α} {f : α → Prog σ ε β} (hp : Triple P p Q E)
    (hf : ∀ a, Triple (Q a) (f a) R E) : Triple P (p >>= f) R E := by
  intro w hw
  have hrun := hp w hw
  change Holds R E (bind p f w)
  unfold bind
  cases h : p w with
  | mk o w' =>
    rw [h] at hrun
    cases o with
    | value a => exact hf a w' hrun
    | exit x => exact hrun

lemma triple_read {Q : σ → σ → Prop} (h : ∀ s, P s → Q s s) :
    Triple P (read : Prog σ ε σ) Q E :=
  fun w hw => h w.state hw

lemma triple_read_bind {f : σ → Prog σ ε β} (h : ∀ s, P s → Triple (fun s' => s' = s) (f s) R E) :
    Triple P (read >>= f) R E :=
  fun w hw => h w.state hw w rfl

lemma triple_modify {f : σ → σ} {Q : Unit → σ → Prop} (h : ∀ s, P s → Q () (f s)) :
    Triple P (modify f : Prog σ ε Unit) Q E :=
  fun w hw => h w.state hw

lemma triple_exit {x : Exit ε} (h : ∀ s, P s → E x s) : Triple P (exit x : Prog σ ε α) Q E :=
  fun w hw => h w.state hw

lemma triple_ask {Q : Option Failure → σ → Prop} (hQ : ∀ r s, P s → Q r s)
    (hE : ∀ s, P s → E .stopped s) :
    Triple P (ask : Prog σ ε (Option Failure)) Q E := by
  intro w hw
  unfold ask
  cases hf : w.fates 0 with
  | succeeds => exact hQ none _ hw
  | fails failure => exact hQ (some failure) _ hw
  | stops => exact hE _ hw

lemma triple_external {effect : σ → σ} {report : Failure → ε} {Q : Unit → σ → Prop}
    (hQ : ∀ s, P s → Q () (effect s)) (hE : ∀ s, P s → ∀ m, E (.error (report m)) s)
    (hstop : ∀ s, P s → E .stopped s) : Triple P (external effect report) Q E := by
  refine triple_bind (Q := fun _ s => P s) (triple_ask (fun _ _ h => h) hstop) ?_
  intro r
  cases r with
  | none => exact triple_modify hQ
  | some failure => exact triple_exit (fun s hs => hE s hs failure)

/-- An external step that changes nothing. -/
lemma triple_external_id {report : Failure → ε} (hE : ∀ x s, P s → E x s) :
    Triple P (external id report) (fun _ => P) E :=
  triple_external (fun _ h => h) (fun s hs m => hE (.error (report m)) s hs) (hE .stopped)

lemma triple_attempt {p : Prog σ ε α} {Q : Except ε α → σ → Prop}
    (h : Triple P p (fun a s => Q (.ok a) s) (fun x s => match x with
      | .error e => Q (.error e) s
      | x => E x s)) : Triple P (attempt p) Q E := by
  intro w hw
  have hrun := h w hw
  unfold attempt
  cases hp : p w with
  | mk o w' =>
    rw [hp] at hrun
    cases o with
    | value a => exact hrun
    | exit x =>
      cases x with
      | error e => exact hrun
      | aborted reason => exact hrun
      | stopped => exact hrun

/-- The same assertions, with an error as a result. -/
lemma triple_attempt_cases {p : Prog σ ε α} (h : Triple P p Q E) :
    Triple P (attempt p) (fun r s => match r with
      | .ok a => Q a s
      | .error e => E (.error e) s) E := by
  apply triple_attempt
  apply triple_consequence h (fun _ hs => hs) (fun _ _ hs => hs)
  intro x s hs
  cases x with
  | error e => exact hs
  | aborted reason => exact hs
  | stopped => exact hs

lemma triple_mapError {f : ε → ε} {p : Prog σ ε α} (h : Triple P p Q E)
    (hE : ∀ e s, E (.error e) s → E (.error (f e)) s) : Triple P (mapError f p) Q E := by
  intro w hw
  have hrun := h w hw
  unfold mapError
  cases hp : p w with
  | mk o w' =>
    rw [hp] at hrun
    cases o with
    | value a => exact hrun
    | exit x =>
      cases x with
      | error e => exact hE e _ hrun
      | aborted reason => exact hrun
      | stopped => exact hrun

/-- One assertion for all the ways a program ends without a value. -/
lemma triple_reportAs {ε' : Type} {f : ε → ε'} {p : Prog σ ε α} {S : σ → Prop}
    (h : Triple P p Q (fun _ => S)) :
    Triple P (reportAs f p) Q (fun _ => S) := by
  intro w hw
  have hrun := h w hw
  unfold reportAs
  cases hp : p w with
  | mk o w' =>
    rw [hp] at hrun
    cases o with
    | value a => exact hrun
    | exit x =>
      cases x with
      | error e => exact hrun
      | aborted reason => exact hrun
      | stopped => exact hrun

/-- A program on a part of the state is seen from the whole state through the updated part. -/
lemma triple_zoom {τ : Type} {get : σ → τ} {put : τ → σ → σ} {p : Prog τ ε α}
    (h : ∀ s, P s → Triple (fun t => t = get s) p (fun a t => Q a (put t s)) (fun x t =>
      E x (put t s))) :
    Triple P (zoom get put p) Q E := by
  intro w hw
  have hrun := h w.state hw ⟨get w.state, w.fates⟩ rfl
  unfold zoom
  cases hp : p ⟨get w.state, w.fates⟩ with
  | mk o w' =>
    rw [hp] at hrun
    cases o with
    | value a => exact hrun
    | exit x => exact hrun

/-- The loop rule: the assertion may depend on the elements that are still to come. -/
lemma triple_each_mem {f : α → Prog σ ε Unit} (I : List α → σ → Prop) (l : List α)
    (h : ∀ a ∈ l, ∀ rest, Triple (I (a :: rest)) (f a) (fun _ => I rest) E) :
    Triple (I l) (each f l) (fun _ => I []) E := by
  induction l with
  | nil => exact triple_pure (fun _ hs => hs)
  | cons a rest ih =>
    exact triple_bind (h a List.mem_cons_self rest)
      (fun _ => ih (fun b hb => h b (List.mem_cons_of_mem a hb)))

lemma triple_each {f : α → Prog σ ε Unit} (I : List α → σ → Prop)
    (h : ∀ a rest, Triple (I (a :: rest)) (f a) (fun _ => I rest) E) (l : List α) :
    Triple (I l) (each f l) (fun _ => I []) E :=
  triple_each_mem I l (fun a _ => h a)

/-- The program returns this value in every world that satisfies the assertion. -/
def Yields (P : σ → Prop) (p : Prog σ ε α) (a : α) (P' : σ → Prop) : Prop :=
  ∀ w, P w.state → (p w).1 = .value a ∧ P' (p w).2.state

lemma yields_pure {a : α} (h : ∀ s, P s → P' s) : Yields P (pure a : Prog σ ε α) a P' :=
  fun w hw => ⟨rfl, h w.state hw⟩

lemma yields_bind {M : σ → Prop} {p : Prog σ ε α} {f : α → Prog σ ε β} {a : α} {b : β}
    (hp : Yields P p a M)
    (hf : Yields M (f a) b P') : Yields P (p >>= f) b P' := by
  intro w hw
  obtain ⟨hvalue, hM⟩ := hp w hw
  have hrun : (p >>= f) w = f a (p w).2 := bind_of_value (Prod.ext hvalue rfl)
  rw [hrun]
  exact hf (p w).2 hM

lemma yields_read_bind {f : σ → Prog σ ε α} {a : α}
    (h : ∀ s, P s → Yields (fun s' => s' = s) (f s) a P') :
    Yields P (read >>= f) a P' :=
  fun w hw => h w.state hw w rfl

lemma yields_modify {f : σ → σ} (h : ∀ s, P s → P' (f s)) :
    Yields P (modify f : Prog σ ε Unit) () P' :=
  fun w hw => ⟨rfl, h w.state hw⟩

lemma yields_mapError {f : ε → ε} {p : Prog σ ε α} {a : α} (h : Yields P p a P') :
    Yields P (mapError f p) a P' := by
  intro w hw
  obtain ⟨hvalue, hstate⟩ := h w hw
  have hrun : mapError f p w = p w := by
    unfold mapError
    rw [show p w = (.value a, (p w).2) from Prod.ext hvalue rfl]
  rw [hrun]
  exact ⟨hvalue, hstate⟩

/-- A program that reaches none of its exits returns a value. -/
lemma Triple.total {p : Prog σ ε α} (h : Triple P p Q (fun _ _ => False)) {w : World σ}
    (hw : P w.state) :
    ∃ a, (p w).1 = .value a ∧ Q a (p w).2.state := by
  cases hr : (p w).1 with
  | value a => exact ⟨a, rfl, h.value hw hr⟩
  | exit x => exact absurd (h.exit hw hr) not_false

lemma Yields.triple {p : Prog σ ε α} {a : α} (h : Yields P p a P') (hQ : ∀ s, P' s → Q a s) :
    Triple P p Q E := by
  intro w hw
  obtain ⟨hvalue, hstate⟩ := h w hw
  unfold Holds
  rw [hvalue]
  exact hQ _ hstate

lemma Yields.triple_bind {M : σ → Prop} {p : Prog σ ε α} {f : α → Prog σ ε β} {a : α}
    (hp : Yields P p a M)
    (hf : Triple M (f a) R E) : Triple P (p >>= f) R E := by
  intro w hw
  obtain ⟨hvalue, hM⟩ := hp w hw
  have hrun : (p >>= f) w = f a (p w).2 := bind_of_value (Prod.ext hvalue rfl)
  rw [hrun]
  exact hf (p w).2 hM

/-- The program returns this value and this state when no external step fails. -/
def Calmly (s : σ) (p : Prog σ ε α) (a : α) (s' : σ) : Prop := p (calm s) = (.value a, calm s')

lemma calmly_pure (s : σ) (a : α) : Calmly s (pure a : Prog σ ε α) a s := rfl

lemma calmly_bind {p : Prog σ ε α} {f : α → Prog σ ε β} {s s₁ s₂ : σ} {a : α} {b : β}
    (hp : Calmly s p a s₁)
    (hf : Calmly s₁ (f a) b s₂) : Calmly s (p >>= f) b s₂ :=
  (bind_of_value hp).trans hf

lemma calmly_read_bind {f : σ → Prog σ ε β} {s s' : σ} {b : β} (hf : Calmly s (f s) b s') :
    Calmly s (read >>= f) b s' :=
  calmly_bind rfl hf

lemma calmly_ask (s : σ) : Calmly s (ask : Prog σ ε (Option Failure)) none s := rfl

lemma calmly_external (s : σ) (effect : σ → σ) (report : Failure → ε) :
    Calmly s (external effect report) () (effect s) := rfl

lemma calmly_attempt {p : Prog σ ε α} {s s' : σ} {a : α} (hp : Calmly s p a s') :
    Calmly s (attempt p) (.ok a) s' := by
  unfold Calmly attempt
  rw [hp]

lemma calmly_mapError {f : ε → ε} {p : Prog σ ε α} {s s' : σ} {a : α} (hp : Calmly s p a s') :
    Calmly s (mapError f p) a s' := by
  unfold Calmly mapError
  rw [hp]

lemma calmly_zoom {τ : Type} {get : σ → τ} {put : τ → σ → σ} {p : Prog τ ε α} {s : σ}
    {t : τ} {a : α}
    (hp : Calmly (get s) p a t) : Calmly s (zoom get put p) a (put t s) := by
  have hrun : p ⟨get s, fun _ => .succeeds⟩ = (.value a, calm t) := hp
  unfold Calmly zoom calm
  simp only [hrun]
  rfl

/-- Steps that leave a state as it is. -/
lemma calmly_each_same {ι : Type} {f : ι → Prog σ ε Unit} {s : σ} {l : List ι}
    (h : ∀ i ∈ l, Calmly s (f i) () s) :
    Calmly s (each f l) () s := by
  induction l with
  | nil => exact calmly_pure s ()
  | cons i rest ih =>
    exact calmly_bind (h i List.mem_cons_self) (ih (fun j hj => h j (List.mem_cons_of_mem i hj)))

/-- Without faults the program returns a value from every state with the assertion. -/
def Calms (P : σ → Prop) (p : Prog σ ε α) (Q : α → σ → Prop) : Prop :=
  ∀ s, P s → ∃ a s', Calmly s p a s' ∧ Q a s'

section Calms

lemma calms_pure {a : α} (h : ∀ s, P s → Q a s) : Calms P (pure a : Prog σ ε α) Q :=
  fun s hs => ⟨a, s, rfl, h s hs⟩

lemma calms_bind {p : Prog σ ε α} {f : α → Prog σ ε β} (hp : Calms P p Q)
    (hf : ∀ a, Calms (Q a) (f a) R) :
    Calms P (p >>= f) R := by
  intro s hs
  obtain ⟨a, s₁, hrun, hmid⟩ := hp s hs
  obtain ⟨b, s₂, hrun', hend⟩ := hf a s₁ hmid
  exact ⟨b, s₂, calmly_bind hrun hrun', hend⟩

lemma calms_read_bind {f : σ → Prog σ ε β} (h : ∀ s, P s → Calms (fun s' => s' = s) (f s) R) :
    Calms P (read >>= f) R := by
  intro s hs
  obtain ⟨b, s', hrun, hend⟩ := h s hs s rfl
  exact ⟨b, s', calmly_read_bind hrun, hend⟩

lemma calms_modify {f : σ → σ} {Q : Unit → σ → Prop} (h : ∀ s, P s → Q () (f s)) :
    Calms P (modify f : Prog σ ε Unit) Q :=
  fun s hs => ⟨(), f s, rfl, h s hs⟩

lemma calms_ask {Q : Option Failure → σ → Prop} (h : ∀ s, P s → Q none s) :
    Calms P (ask : Prog σ ε (Option Failure)) Q :=
  fun s hs => ⟨none, s, rfl, h s hs⟩

lemma calms_external {effect : σ → σ} {report : Failure → ε} {Q : Unit → σ → Prop}
    (h : ∀ s, P s → Q () (effect s)) :
    Calms P (external effect report) Q :=
  fun s hs => ⟨(), effect s, calmly_external s effect report, h s hs⟩

lemma calms_external_id {report : Failure → ε} : Calms P (external id report) (fun _ => P) :=
  calms_external (fun _ h => h)

lemma calms_mapError {f : ε → ε} {p : Prog σ ε α} (hp : Calms P p Q) :
    Calms P (mapError f p) Q := by
  intro s hs
  obtain ⟨a, s', hrun, hend⟩ := hp s hs
  exact ⟨a, s', calmly_mapError hrun, hend⟩

lemma calms_consequence {p : Prog σ ε α} (hp : Calms P p Q) (hP : ∀ s, P' s → P s)
    (hQ : ∀ a s, Q a s → Q' a s) :
    Calms P' p Q' := by
  intro s hs
  obtain ⟨a, s', hrun, hend⟩ := hp s (hP s hs)
  exact ⟨a, s', hrun, hQ a s' hend⟩

lemma calms_attempt {p : Prog σ ε α} (hp : Calms P p Q) :
    Calms P (attempt p) (fun r s => ∃ a, r = .ok a ∧ Q a s) := by
  intro s hs
  obtain ⟨a, s', hrun, hend⟩ := hp s hs
  exact ⟨.ok a, s', calmly_attempt hrun, a, rfl, hend⟩

lemma calms_attempt_fail (e : ε) : Calms P (attempt (fail e : Prog σ ε α)) (fun _ _ => True) :=
  fun s _ => ⟨.error e, s, rfl, trivial⟩

/-- A sequence ends with a value or an error if its parts do. -/
lemma calms_attempt_bind {p : Prog σ ε α} {f : α → Prog σ ε β}
    (hp : Calms P (attempt p) (fun _ _ => True))
    (hf : ∀ a, Calms (fun _ => True) (attempt (f a)) (fun _ _ => True)) :
    Calms P (attempt (p >>= f)) (fun _ _ => True) := by
  intro s hs
  obtain ⟨r, s₁, hrun, -⟩ := hp s hs
  unfold Calmly attempt at hrun
  cases hfirst : p (calm s) with
  | mk o w =>
    rw [hfirst] at hrun
    cases o with
    | value a =>
      obtain rfl : w = calm s₁ := congrArg Prod.snd hrun
      obtain ⟨r', s₂, hrun', -⟩ := hf a s₁ trivial
      refine ⟨r', s₂, ?_, trivial⟩
      unfold Calmly attempt at hrun' ⊢
      rwa [bind_of_value hfirst]
    | exit x =>
      cases x with
      | error e =>
        refine ⟨.error e, s₁, ?_, trivial⟩
        unfold Calmly attempt
        rw [bind_of_exit hfirst, show w = calm s₁ from congrArg Prod.snd hrun]
      | aborted reason => exact absurd (congrArg Prod.fst hrun) (by simp)
      | stopped => exact absurd (congrArg Prod.fst hrun) (by simp)

/-- What holds of every run holds of the one without faults. -/
lemma calms_and {p : Prog σ ε α} (hp : Calms P p Q) (h : Triple P p Q' (fun _ _ => True)) :
    Calms P p (fun a s => Q a s ∧ Q' a s) := by
  intro s hs
  obtain ⟨a, s', hrun, hend⟩ := hp s hs
  have hevery := h.value (w := calm s) hs (a := a) (congrArg Prod.fst hrun)
  unfold Calmly at hrun
  rw [hrun] at hevery
  exact ⟨a, s', hrun, hend, hevery⟩

lemma Calms.value {p : Prog σ ε α} (hp : Calms P p Q) {s : σ} (hs : P s) :
    ∃ a, (p (calm s)).1 = .value a ∧ Q a (p (calm s)).2.state := by
  obtain ⟨a, s', hrun, hend⟩ := hp s hs
  unfold Calmly at hrun
  rw [hrun]
  exact ⟨a, rfl, hend⟩

end Calms

/-- The program only looks at the state when no external step fails. -/
def Quiet (s : σ) (p : Prog σ ε α) : Prop := ∃ o, p (calm s) = (o, calm s)

lemma quiet_pure (s : σ) (a : α) : Quiet s (pure a : Prog σ ε α) := ⟨_, rfl⟩

lemma quiet_exit (s : σ) (x : Exit ε) : Quiet s (exit x : Prog σ ε α) := ⟨_, rfl⟩

lemma quiet_bind {p : Prog σ ε α} {f : α → Prog σ ε β} {s : σ} (hp : Quiet s p)
    (hf : ∀ a, Quiet s (f a)) :
    Quiet s (p >>= f) := by
  obtain ⟨o, ho⟩ := hp
  cases o with
  | exit x => exact ⟨_, bind_of_exit ho⟩
  | value a =>
    obtain ⟨o', ho'⟩ := hf a
    exact ⟨o', (bind_of_value ho).trans ho'⟩

lemma quiet_ask (s : σ) : Quiet s (ask : Prog σ ε (Option Failure)) := ⟨_, rfl⟩

lemma quiet_read_bind {f : σ → Prog σ ε β} {s : σ} (hf : Quiet s (f s)) : Quiet s (read >>= f) := by
  obtain ⟨o, ho⟩ := hf
  exact ⟨o, (bind_of_value rfl).trans ho⟩

/-- The run of a sequence that returns a value, taken apart. -/
lemma Quiet.bind_inv {p : Prog σ ε α} {f : α → Prog σ ε β} {s s' : σ} {b : β} (hp : Quiet s p)
    (h : Calmly s (p >>= f) b s') : ∃ a, Calmly s p a s ∧ Calmly s (f a) b s' := by
  obtain ⟨o, ho⟩ := hp
  unfold Calmly at h
  cases o with
  | exit x =>
    rw [bind_of_exit ho] at h
    exact absurd (congrArg Prod.fst h) (by simp)
  | value a =>
    rw [bind_of_value ho] at h
    exact ⟨a, ho, h⟩

lemma observe_of_calmly {p : Prog σ ε α} {s s' : σ} {a : α} (h : Calmly s p a s') :
    observe p s = .value a := by
  unfold observe
  rw [h]

lemma Quiet.calmly {p : Prog σ ε α} {s : σ} {a : α} (hp : Quiet s p) (h : observe p s = .value a) :
    Calmly s p a s := by
  obtain ⟨o, ho⟩ := hp
  unfold observe at h
  unfold Calmly
  rw [ho] at h ⊢
  rw [show o = .value a from h]

/-- Every way in which the program can end without a value satisfies the condition. -/
def Ends (C : Exit ε → Prop) (p : Prog σ ε α) : Prop :=
  Triple (fun _ => True) p (fun _ _ => True) (fun x _ => C x)

section Ends

variable {C : Exit ε → Prop}

lemma ends_pure (a : α) : Ends C (pure a : Prog σ ε α) := triple_pure (fun _ _ => trivial)

lemma ends_bind {p : Prog σ ε α} {f : α → Prog σ ε β} (hp : Ends C p) (hf : ∀ a, Ends C (f a)) :
    Ends C (p >>= f) :=
  triple_bind hp hf

lemma ends_read_bind {f : σ → Prog σ ε β} (hf : ∀ s, Ends C (f s)) : Ends C (read >>= f) :=
  fun w hw => hf w.state w hw

lemma ends_modify (f : σ → σ) : Ends C (modify f : Prog σ ε Unit) :=
  triple_modify (fun _ _ => trivial)

lemma ends_exit {x : Exit ε} (hx : C x) : Ends C (exit x : Prog σ ε α) :=
  triple_exit (fun _ _ => hx)

lemma ends_ask (hstop : C .stopped) : Ends C (ask : Prog σ ε (Option Failure)) :=
  triple_ask (fun _ _ _ => trivial) (fun _ _ => hstop)

lemma ends_external {effect : σ → σ} {report : Failure → ε} (hstop : C .stopped)
    (h : ∀ failure, C (.error (report failure))) :
    Ends C (external effect report) :=
  triple_external (fun _ _ => trivial) (fun _ _ failure => h failure) (fun _ _ => hstop)

lemma ends_attempt {p : Prog σ ε α} (hp : Ends C p) : Ends C (attempt p) :=
  triple_consequence (triple_attempt_cases hp) (fun _ h => h) (fun _ _ _ => trivial)
    (fun _ _ h => h)

lemma ends_mapError {f : ε → ε} {p : Prog σ ε α} (hp : Ends C p)
    (hf : ∀ e, C (.error e) → C (.error (f e))) :
    Ends C (mapError f p) :=
  triple_mapError hp (fun e _ h => hf e h)

lemma ends_zoom {τ : Type} {get : σ → τ} {put : τ → σ → σ} {p : Prog τ ε α} (hp : Ends C p) :
    Ends C (zoom get put p) :=
  triple_zoom (fun _ _ => triple_consequence hp (fun _ _ => trivial) (fun _ _ _ => trivial)
    (fun _ _ h => h))

lemma Ends.triple {p : Prog σ ε α} (hp : Ends C p) (P : σ → Prop) :
    Triple P p (fun _ _ => True) (fun x _ => C x) :=
  triple_consequence hp (fun _ _ => trivial) (fun _ _ h => h) (fun _ _ h => h)

end Ends

/-- The program returns this value after this many external steps, if they succeed. -/
def Takes (n : Nat) (s : σ) (p : Prog σ ε α) (a : α) (s' : σ) : Prop :=
  ∀ fates : Nat → Fate, (∀ i < n, fates i = .succeeds) → p ⟨s, fates⟩ =
    (.value a, ⟨s', fun i => fates (i + n)⟩)

lemma takes_pure (s : σ) (a : α) : Takes 0 s (pure a : Prog σ ε α) a s := fun _ _ => rfl

lemma takes_bind {p : Prog σ ε α} {f : α → Prog σ ε β} {n m : Nat} {s s₁ s₂ : σ} {a : α} {b : β}
    (hp : Takes n s p a s₁) (hf : Takes m s₁ (f a) b s₂) : Takes (n + m) s (p >>= f) b s₂ := by
  intro fates hfates
  have hfirst := hp fates (fun i hi => hfates i (by omega))
  have hsecond := hf (fun i => fates (i + n)) (fun i hi => hfates (i + n) (by omega))
  rw [bind_of_value hfirst, hsecond]
  simp only [Nat.add_assoc, Nat.add_comm m n]

lemma takes_read_bind {f : σ → Prog σ ε β} {n : Nat} {s s' : σ} {b : β}
    (hf : Takes n s (f s) b s') :
    Takes n s (read >>= f) b s' :=
  fun fates hfates => (bind_of_value rfl).trans (hf fates hfates)

lemma takes_modify (s : σ) (f : σ → σ) : Takes 0 s (modify f : Prog σ ε Unit) () (f s) :=
  fun _ _ => rfl

lemma takes_ask (s : σ) : Takes 1 s (ask : Prog σ ε (Option Failure)) none s := by
  intro fates hfates
  simp only [ask, hfates 0 (by omega)]

lemma takes_external (s : σ) (effect : σ → σ) (report : Failure → ε) :
    Takes 1 s (external effect report) () (effect s) := by
  intro fates hfates
  simp only [external_eq, hfates 0 (by omega)]

/-- The fates under which the next step after so many steps fails. -/
def failsAt (n : Nat) (failure : Failure) : Nat → Fate :=
  fun i => if i = n then .fails failure else .succeeds

/-- Running a sequence whose first part goes through. -/
lemma Takes.run_bind {p : Prog σ ε α} {f : α → Prog σ ε β} {n : Nat} {s s₁ : σ} {a : α}
    (hp : Takes n s p a s₁)
    (failure : Failure) : (p >>= f) ⟨s, failsAt n failure⟩ = f a ⟨s₁, failsAt 0 failure⟩ := by
  have hfirst := hp (failsAt n failure) (fun i hi => if_neg (by omega))
  have hshift : (fun i => failsAt n failure (i + n)) = failsAt 0 failure := by
    funext i
    simp [failsAt]
  rw [bind_of_value hfirst, hshift]

/-- Two states look the same to a program that starts with a step that gives the same in both. -/
lemma observe_bind_congr {p : Prog σ ε α} {f : α → Prog σ ε β} {s s' : σ} {o : Outcome ε α}
    (hp : p (calm s) = (o, calm s)) (hp' : p (calm s') = (o, calm s'))
    (hf : ∀ a, observe (f a) s = observe (f a) s') :
    observe (p >>= f) s = observe (p >>= f) s' := by
  unfold observe
  cases o with
  | exit x => rw [bind_of_exit hp, bind_of_exit hp']
  | value a =>
    rw [bind_of_value hp, bind_of_value hp']
    exact hf a

/-- A program on a part of the state, with its errors changed. -/
lemma mapError_zoom_fst {τ : Type} (f : ε → ε) (get : σ → τ) (put : τ → σ → σ) (p : Prog τ ε α)
    (w : World σ) :
    (mapError f (zoom get put p) w).1 = match (p ⟨get w.state, w.fates⟩).1 with
      | .exit (.error e) => .exit (.error (f e))
      | o => o := by
  unfold mapError zoom
  cases hp : p ⟨get w.state, w.fates⟩ with
  | mk o w' =>
    cases o with
    | value a => simp
    | exit x =>
      cases x with
      | error e => simp
      | aborted reason => simp
      | stopped => simp

lemma observe_mapError_zoom {τ : Type} (f : ε → ε) (get : σ → τ) (put : τ → σ → σ)
    (p : Prog τ ε α) (s : σ) :
    observe (mapError f (zoom get put p)) s = match observe p (get s) with
      | .exit (.error e) => .exit (.error (f e))
      | o => o :=
  mapError_zoom_fst f get put p (calm s)

lemma observe_mapError_zoom_value {τ : Type} {f : ε → ε} {get : σ → τ} {put : τ → σ → σ}
    {p : Prog τ ε α} {s : σ} {a : α} :
    observe (mapError f (zoom get put p)) s = .value a ↔ observe p (get s) = .value a := by
  rw [observe_mapError_zoom]
  cases observe p (get s) with
  | value b => simp
  | exit x =>
    cases x with
    | error e => simp
    | aborted reason => simp
    | stopped => simp

/-- What a program on a part of the state leaves behind. -/
lemma triple_mapError_zoom {τ : Type} {f : ε → ε} {get : σ → τ} {put : τ → σ → σ}
    {p : Prog τ ε α} {s : σ}
    {R : α → τ → Prop} (h : Triple (fun t => t = get s) p R (fun _ _ => True)) :
    Triple (fun s' => s' = s) (mapError f (zoom get put p)) (fun a s' => ∃ t, s' = put t s ∧ R a t)
      (fun _ _ => True) := by
  apply triple_mapError _ (fun _ _ _ => trivial)
  apply triple_zoom
  rintro s' rfl
  exact triple_consequence h (fun _ ht => ht) (fun a t ht => ⟨t, rfl, ht⟩) (fun _ _ _ => trivial)

section Peeking

variable {s : σ} {Q : α → Prop} {R : β → Prop}

/-- A program that only looks at the state, and what it returns. -/
def Peeks (s : σ) (p : Prog σ ε α) (Q : α → Prop) : Prop :=
  Triple (· = s) p (fun a s' => s' = s ∧ Q a) (fun _ s' => s' = s)

lemma peeks_pure {a : α} (h : Q a) : Peeks s (pure a : Prog σ ε α) Q :=
  triple_pure (fun _ hs => ⟨hs, h⟩)

lemma peeks_exit {x : Exit ε} : Peeks s (exit x : Prog σ ε α) Q := triple_exit (fun _ hs => hs)

lemma peeks_bind {p : Prog σ ε α} {f : α → Prog σ ε β} (hp : Peeks s p Q)
    (hf : ∀ a, Q a → Peeks s (f a) R) :
    Peeks s (p >>= f) R :=
  triple_bind hp (fun a => triple_fact (hf a))

lemma peeks_read {f : σ → Prog σ ε β} (hf : Peeks s (f s) R) : Peeks s (read >>= f) R := by
  apply triple_read_bind
  rintro s' rfl
  exact hf

lemma peeks_ask {f : Option Failure → Prog σ ε β} (hf : ∀ r, Peeks s (f r) R) :
    Peeks s (ask >>= f) R :=
  triple_bind (triple_ask (fun _ _ hs => hs) (fun _ hs => hs)) hf

lemma peeks_external {report : Failure → ε} {f : Unit → Prog σ ε β} (hf : Peeks s (f ()) R) :
    Peeks s (external id report >>= f) R :=
  triple_bind (triple_external (fun _ hs => hs) (fun _ hs _ => hs) (fun _ hs => hs)) (fun _ => hf)

lemma peeks_mapError {f : ε → ε} {p : Prog σ ε α} (hp : Peeks s p Q) : Peeks s (mapError f p) Q :=
  triple_mapError hp (fun _ _ h => h)

lemma peeks_ofExcept {r : Except ε α} (h : ∀ a, r = .ok a → Q a) :
    Peeks s (ofExcept r : Prog σ ε α) Q := by
  cases r with
  | error e => exact peeks_exit
  | ok a => exact peeks_pure (h a rfl)

end Peeking

end Prog

end RaucUpdate.Library
