import RaucUpdate.Library.Programs

/-!
# Weakest preconditions

What has to hold of a world so that a program ends well in it. The rules are equivalences, so that
they give the exact condition for a program as well as a proof that it is met.
-/

namespace RaucUpdate.Library

/-- The world behind one external step. -/
def World.next {σ : Type} (w : World σ) : World σ := { w with fates := fun n => w.fates (n + 1) }

namespace Prog

variable {σ ε α β : Type} {Q : α → World σ → Prop} {R : β → World σ → Prop}
  {E : Exit ε → World σ → Prop}
  {w : World σ}

def Wp (Q : α → World σ → Prop) (E : Exit ε → World σ → Prop) (p : Prog σ ε α) (w : World σ) :
    Prop :=
  match p w with
  | (.value a, w') => Q a w'
  | (.exit x, w') => E x w'

lemma wp_read_bind (f : σ → Prog σ ε β) : Wp R E (read >>= f) w ↔ Wp R E (f w.state) w := Iff.rfl

lemma wp_bind (p : Prog σ ε α) (f : α → Prog σ ε β) :
    Wp R E (p >>= f) w ↔ Wp (fun a w' => Wp R E (f a) w') E p w := by
  cases hrun : p w with
  | mk o w' =>
    cases o with
    | value a =>
      unfold Wp
      rw [bind_of_value hrun, hrun]
    | exit x =>
      unfold Wp
      rw [bind_of_exit hrun, hrun]

lemma wp_modify_bind (f : σ → σ) (g : Unit → Prog σ ε β) :
    Wp R E (modify f >>= g) w ↔ Wp R E (g ()) { w with state := f w.state } := wp_bind _ _

/-- The fate of the next step decides how the program goes on. -/
lemma wp_ask_bind (f : Option Failure → Prog σ ε β) :
    Wp R E (ask >>= f) w ↔
      (w.fates 0 = .succeeds → Wp R E (f none) w.next) ∧
      (∀ failure, w.fates 0 = .fails failure → Wp R E (f (some failure)) w.next) ∧
      (w.fates 0 = .stops → E .stopped w.next) := by
  rw [wp_bind]
  cases hfate : w.fates 0 with
  | succeeds =>
    have hrun : (ask : Prog σ ε (Option Failure)) w = (.value none, w.next) := by
      simp only [ask, hfate, World.next]
    simp [Wp, hrun]
  | fails failure =>
    have hrun : (ask : Prog σ ε (Option Failure)) w = (.value (some failure), w.next) := by
      simp only [ask, hfate, World.next]
    simp [Wp, hrun]
  | stops =>
    have hrun : (ask : Prog σ ε (Option Failure)) w = (.exit .stopped, w.next) := by
      simp only [ask, hfate, World.next]
    simp [Wp, hrun]

lemma wp_external {Q : Unit → World σ → Prop} (effect : σ → σ) (report : Failure → ε) :
    Wp Q E (external effect report) w ↔
      (w.fates 0 = .succeeds → Q () { w.next with state := effect w.state }) ∧
      (∀ failure, w.fates 0 = .fails failure → E (.error (report failure)) w.next) ∧
      (w.fates 0 = .stops → E .stopped w.next) :=
  wp_ask_bind _

/-- An error becomes a result of the caller. -/
lemma wp_attempt {Q : Except ε α → World σ → Prop} (p : Prog σ ε α) :
    Wp Q E (attempt p) w ↔
      Wp (fun a => Q (.ok a)) (fun x w' => match x with
        | .error e => Q (.error e) w'
        | x => E x w') p w := by
  unfold Wp attempt
  cases hrun : p w with
  | mk o w' =>
    cases o with
    | value a => rfl
    | exit x => cases x <;> rfl

lemma wp_mapError (f : ε → ε) (p : Prog σ ε α) :
    Wp Q E (mapError f p) w ↔
      Wp Q (fun x w' => match x with
        | .error e => E (.error (f e)) w'
        | x => E x w') p w := by
  unfold Wp mapError
  cases hrun : p w with
  | mk o w' =>
    cases o with
    | value a => rfl
    | exit x => cases x <;> rfl

end Prog

end RaucUpdate.Library
