import RaucUpdate.Model.Service

/-!
# The service runs one installation at a time

The busy flag counts the installations, so the assertion of `r_context_set_busy` holds in every
order of events. The operation follows the flag unless a request is rejected while an installation
runs or the automatic installation starts one.
-/

namespace RaucUpdate

open Library

section Steps

variable {st : ServiceState}

lemma rContextSetBusy_calmly {busy : Bool} (h : st.busy ≠ busy) :
    Prog.Calmly st (rContextSetBusy busy) () { st with busy := busy } := by
  apply Prog.calmly_read_bind
  rw [if_neg h]
  rfl

lemma installArgsFree_calmly (st : ServiceState) {args : ServiceInstallArgs}
    (hargs : 0 ≤ args.statusResult) :
    Prog.Calmly st (installArgsFree args) () st := by
  unfold installArgsFree
  rw [if_pos hargs]
  rfl

lemma setOperation_calmly (st : ServiceState) (operation : Operation) :
    Prog.Calmly st (setOperation operation) () { st with operation := operation } := rfl

lemma rejectInstall_calmly (st : ServiceState) {args : ServiceInstallArgs}
    (hargs : 0 ≤ args.statusResult)
    (message : String) :
    Prog.Calmly st (rejectInstall args message) (.failed message)
      { st with operation := .idle } := by
  apply Prog.calmly_bind (installArgsFree_calmly st hargs)
  exact Prog.calmly_bind (setOperation_calmly st .idle) (Prog.calmly_pure _ _)

lemma installRun_calmly (hbusy : st.busy = false) (args : ServiceInstallArgs) :
    Prog.Calmly st (installRun args) ()
      { st with busy := true, working := st.working ++ [args] } := by
  apply Prog.calmly_bind (rContextSetBusy_calmly (by simp [hbusy]))
  rfl

lemma rOnHandleInstallBundle_busy (hbusy : st.busy = true) (source : String)
    (dict : List (String × VariantType)) :
    Prog.Calmly st (rOnHandleInstallBundle source dict)
      (.failed "Already processing a different method")
      { st with operation := .idle } := by
  apply Prog.calmly_read_bind
  rw [if_pos hbusy]
  exact rejectInstall_calmly st (by decide) _

lemma rOnHandleInstallBundle_unsupported (hbusy : st.busy = false) (source : String)
    {dict : List (String × VariantType)} {key : String} {rest : List String}
    (hkeys : unhandledKeys dict = key :: rest) :
    Prog.Calmly st (rOnHandleInstallBundle source dict) (.failed ("Unsupported key: " ++ key))
      { st with operation := .idle } := by
  apply Prog.calmly_read_bind
  rw [if_neg (by simp [hbusy]), hkeys]
  exact rejectInstall_calmly st (by simp) _

lemma rOnHandleInstallBundle_starts (hbusy : st.busy = false) (source : String)
    {dict : List (String × VariantType)} (hkeys : unhandledKeys dict = []) :
    Prog.Calmly st (rOnHandleInstallBundle source dict) .completed
      { st with operation := .installing, busy := true, working := st.working ++
                [{ name := some source }] } := by
  apply Prog.calmly_read_bind
  rw [if_neg (by simp [hbusy]), hkeys]
  apply Prog.calmly_bind (setOperation_calmly st .installing)
  have hstart : ({ st with operation := .installing } : ServiceState).busy = false := hbusy
  exact Prog.calmly_bind (installRun_calmly hstart _) (Prog.calmly_pure _ _)

lemma installDone_calmly {args : ServiceInstallArgs} {rest : List ServiceInstallArgs}
    (hfinished : st.finished = args :: rest)
    (hbusy : st.busy = true) (hargs : 0 ≤ args.statusResult) :
    Prog.Calmly st installDone ()
      { st with finished := rest, signals := st.signals ++ [args.statusResult], operation := .idle,
                busy := false } := by
  have htake :
      Prog.Calmly st (Prog.modify (fun st => { st with finished := rest }) : ServiceProg Unit) ()
      { st with finished := rest } := rfl
  have hsignal : Prog.Calmly { st with finished := rest }
      (Prog.modify (fun st => { st with signals := st.signals ++ [args.statusResult] }) :
        ServiceProg Unit) ()
      { st with finished := rest, signals := st.signals ++ [args.statusResult] } := rfl
  apply Prog.calmly_read_bind
  rw [hfinished]
  apply Prog.calmly_bind htake
  apply Prog.calmly_bind (Prog.calmly_bind hsignal (Prog.calmly_bind (setOperation_calmly _ .idle)
    (installArgsFree_calmly _ hargs)))
  exact rContextSetBusy_calmly (by simp [hbusy])

end Steps

section Invariant

/-- The busy flag counts the installations, and only a thread that has ended leaves a completion. -/
structure OneAtATime (st : ServiceState) : Prop where
  count : st.installations.length = if st.busy then 1 else 0
  ended : ∀ args ∈ st.finished, 0 ≤ args.statusResult

variable {st : ServiceState}

lemma OneAtATime.at_most_one (h : OneAtATime st) : st.installations.length ≤ 1 := by
  rw [h.count]
  split_ifs
  · exact le_refl 1
  · exact Nat.zero_le 1

lemma OneAtATime.none_running (h : OneAtATime st) (hbusy : st.busy = false) :
    st.installations = [] := by
  apply List.eq_nil_of_length_eq_zero
  rw [h.count, hbusy]
  rfl

lemma OneAtATime.busy_iff (h : OneAtATime st) : st.busy = true ↔ st.installations ≠ [] := by
  cases hbusy : st.busy with
  | true =>
    have hcount := h.count
    rw [hbusy] at hcount
    simp only [true_iff]
    intro hnil
    rw [hnil] at hcount
    exact absurd hcount (by simp)
  | false => simp [h.none_running hbusy]

lemma OneAtATime.start (h : OneAtATime st) (hbusy : st.busy = false) (args : ServiceInstallArgs)
    (operation : Operation) :
    OneAtATime { st with operation := operation, busy := true, working := st.working ++
                         [args] } := by
  have hnone := List.append_eq_nil_iff.mp (h.none_running hbusy)
  refine ⟨?_, h.ended⟩
  simp [ServiceState.installations, hnone.1, hnone.2]

lemma OneAtATime.set_operation (h : OneAtATime st) (operation : Operation) :
    OneAtATime { st with operation := operation } := ⟨h.count, h.ended⟩

/-- The end of a thread moves its installation, and the flag stays. -/
lemma OneAtATime.thread_end (h : OneAtATime st) {i : Nat} {args : ServiceInstallArgs}
    (hargs : st.working[i]? = some args)
    (failed : Bool) :
    OneAtATime { st with
      working := st.working.eraseIdx i
      finished := st.finished ++ [{ args with statusResult := if failed then 1 else 0 }] } := by
  obtain ⟨hi, -⟩ := List.getElem?_eq_some_iff.mp hargs
  refine ⟨?_, ?_⟩
  · have hcount := h.count
    simp only [ServiceState.installations, List.length_append] at hcount
    simp only [ServiceState.installations, List.length_append, List.length_eraseIdx_of_lt hi,
      List.length_singleton]
    omega
  · intro other hother
    rcases List.mem_append.mp hother with hold | hnew
    · exact h.ended other hold
    · rw [List.mem_singleton.mp hnew]
      cases failed with
      | true => exact Int.one_nonneg
      | false => exact le_refl 0

lemma OneAtATime.done (h : OneAtATime st) {args : ServiceInstallArgs}
    {rest : List ServiceInstallArgs}
    (hfinished : st.finished = args :: rest) (signals : List Int) :
    st.busy = true ∧
      OneAtATime { st with finished := rest, signals := signals, operation := .idle,
                           busy := false } := by
  have hrunning : st.installations ≠ [] := by simp [ServiceState.installations, hfinished]
  have hbusy := h.busy_iff.mpr hrunning
  have hcount := h.count
  rw [hbusy] at hcount
  simp only [ServiceState.installations, hfinished, List.length_append, List.length_cons, if_true]
    at hcount
  refine ⟨hbusy, ?_, fun other hother => h.ended other (by simp [hfinished, hother])⟩
  simp only [ServiceState.installations, List.length_append, Bool.false_eq_true, if_false]
  omega

end Invariant

section Events

variable {st : ServiceState}

/-- The steps after which the operation still says what is going on. -/
def Harmless (st : ServiceState) : ServiceEvent → Prop
  | .install _ | .installBundle _ _ => st.busy = false
  | .autoInstall found _ => found = false
  | .mark _ | .threadEnd _ _ | .done => True

def OperationAgrees (st : ServiceState) : Prop := st.operation = .installing ↔ st.installations ≠ []

/-- What one event does to a service that runs at most one installation. -/
structure Handled (st : ServiceState) (event : ServiceEvent)
    (r : Outcome GError Unit × World ServiceState) : Prop where
  asserted : r.1 ≠ .exit (.aborted busyAssertion)
  one : OneAtATime r.2.state
  agrees : r.1 = .value () → OperationAgrees st → (OperationAgrees r.2.state ↔ Harmless st event)

lemma handled_of_calmly {event : ServiceEvent} {st' : ServiceState}
    (h : Prog.Calmly st event.run () st') (hone : OneAtATime st')
    (hagrees : OperationAgrees st → (OperationAgrees st' ↔ Harmless st event)) :
    Handled st event (event.run (Prog.calm st)) := by
  unfold Prog.Calmly at h
  rw [h]
  exact ⟨by simp, hone, fun _ => hagrees⟩

lemma agrees_rejected (hone : OneAtATime st) :
    OperationAgrees { st with operation := .idle } ↔ st.busy = false := by
  rw [← Bool.not_eq_true, hone.busy_iff, not_not]
  simp [OperationAgrees, ServiceState.installations]

lemma agrees_started (args : ServiceInstallArgs) (operation : Operation) :
    OperationAgrees { st with operation := operation, busy := true,
                              working := st.working ++ [args] } ↔
      operation = .installing := by
  simp [OperationAgrees, ServiceState.installations]

lemma handled_request (hone : OneAtATime st) (source : String)
    (dict : List (String × VariantType)) :
    Handled st (.installBundle source dict) ((ServiceEvent.installBundle source dict).run
      (Prog.calm st)) := by
  have hreply : ∀ {reply : Reply} {st' : ServiceState},
      Prog.Calmly st (rOnHandleInstallBundle source dict) reply st' →
      Prog.Calmly st (ServiceEvent.installBundle source dict).run () st' :=
    fun h => Prog.calmly_bind h (Prog.calmly_pure _ _)
  cases hbusy : st.busy with
  | true =>
    apply handled_of_calmly (hreply (rOnHandleInstallBundle_busy hbusy source dict))
      (hone.set_operation .idle)
    exact fun _ => agrees_rejected hone
  | false =>
    cases hkeys : unhandledKeys dict with
    | cons key rest =>
      apply handled_of_calmly (hreply (rOnHandleInstallBundle_unsupported hbusy source hkeys))
        (hone.set_operation .idle)
      exact fun _ => agrees_rejected hone
    | nil =>
      apply handled_of_calmly (hreply (rOnHandleInstallBundle_starts hbusy source hkeys))
        (hone.start hbusy _ .installing)
      intro _
      rw [agrees_started]
      simp [Harmless, hbusy]

lemma handled_same {event : ServiceEvent} (hone : OneAtATime st)
    (h : Prog.Calmly st event.run () st)
    (hharmless : Harmless st event) : Handled st event (event.run (Prog.calm st)) :=
  handled_of_calmly h hone (fun hagrees => iff_of_true hagrees hharmless)

lemma handled_mark (hone : OneAtATime st) (marked : Except String String) :
    Handled st (.mark marked) ((ServiceEvent.mark marked).run (Prog.calm st)) := by
  have hmark : ∃ reply, Prog.Calmly st (rOnHandleMark marked) reply st := by
    by_cases hbusy : st.busy = true
    · refine ⟨.failed "already processing a different method", Prog.calmly_read_bind ?_⟩
      rw [if_pos hbusy]
      exact Prog.calmly_pure _ _
    · cases marked with
      | ok message =>
        refine ⟨.completed, Prog.calmly_read_bind ?_⟩
        rw [if_neg hbusy]
        exact Prog.calmly_pure _ _
      | error message =>
        refine ⟨.failed message, Prog.calmly_read_bind ?_⟩
        rw [if_neg hbusy]
        exact Prog.calmly_pure _ _
  obtain ⟨reply, hmark⟩ := hmark
  exact handled_same hone (Prog.calmly_bind hmark (Prog.calmly_pure _ _)) trivial

lemma handled_autoInstall (hone : OneAtATime st) (found : Bool) (source : String) :
    Handled st (.autoInstall found source) ((ServiceEvent.autoInstall found source).run
      (Prog.calm st)) := by
  cases found with
  | false => exact handled_same hone rfl rfl
  | true =>
    cases hbusy : st.busy with
    | true =>
      -- the arguments are freed although they have no result yet
      have habort : (ServiceEvent.autoInstall true source).run (Prog.calm st) =
          (.exit (.aborted "assertion failed (args->status_result >= 0)"), Prog.calm st) := by
        rcases st with ⟨busy, operation, working, finished, signals⟩
        obtain rfl : busy = true := hbusy
        rfl
      have hother : "assertion failed (args->status_result >= 0)" ≠ busyAssertion := by decide
      rw [habort]
      exact ⟨by simpa using hother, hone, fun h => absurd h (by simp)⟩
    | false =>
      have hstart : Prog.Calmly st (autoInstall true source) true
          { st with busy := true, working := st.working ++ [{ name := some source }] } := by
        apply Prog.calmly_read_bind
        rw [if_neg (by simp [hbusy])]
        exact Prog.calmly_bind (installRun_calmly hbusy _) (Prog.calmly_pure _ _)
      have hrun : Prog.Calmly st (ServiceEvent.autoInstall true source).run ()
          { st with busy := true, working := st.working ++ [{ name := some source }] } :=
        Prog.calmly_bind hstart (Prog.calmly_pure _ ())
      apply handled_of_calmly hrun (hone.start hbusy _ st.operation)
      intro hagrees
      rw [agrees_started]
      unfold OperationAgrees at hagrees
      simp [Harmless, hagrees, hone.none_running hbusy]

lemma handled_threadEnd (hone : OneAtATime st) (i : Nat) (failed : Bool) :
    Handled st (.threadEnd i failed) ((ServiceEvent.threadEnd i failed).run (Prog.calm st)) := by
  cases hargs : st.working[i]? with
  | none =>
    have hsame : Prog.Calmly st (ServiceEvent.threadEnd i failed).run () st := by
      simp [Prog.Calmly, ServiceEvent.run, installThreadEnd, Prog.modify, Prog.calm, hargs]
    exact handled_same hone hsame trivial
  | some args =>
    have hend : Prog.Calmly st (ServiceEvent.threadEnd i failed).run () { st with
        working := st.working.eraseIdx i
        finished := st.finished ++ [{ args with statusResult := if failed then 1 else 0 }] } := by
      simp [Prog.Calmly, ServiceEvent.run, installThreadEnd, Prog.modify, Prog.calm, hargs]
    apply handled_of_calmly hend (hone.thread_end hargs failed)
    intro hagrees
    have hrunning : st.installations ≠ [] := by
      have hwork : st.working ≠ [] := by
        rintro hnil
        simp [hnil] at hargs
      simp [ServiceState.installations, hwork]
    have hoperation := hagrees.mpr hrunning
    simp [OperationAgrees, Harmless, ServiceState.installations, hoperation]

lemma handled_done (hone : OneAtATime st) :
    Handled st .done (ServiceEvent.done.run (Prog.calm st)) := by
  cases hfinished : st.finished with
  | nil =>
    have hsame : Prog.Calmly st ServiceEvent.done.run () st := by
      apply Prog.calmly_read_bind
      rw [hfinished]
      exact Prog.calmly_pure _ _
    exact handled_same hone hsame trivial
  | cons args rest =>
    have hargs := hone.ended args (by simp [hfinished])
    obtain ⟨hbusy, hnext⟩ := hone.done hfinished (st.signals ++ [args.statusResult])
    apply handled_of_calmly (installDone_calmly hfinished hbusy hargs) hnext
    intro _
    have hnone := hnext.none_running rfl
    simp [OperationAgrees, Harmless, hnone]

lemma handled (hone : OneAtATime st) (event : ServiceEvent) :
    Handled st event (event.run (Prog.calm st)) := by
  cases event with
  | install source =>
    obtain ⟨hasserted, hnext, hagrees⟩ := handled_request hone source []
    exact ⟨hasserted, hnext, hagrees⟩
  | installBundle source dict => exact handled_request hone source dict
  | mark marked => exact handled_mark hone marked
  | autoInstall found source => exact handled_autoInstall hone found source
  | threadEnd i failed => exact handled_threadEnd hone i failed
  | done => exact handled_done hone

end Events

section Runs

variable {Allowed : ServiceState → ServiceEvent → Prop} {events : List ServiceEvent}
  {st : ServiceState}

lemma ServiceRun.one_at_a_time (h : ServiceRun Allowed events st) : OneAtATime st := by
  induction h with
  | start => exact ⟨rfl, by simp⟩
  | snoc _ event _ _ ih => exact (handled ih event).one

lemma ServiceRun.agrees (h : ServiceRun Harmless events st) : OperationAgrees st := by
  induction h with
  | start => simp [OperationAgrees, ServiceState.installations]
  | snoc hrun event hharmless hreturned ih =>
    exact ((handled hrun.one_at_a_time event).agrees hreturned ih).mpr hharmless

/-- In every order of events one installation runs at a time. The operation says what is going on as
long as no request is rejected while an installation runs and no installation starts by itself, and
no longer. -/
theorem serviceRun_contract (events : List ServiceEvent) (st : ServiceState) :
    (ServiceRun (fun _ _ => True) events st → st.installations.length ≤ 1 ∧
      ∀ event : ServiceEvent, (event.run (Prog.calm st)).1 ≠ .exit (.aborted busyAssertion)) ∧
    (ServiceRun Harmless events st → OperationAgrees st) ∧
    (ServiceRun (fun _ _ => True) events st → OperationAgrees st → ∀ event : ServiceEvent,
      (event.run (Prog.calm st)).1 = .value () →
      (OperationAgrees (event.run (Prog.calm st)).2.state ↔ Harmless st event)) := by
  refine ⟨?_, ?_, ?_⟩
  · intro hrun
    have hone := hrun.one_at_a_time
    exact ⟨hone.at_most_one, fun event => (handled hone event).asserted⟩
  · intro hrun
    exact hrun.agrees
  · intro hrun hagrees event hreturned
    exact (handled hrun.one_at_a_time event).agrees hreturned hagrees

/-- A request is accepted and its installation completed; a second one is accepted after that. -/
theorem serviceRun_contract_completed :
    ∃ st, ServiceRun Harmless
        [.installBundle "first.raucb" [], .threadEnd 0 false, .done,
          .installBundle "second.raucb" []] st ∧
      st.installations.length ≤ 1 ∧ OperationAgrees st ∧ st.operation = .installing := by
  have hstart : ServiceRun Harmless [] {} := .start
  have hfirst := hstart.snoc (.installBundle "first.raucb" []) rfl (by decide)
  have hend := hfirst.snoc (.threadEnd 0 false) trivial (by decide)
  have hdone := hend.snoc .done trivial (by decide)
  have hsecond := hdone.snoc (.installBundle "second.raucb" []) rfl (by decide)
  exact ⟨_, hsecond, by decide, (serviceRun_contract _ _).2.1 hsecond, by decide⟩

/-- An installation runs, and the second request that is turned away makes the operation idle. -/
theorem rejected_request_is_idle :
    ∃ st, ServiceRun (fun _ _ => True) [.installBundle "first.raucb" [],
      .installBundle "second.raucb" []] st ∧
      st.installations = [{ name := some "first.raucb" }] ∧ st.operation = .idle := by
  have hstart : ServiceRun (fun _ _ => True) [] {} := .start
  have hfirst := hstart.snoc (.installBundle "first.raucb" []) trivial (by decide)
  exact ⟨_, hfirst.snoc (.installBundle "second.raucb" []) trivial
    (by decide), by decide, by decide⟩

end Runs

end RaucUpdate
