import Mathlib.Data.List.Perm.Basic
import RaucUpdate.Model.Nbd

/-!
# The answers of the NBD server

Every read request is under way or has been answered once, whatever the HTTP server does, until it
ends a transfer in good order with fewer bytes than were asked for.
-/

namespace RaucUpdate

open Library

section Answers

/-- A request with the bytes it was answered with, or with none for an error. -/
abbrev NbdAnswer : Type := NbdRequest × Option (List UInt8)

def answerMessages : NbdAnswer → List NbdMessage
  | (request, none) => [.reply nbdEio request.handle]
  | (request, some bytes) => [.reply 0 request.handle, .body bytes]

def readRequests (events : List NbdEvent) : List NbdRequest :=
  events.filterMap (fun
    | .request request _ => if request.type = .read then some request else none
    | _ => none)

def completions (events : List NbdEvent) : Nat :=
  events.countP (fun
    | .completed _ _ => true
    | _ => false)

/-- The attempts that the transfers under way may still make. -/
def triesLeft (transfers : List NbdTransfer) : Nat :=
  (transfers.map (fun xfer => 6 - xfer.errors)).sum

/-- What has been written answers a part of the read requests, each one once and with its handle;
the others are under way, and a request is answered at the latest when its sixth attempt ends. -/
def AnswersOnce (events : List NbdEvent) (ctx : NbdServer) : Prop :=
  ctx.halted = none ∧
  completions events + triesLeft ctx.transfers ≤ 6 * (readRequests events).length ∧
  (∀ xfer ∈ ctx.transfers, xfer.errors < 6) ∧
  ∃ answers : List NbdAnswer,
    ctx.output = answers.flatMap answerMessages ∧
    (∀ request bytes, (request, some bytes) ∈ answers → bytes.length = request.len.toNat) ∧
    (readRequests events).Perm (answers.map Prod.fst ++ ctx.transfers.map NbdTransfer.request)

/-- A transfer ends in good order, as a partial response, before all requested bytes have come. -/
def EndsShort (ctx : NbdServer) : NbdEvent → Prop
  | .completed i result => result.ok = true ∧ result.responseCode = 206 ∧
      ∃ xfer ∈ ctx.transfers[i]?, xfer.buffer.length < xfer.request.len.toNat
  | _ => False

instance (ctx : NbdServer) : (event : NbdEvent) → Decidable (EndsShort ctx event)
  | .completed _ _ => inferInstanceAs (Decidable (_ ∧ _ ∧ _))
  | .request _ _ | .clientGone _ | .data _ _ | .header _ _ | .leave =>
    inferInstanceAs (Decidable False)

def OnlyReads (events : List NbdEvent) : Prop :=
  ∀ event ∈ events, match event with
    | .request request _ => request.type = .read
    | .clientGone _ => False
    | _ => True

end Answers

section Transfers

lemma map_modify {α β : Type} {g : α → β} {f : α → α} (h : ∀ x, g (f x) = g x)
    (l : List α) (i : Nat) :
    (l.modify i f).map g = l.map g := by
  apply List.ext_getElem?
  intro j
  rw [List.getElem?_map, List.getElem?_map, List.getElem?_modify]
  cases l[j]? with
  | none => rfl
  | some x => by_cases hij : i = j <;> simp [hij, h]

lemma forall_modify {α : Type} {P : α → Prop} {f : α → α} {l : List α} (h : ∀ x, P x → P (f x))
    (hl : ∀ x ∈ l, P x)
    (i : Nat) : ∀ x ∈ l.modify i f, P x := by
  intro x hx
  obtain ⟨j, hj⟩ := List.mem_iff_getElem?.mp hx
  rw [List.getElem?_modify] at hj
  obtain ⟨y, hy, hxy⟩ := Option.map_eq_some_iff.mp hj
  have hP := hl y (List.mem_of_getElem? hy)
  by_cases hij : i = j
  · rw [if_pos hij] at hxy
    exact hxy ▸ h y hP
  · rw [if_neg hij] at hxy
    exact hxy ▸ hP

lemma cons_eraseIdx_perm {α : Type} {l : List α} {i : Nat} {x : α} (h : l[i]? = some x) :
    (x :: l.eraseIdx i).Perm l := by
  obtain ⟨hi, hx⟩ := List.getElem?_eq_some_iff.mp h
  exact hx ▸ List.getElem_cons_eraseIdx_perm hi

lemma triesLeft_perm {l l' : List NbdTransfer} (h : l.Perm l') : triesLeft l = triesLeft l' :=
  (h.map _).sum_nat

/-- A read request between two answers of libcurl. -/
structure NbdTransfer.Waiting (xfer : NbdTransfer) : Prop where
  read : xfer.request.type = .read
  open_ : xfer.done = false
  clean : xfer.replyError = 0
  tried : xfer.errors < 6
  size : xfer.bufferSize = xfer.request.len.toNat
  room : xfer.buffer.length ≤ xfer.request.len.toNat

lemma NbdTransfer.Waiting.writeCb {xfer : NbdTransfer} (h : xfer.Waiting) (bytes : List UInt8) :
    (RaucUpdate.writeCb bytes xfer).Waiting := by
  unfold RaucUpdate.writeCb
  by_cases hfit : xfer.bufferSize - xfer.buffer.length < bytes.length
  · rwa [if_pos hfit]
  · rw [if_neg hfit]
    have hroom : (xfer.buffer ++ bytes).length ≤ xfer.request.len.toNat := by
      have := h.size
      have := h.room
      rw [List.length_append]
      omega
    exact ⟨h.read, h.open_, h.clean, h.tried, h.size, hroom⟩

lemma writeCb_request (bytes : List UInt8) (xfer : NbdTransfer) :
    (writeCb bytes xfer).request = xfer.request := by
  unfold writeCb
  split_ifs <;> rfl

lemma writeCb_errors (bytes : List UInt8) (xfer : NbdTransfer) :
    (writeCb bytes xfer).errors = xfer.errors := by
  unfold writeCb
  split_ifs <;> rfl

/-- The transfer as the next attempt finds it. -/
def NbdTransfer.again (xfer : NbdTransfer) : NbdTransfer :=
  { xfer with errors := xfer.errors + 1, buffer := [], bufferSize := xfer.request.len.toNat }

/-- All that the end of an attempt to read can do. -/
lemma transferDone_cases {ctx : NbdServer} {i : Nat} {xfer : NbdTransfer}
    (hi : ctx.transfers[i]? = some xfer)
    (hw : xfer.Waiting) (hrun : ctx.halted = none) (result : CurlResult) :
    (xfer.errors < 5 ∧
      transferDone ctx i result =
        { ctx with transfers := ctx.transfers.eraseIdx i ++ [xfer.again] }) ∨
    (transferDone ctx i result = { ctx with
      transfers := ctx.transfers.eraseIdx i, output :=
        ctx.output ++ [.reply nbdEio xfer.request.handle] }) ∨
    (xfer.buffer.length = xfer.request.len.toNat ∧
      transferDone ctx i result = { ctx with
        transfers := ctx.transfers.eraseIdx i
        output := ctx.output ++ [.reply 0 xfer.request.handle, .body xfer.buffer] }) ∨
    EndsShort ctx (.completed i result) := by
  have hread := hw.read
  have hclean := hw.clean
  have hopen := hw.open_
  have hsize := hw.size
  have hroom := hw.room
  by_cases hok : result.ok = true
  · by_cases hcode : result.responseCode = 206
    · by_cases hfull : xfer.buffer.length = xfer.request.len.toNat
      · refine .inr (.inr (.inl ⟨hfull, ?_⟩))
        simp [transferDone, hi, judge, hok, finishRequest, finishRead, hread, hcode, hsize,
          hfull, hrun,
          NbdServer.write]
      · exact .inr (.inr (.inr ⟨hok, hcode, xfer, hi, by omega⟩))
    · refine .inr (.inl ?_)
      simp [transferDone, hi, judge, hok, finishRequest, finishRead, hread, hcode, nbdEio, hrun,
        NbdServer.write]
  · by_cases hgone : result.responseCode = 404 ∨ 5 ≤ xfer.errors
    · refine .inr (.inl ?_)
      have hjudge : judge xfer result = { xfer with replyError := nbdEio, done := true } := by
        unfold judge
        rw [if_neg hok]
        by_cases hmissing : result.responseCode = 404
        · rw [if_pos hmissing]
        · rw [if_neg hmissing, if_pos (hgone.resolve_left hmissing)]
      simp [transferDone, hi, hjudge, finishRequest, finishRead, hread, nbdEio, hrun,
        NbdServer.write]
    · have hmissing : ¬ result.responseCode = 404 := fun h => hgone (.inl h)
      have hfew : ¬ 5 ≤ xfer.errors := fun h => hgone (.inr h)
      refine .inl ⟨by omega, ?_⟩
      simp [transferDone, hi, judge, hok, hmissing, hfew, finishRequest, finishRead, hread, hopen,
        hrun, startRequest,
        startRead, NbdTransfer.again]

end Transfers

section Runs

/-- What holds between two events as long as only read requests come. -/
structure Serving (events : List NbdEvent) (ctx : NbdServer) : Prop where
  answers : AnswersOnce events ctx
  waiting : ∀ xfer ∈ ctx.transfers, xfer.Waiting
  listening : ctx.done = false

lemma Serving.request {events : List NbdEvent} {ctx : NbdServer} (h : Serving events ctx)
    {request : NbdRequest}
    (hread : request.type = .read) (url : Option String) :
    Serving (events ++ [.request request url]) (newRequest ctx request url) := by
  obtain ⟨⟨hrun, hleft, htried, answers, houtput, hbodies, hperm⟩, hwaiting, hlisten⟩ := h
  have hstep : newRequest ctx request url = { ctx with
      transfers :=
        ctx.transfers ++ [{ request := request, bufferSize := request.len.toNat }] } := by
    simp [newRequest, startRequest, hread, startRead]
  have hreads : readRequests (events ++ [.request request url]) = readRequests events ++
      [request] := by
    simp [readRequests, hread]
  have hcount : completions (events ++ [.request request url]) = completions events := by
    simp [completions]
  rw [hstep]
  refine ⟨⟨hrun, ?_, ?_, answers, houtput, hbodies, ?_⟩, ?_, hlisten⟩
  · simp only [hreads, hcount, triesLeft, List.map_append, List.sum_append, List.length_append]
      at hleft ⊢
    simp
    omega
  · intro xfer hxfer
    rcases List.mem_append.mp hxfer with hold | hnew
    · exact htried xfer hold
    · simp [List.mem_singleton.mp hnew]
  · rw [hreads, List.map_append, ← List.append_assoc]
    exact hperm.append_right [request]
  · intro xfer hxfer
    rcases List.mem_append.mp hxfer with hold | hnew
    · exact hwaiting xfer hold
    · rw [List.mem_singleton.mp hnew]
      exact ⟨hread, rfl, rfl, Nat.zero_lt_succ _, rfl, Nat.zero_le _⟩

lemma Serving.data {events : List NbdEvent} {ctx : NbdServer} (h : Serving events ctx) (i : Nat)
    (bytes : List UInt8) :
    Serving (events ++ [.data i bytes])
      { ctx with transfers := ctx.transfers.modify i (writeCb bytes) } := by
  obtain ⟨⟨hrun, hleft, htried, answers, houtput, hbodies, hperm⟩, hwaiting, hlisten⟩ := h
  have hwaiting' : ∀ xfer ∈ ctx.transfers.modify i (writeCb bytes), xfer.Waiting :=
    forall_modify (fun xfer hxfer => hxfer.writeCb bytes) hwaiting i
  have hreads : readRequests (events ++ [.data i bytes]) = readRequests events := by
    simp [readRequests]
  have hcount : completions (events ++ [.data i bytes]) = completions events := by
    simp [completions]
  have htries : triesLeft (ctx.transfers.modify i (writeCb bytes)) = triesLeft ctx.transfers := by
    unfold triesLeft
    rw [map_modify (fun xfer => by rw [writeCb_errors])]
  refine ⟨⟨hrun, ?_, fun xfer hxfer => (hwaiting' xfer hxfer).tried, answers, houtput, hbodies,
    ?_⟩, hwaiting', hlisten⟩
  · rw [hreads, hcount, htries]
    exact hleft
  · rw [hreads, map_modify (writeCb_request bytes)]
    exact hperm

/-- A transfer leaves libcurl with an answer. -/
lemma Serving.answer {events : List NbdEvent} {ctx : NbdServer} (h : Serving events ctx) {i : Nat}
    {xfer : NbdTransfer}
    (hi : ctx.transfers[i]? = some xfer) (result : CurlResult) (bytes : Option (List UInt8))
    (hlen : ∀ b, bytes = some b → b.length = xfer.request.len.toNat) :
    Serving (events ++ [.completed i result]) { ctx with
      transfers := ctx.transfers.eraseIdx i
      output := ctx.output ++ answerMessages (xfer.request, bytes) } := by
  obtain ⟨⟨hrun, hleft, htried, answers, houtput, hbodies, hperm⟩, hwaiting, hlisten⟩ := h
  have hout := cons_eraseIdx_perm hi
  have hreads : readRequests (events ++ [.completed i result]) = readRequests events := by
    simp [readRequests]
  have hcount : completions (events ++ [.completed i result]) = completions events + 1 := by
    simp [completions]
  have hmem : ∀ x ∈ ctx.transfers.eraseIdx i, x ∈ ctx.transfers :=
    fun x hx => List.mem_of_mem_eraseIdx hx
  refine ⟨⟨hrun, ?_, fun x hx => htried x (hmem x hx), answers ++ [(xfer.request, bytes)],
    ?_, ?_, ?_⟩,
    fun x hx => hwaiting x (hmem x hx), hlisten⟩
  · have htries : triesLeft ctx.transfers =
        (6 - xfer.errors) + triesLeft (ctx.transfers.eraseIdx i) := by
      rw [← triesLeft_perm hout]
      simp [triesLeft]
    have htry := htried xfer (List.mem_of_getElem? hi)
    rw [hreads, hcount]
    dsimp only
    omega
  · simp [houtput]
  · intro request body hanswer
    rcases List.mem_append.mp hanswer with hold | hnew
    · exact hbodies request body hold
    · obtain ⟨rfl, hbody⟩ := Prod.mk.inj (List.mem_singleton.mp hnew)
      exact hlen body hbody.symm
  · have hmap := hout.map NbdTransfer.request
    rw [hreads, List.map_append]
    refine hperm.trans ?_
    rw [List.append_assoc]
    exact hmap.symm.append_left _

/-- An attempt has failed and the next one begins. -/
lemma Serving.retry {events : List NbdEvent} {ctx : NbdServer} (h : Serving events ctx) {i : Nat}
    {xfer : NbdTransfer}
    (hi : ctx.transfers[i]? = some xfer) (hfew : xfer.errors < 5) (result : CurlResult) :
    Serving (events ++ [.completed i result]) { ctx with
      transfers := ctx.transfers.eraseIdx i ++ [xfer.again] } := by
  obtain ⟨⟨hrun, hleft, htried, answers, houtput, hbodies, hperm⟩, hwaiting, hlisten⟩ := h
  have hout := cons_eraseIdx_perm hi
  have hold := hwaiting xfer (List.mem_of_getElem? hi)
  have hagain : xfer.again.Waiting :=
    ⟨hold.read, hold.open_,
      hold.clean, by unfold NbdTransfer.again; dsimp only; omega, rfl, Nat.zero_le _⟩
  have hwaiting' : ∀ x ∈ ctx.transfers.eraseIdx i ++ [xfer.again], x.Waiting := by
    intro x hx
    rcases List.mem_append.mp hx with hrest | hnew
    · exact hwaiting x (List.mem_of_mem_eraseIdx hrest)
    · exact List.mem_singleton.mp hnew ▸ hagain
  have hreads : readRequests (events ++ [.completed i result]) = readRequests events := by
    simp [readRequests]
  have hcount : completions (events ++ [.completed i result]) = completions events + 1 := by
    simp [completions]
  refine ⟨⟨hrun, ?_, fun x hx => (hwaiting' x hx).tried, answers, houtput, hbodies, ?_⟩,
    hwaiting', hlisten⟩
  · have htries : triesLeft ctx.transfers =
        (6 - xfer.errors) + triesLeft (ctx.transfers.eraseIdx i) := by
      rw [← triesLeft_perm hout]
      simp [triesLeft]
    have hnext : triesLeft (ctx.transfers.eraseIdx i ++ [xfer.again]) =
        triesLeft (ctx.transfers.eraseIdx i) + (6 - (xfer.errors + 1)) := by
      simp [triesLeft, NbdTransfer.again]
    rw [hreads, hcount]
    dsimp only
    omega
  · have hmap := hout.map NbdTransfer.request
    rw [hreads, List.map_append]
    refine hperm.trans ((hmap.symm.trans ?_).append_left _)
    exact (List.perm_append_singleton xfer.request _).symm

lemma Serving.step {events : List NbdEvent} {ctx : NbdServer} (h : Serving events ctx)
    {event : NbdEvent}
    (henabled : NbdEnabled ctx event) (hreads : OnlyReads [event]) (hlong : ¬ EndsShort ctx event) :
    Serving (events ++ [event]) (nbdStep ctx event) := by
  have hevent := hreads event (List.mem_singleton.mpr rfl)
  cases event with
  | request request url => exact h.request hevent url
  | clientGone error => exact absurd hevent id
  | data i bytes => exact h.data i bytes
  | header i header =>
    obtain ⟨xfer, hi, hconfigure⟩ := Option.map_eq_some_iff.mp henabled.2
    have hread := (h.waiting xfer (List.mem_of_getElem? hi)).read
    simp [hread] at hconfigure
  | completed i result =>
    obtain ⟨xfer, hi⟩ : ∃ xfer, ctx.transfers[i]? = some xfer :=
      ⟨_, List.getElem?_eq_getElem henabled.2⟩
    have hwaiting := h.waiting xfer (List.mem_of_getElem? hi)
    change Serving _ (transferDone ctx i result)
    rcases transferDone_cases hi hwaiting henabled.1 result with
      ⟨hfew, hstep⟩ | hstep | ⟨hfull, hstep⟩ | hshort
    · exact hstep ▸ h.retry hi hfew result
    · exact hstep ▸ h.answer hi result none (by simp)
    · exact hstep ▸ h.answer hi result (some xfer.buffer) (fun b hb => Option.some.inj hb ▸ hfull)
    · exact absurd hshort hlong
  | leave =>
    have hdone := henabled.2
    rw [h.listening] at hdone
    cases hdone

lemma Serving.short_halts {events : List NbdEvent} {ctx : NbdServer} (h : Serving events ctx)
    {event : NbdEvent}
    (hshort : EndsShort ctx event) : (nbdStep ctx event).halted ≠ none := by
  cases event with
  | completed i result =>
    obtain ⟨hok, hcode, xfer, hi, hless⟩ := hshort
    have hw := h.waiting xfer (List.mem_of_getElem? hi)
    have hfew : ¬ xfer.request.len.toNat = xfer.buffer.length := by omega
    have hi : ctx.transfers[i]? = some xfer := hi
    simp [nbdStep, transferDone, hi, judge, hok, finishRequest, finishRead, hw.read, hcode,
      hw.size, hfew,
      NbdServer.write, NbdServer.halt]
  | request _ _ | clientGone _ | data _ _ | header _ _ | leave => exact absurd hshort id

lemma nbdPossible_split {pre : List NbdEvent} {event : NbdEvent} {post : List NbdEvent} :
    ∀ {ctx : NbdServer}, NbdPossible ctx (pre ++ event :: post) →
      NbdEnabled (nbdRun ctx pre) event := by
  induction pre with
  | nil =>
    intro ctx h
    exact h.1
  | cons first pre ih =>
    intro ctx h
    exact ih h.2

lemma nbdRun_snoc (ctx : NbdServer) (events : List NbdEvent) (event : NbdEvent) :
    nbdRun ctx (events ++ [event]) = nbdStep (nbdRun ctx events) event := by
  unfold nbdRun
  rw [List.foldl_append]
  rfl

/-- A server that has just been started, or that has just been told its URL. -/
def nbdServer (url : Option String) : NbdServer := { url := url }

lemma serving_start (url : Option String) : Serving [] (nbdServer url) := by
  exact ⟨⟨rfl,
    Nat.zero_le _, by simp [nbdServer], [], rfl, by simp, List.Perm.refl _⟩, by
    simp [nbdServer], rfl⟩

lemma serving_run {url : Option String} {events : List NbdEvent}
    (hpossible : NbdPossible (nbdServer url) events)
    (hreads : OnlyReads events)
    (hlong : ∀ pre event post, events = pre ++ event :: post →
      Serving pre (nbdRun (nbdServer url) pre) →
      ¬ EndsShort (nbdRun (nbdServer url) pre) event)
    (pre : List NbdEvent) : ∀ post, events = pre ++ post →
      Serving pre (nbdRun (nbdServer url) pre) := by
  induction pre using List.reverseRecOn with
  | nil =>
    intro post hsplit
    exact serving_start url
  | append_singleton pre event ih =>
    intro post hsplit
    rw [List.append_assoc] at hsplit
    change events = pre ++ event :: post at hsplit
    rw [nbdRun_snoc]
    have hserving := ih (event :: post) hsplit
    refine hserving.step (nbdPossible_split (hsplit ▸ hpossible)) ?_
      (hlong pre event post hsplit hserving)
    intro e he
    rw [List.mem_singleton.mp he]
    exact hreads event (hsplit ▸ List.mem_append_right _ List.mem_cons_self)

/-- In a run of read requests, every state answers as it should exactly when no transfer ends
short. -/
theorem nbdRun_answers_iff (url : Option String) (events : List NbdEvent)
    (hpossible : NbdPossible (nbdServer url) events) (hreads : OnlyReads events) :
    (∀ pre post, events = pre ++ post → AnswersOnce pre (nbdRun (nbdServer url) pre)) ↔
      ∀ pre event post, events = pre ++ event :: post →
        ¬ EndsShort (nbdRun (nbdServer url) pre) event := by
  constructor
  · intro hanswers
    -- the step that ends short is the last one of the process
    have hlong : ∀ pre event post, events = pre ++ event :: post →
        Serving pre (nbdRun (nbdServer url) pre) →
        ¬ EndsShort (nbdRun (nbdServer url) pre) event := by
      intro pre event post hsplit hserving hshort
      have hnext := hanswers (pre ++ [event]) post (by rw [hsplit, List.append_assoc]; rfl)
      rw [nbdRun_snoc] at hnext
      exact hserving.short_halts hshort hnext.1
    intro pre event post hsplit
    exact hlong pre event post hsplit (serving_run hpossible hreads hlong pre
      (event :: post) hsplit)
  · intro hlong pre post hsplit
    have hrun :=
      serving_run hpossible hreads (fun pre event post hsplit _ => hlong pre event post hsplit)
      pre post hsplit
    exact hrun.answers

def readOf (name : UInt8) (offset : UInt64) (len : UInt32) : NbdRequest :=
  { type := .read, handle := Vector.replicate 8 name, offset := offset, len := len }

/-- Two reads at once: the second is answered first, and the first needs a second attempt after a
body that was too long. -/
def twoReads : List NbdEvent :=
  [.request (readOf 1 0 2) none, .request (readOf 2 4 1) none, .data 1 [9],
    .completed 1 ⟨true, 206, "", none⟩,
    .data 0 [7, 7, 7], .completed 0 ⟨false, 206, "Failure writing output", none⟩, .data 0 [7, 8],
    .completed 0 ⟨true, 206, "", none⟩]

theorem nbdRun_answers_twoReads :
    (∀ pre post, twoReads = pre ++ post →
      AnswersOnce pre (nbdRun (nbdServer (some "http://host/bundle")) pre)) ∧
    (nbdRun (nbdServer (some "http://host/bundle")) twoReads).output =
      answerMessages (readOf 2 4 1, some [9]) ++ answerMessages (readOf 1 0 2, some [7, 8]) := by
  refine ⟨(nbdRun_answers_iff (some "http://host/bundle") twoReads (by decide) ?_).mpr
    ?_, by decide⟩
  · simp [OnlyReads, twoReads, readOf]
  · intro pre event post hsplit
    have hsteps : ∀ n : Fin twoReads.length,
        ¬ EndsShort (nbdRun (nbdServer (some "http://host/bundle")) (twoReads.take n))
          twoReads[n] := by decide
    have hlt : pre.length < twoReads.length := by
      rw [hsplit, List.length_append, List.length_cons]
      omega
    have hstep := hsteps ⟨pre.length, hlt⟩
    simpa only [hsplit, List.take_left, Fin.getElem_fin, List.getElem_append_right, Nat.le_refl,
      Nat.sub_self,
      List.getElem_cons_zero] using hstep

/-- The HTTP server has one byte of the two: the answer is announced as good and the process
ends. -/
def shortBody : List NbdEvent :=
  [.request (readOf 1 0 2) none, .data 0 [7], .completed 0 ⟨true, 206, "", none⟩]

theorem short_body_aborts :
    NbdPossible (nbdServer (some "http://host/bundle")) shortBody ∧ OnlyReads shortBody ∧
    (nbdRun (nbdServer (some "http://host/bundle")) shortBody).halted =
      some (.aborted "incomplete data received from server") ∧
    (nbdRun (nbdServer (some "http://host/bundle")) shortBody).output =
      [.reply 0 (readOf 1 0 2).handle] ∧
    ¬ AnswersOnce shortBody (nbdRun (nbdServer (some "http://host/bundle")) shortBody) := by
  refine ⟨by decide, by simp [OnlyReads, shortBody, readOf], by decide, by decide, ?_⟩
  intro h
  have hhalted : (nbdRun (nbdServer (some "http://host/bundle")) shortBody).halted ≠ none := by
    decide
  exact hhalted h.1

end Runs

end RaucUpdate
