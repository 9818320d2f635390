import TransportConverter.Client.Engine
/-!
# Short writes

A socket may take fewer bytes than it is offered, or none of them because it was interrupted or would
block. Each answer leads to the next write, which starts where the socket has stopped taking
(`WriteSome.at_call`), and `WriteSome.Stands` says what has become of the payload by the writes so far: it is
split between what was taken and what is on offer, until an answer ends the write.

The main result is `WriteSome.reports_taken`: **whatever the socket answers, each write is offered just what
was not taken before it, and the count that is reported in the end is the count of the bytes that were taken**.
-/
namespace TransportConverter

namespace WriteSome

/-! ## What the socket sees -/

/-- A write, as the socket sees it. -/
structure Call where
  offered : Bytes
  answer : Except IoError Nat

namespace Call

/-- The socket takes no more than it is offered. -/
def Possible (c : Call) : Prop := ∀ count, c.answer = .ok count → count ≤ c.offered.length

/-- The bytes that the socket takes. -/
def taken (c : Call) : Bytes :=
  match c.answer with
  | .ok count => c.offered.take count
  | .error _ => []

end Call

/-- All bytes that the socket has taken, in order. -/
def taken (made : List Call) : Bytes := made.flatMap Call.taken

/-- The writes that are made while the socket gives these answers. -/
def calls : WriteSome → List (Except IoError Nat) → List Call
  | offering written rest, answer :: answers =>
    ⟨rest, answer⟩ :: calls ((offering written rest).answer answer) answers
  | _, _ => []

/-- The write was interrupted before anything was taken. -/
def interrupts : Except IoError Nat → Bool
  | .error e => e.kind = .interrupted
  | .ok _ => false

variable {payload rest : Bytes} {written : Nat} {made before after : List Call} {c : Call} {w : WriteSome}
  {reply : Except IoError Nat} {answers : List (Except IoError Nat)}

@[simp] theorem taken_append (made after : List Call) : taken (made ++ after) = taken made ++ taken after :=
  List.flatMap_append

@[simp] theorem taken_singleton (c : Call) : taken [c] = c.taken := List.flatMap_singleton ..

theorem Call.taken_of_interrupts (interrupted : interrupts c.answer = true) : c.taken = [] := by
  obtain ⟨offered, reply⟩ := c
  cases reply with
  | ok count => cases interrupted
  | error e => rfl

@[simp] theorem answer_done (result reply : Except IoError Nat) :
    (done result).answer reply = done result := rfl

@[simp] theorem calls_done (result : Except IoError Nat) (answers : List (Except IoError Nat)) :
    calls (done result) answers = [] := by
  cases answers <;> rfl

@[simp] theorem foldl_done (result : Except IoError Nat) (answers : List (Except IoError Nat)) :
    answers.foldl WriteSome.answer (done result) = done result := by
  induction answers with
  | nil => rfl
  | cons answer answers ih => exact ih

theorem answer_of_interrupts (interrupted : interrupts reply = true) :
    (offering written rest).answer reply = offering written rest := by
  cases reply with
  | ok count => cases interrupted
  | error e => exact if_pos (of_decide_eq_true interrupted)

theorem answer_of_persists {error : IoError} (persists : interrupts (.error error) = false) :
    (offering written rest).answer (.error error) =
      done (if error.kind = .wouldBlock then .ok written else .error error) := by
  rw [WriteSome.answer, if_neg (of_decide_eq_false persists)]
  split <;> rfl

/-- Each write is made at some stage, and its answer leads to the next. -/
theorem at_call (split : calls w answers = before ++ c :: after) :
    ∃ early late written, answers = early ++ c.answer :: late ∧ calls w early = before ∧
      early.foldl WriteSome.answer w = offering written c.offered ∧
      calls ((offering written c.offered).answer c.answer) late = after := by
  induction answers generalizing w before with
  | nil => cases w <;> simp [calls] at split
  | cons answer answers ih =>
    cases w with
    | done result => simp at split
    | offering written rest =>
      rw [calls] at split
      cases before with
      | nil =>
        obtain ⟨rfl, next⟩ := List.cons.inj split
        exact ⟨[], answers, written, rfl, rfl, rfl, next⟩
      | cons first before =>
        obtain ⟨rfl, later⟩ := List.cons.inj split
        obtain ⟨early, late, written', rfl, made, stage, next⟩ := ih later
        exact ⟨answer :: early, late, written', rfl, by rw [calls, made], stage, next⟩

/-! ## What has become of the payload -/

/-- What the writes so far have come to: there is more to offer, or the last of them has ended it all. -/
inductive Stands (payload : Bytes) (made : List Call) : WriteSome → Prop
  | going {rest : Bytes} (left : rest ≠ []) (split : taken made ++ rest = payload) :
      Stands payload made (offering (taken made).length rest)
  | whole (all : taken made = payload) : Stands payload made (done (.ok (taken made).length))
  | blocked {before : List Call} {rest : Bytes} {error : IoError}
      (last : made = before ++ [⟨rest, .error error⟩]) (kind : error.kind = .wouldBlock)
      (split : taken made ++ rest = payload) : Stands payload made (done (.ok (taken made).length))
  | refused {before : List Call} {rest : Bytes} (last : made = before ++ [⟨rest, .ok 0⟩]) :
      Stands payload made (done (.error (.bare .writeZero)))
  | failed {before : List Call} {rest : Bytes} {error : IoError}
      (last : made = before ++ [⟨rest, .error error⟩]) (persists : error.kind ≠ .interrupted)
      (unblocked : error.kind ≠ .wouldBlock) : Stands payload made (done (.error error))

theorem stands_offer (split : taken made ++ rest = payload) :
    Stands payload made (offer (taken made).length rest) := by
  cases rest with
  | nil => exact .whole (by rw [← split, List.append_nil])
  | cons b rest => exact .going (List.cons_ne_nil b rest) split

theorem stands_start (payload : Bytes) : Stands payload [] (start payload) := stands_offer rfl

/-- **One answer.** -/
theorem Stands.step (stands : Stands payload made (offering written rest))
    (possible : Call.Possible ⟨rest, reply⟩) :
    Stands payload (made ++ [⟨rest, reply⟩]) ((offering written rest).answer reply) := by
  cases stands with
  | going left split =>
    cases reply with
    | ok count =>
      rw [WriteSome.answer]
      split
      · rename_i none
        subst none
        exact .refused rfl
      · -- the socket has taken the front of what was on offer
        have fits : count ≤ rest.length := possible count rfl
        have length : (taken (made ++ [⟨rest, .ok count⟩])).length = (taken made).length + count := by
          simp [Call.taken, List.length_take_of_le fits]
        rw [← length]
        apply stands_offer
        simpa [Call.taken] using split
    | error e =>
      -- nothing was taken, so that the payload is split where it was before
      have same : taken (made ++ [⟨rest, .error e⟩]) = taken made := by simp [Call.taken]
      rw [WriteSome.answer, ← same]
      rw [← same] at split
      split
      · exact .going left split
      · split
        · rename_i blocked
          exact .blocked rfl blocked split
        · rename_i persists unblocked
          exact .failed rfl persists unblocked

/-- **All answers.** -/
theorem Stands.run (stands : Stands payload made w) (possible : ∀ c ∈ calls w answers, c.Possible) :
    Stands payload (made ++ calls w answers) (answers.foldl WriteSome.answer w) := by
  induction answers generalizing made w with
  | nil => cases w <;> simpa [calls] using stands
  | cons answer answers ih =>
    cases w with
    | done result => simpa using stands
    | offering written rest =>
      rw [calls] at possible ⊢
      obtain ⟨now, later⟩ := List.forall_mem_cons.1 possible
      simpa using ih (stands.step now) later

theorem stands_run (possible : ∀ c ∈ calls (start payload) answers, c.Possible) :
    Stands payload (calls (start payload) answers) (run payload answers) :=
  (stands_start payload).run possible

/-- What is offered is what was not taken. -/
theorem Stands.split (stands : Stands payload made (offering written rest)) :
    rest ≠ [] ∧ taken made ++ rest = payload := by
  cases stands with
  | going left split => exact ⟨left, split⟩

theorem Stands.count (stands : Stands payload made (offering written rest)) :
    written = (taken made).length := by
  cases stands with
  | going left split => rfl

/-- Each write is offered what the ones before it have left. -/
theorem stands_at_call (possible : ∀ c ∈ calls (start payload) answers, c.Possible)
    (split : calls (start payload) answers = before ++ c :: after) :
    let stage := offering (taken before).length c.offered
    ∃ early late, answers = early ++ c.answer :: late ∧
      early.foldl WriteSome.answer (start payload) = stage ∧
      calls (stage.answer c.answer) late = after ∧ Stands payload before stage := by
  intro stage
  obtain ⟨early, late, written, rfl, made, reached, next⟩ := at_call split
  have earlier : ∀ c ∈ calls (start payload) early, c.Possible := fun c mem =>
    possible c (split ▸ List.mem_append_left _ (made ▸ mem))
  have stands := (stands_start payload).run earlier
  rw [List.nil_append, made, reached] at stands
  have same : offering written c.offered = stage := by rw [stands.count]
  rw [same] at reached next stands
  exact ⟨early, late, rfl, reached, next, stands⟩

/-- A write whose answer ends it is the last one. -/
theorem ends_at_call {result : Except IoError Nat}
    (possible : ∀ c ∈ calls (start payload) answers, c.Possible)
    (split : calls (start payload) answers = before ++ c :: after)
    (ends : (offering (taken before).length c.offered).answer c.answer = done result) :
    after = [] ∧ run payload answers = done result := by
  obtain ⟨early, late, rfl, reached, next, -⟩ := stands_at_call possible split
  rw [ends, calls_done] at next
  refine ⟨next.symm, ?_⟩
  rw [run, List.foldl_append, List.foldl_cons, reached, ends, foldl_done]

/-- A reported count counts what was taken; it falls short only where the socket would block. -/
theorem Stands.reported {n : Nat} (stands : Stands payload made (done (.ok n))) :
    n ≤ payload.length ∧ taken made = payload.take n ∧
      (n < payload.length →
        ∃ before rest error, made = before ++ [⟨rest, .error error⟩] ∧ error.kind = .wouldBlock) := by
  cases stands with
  | whole all =>
    subst all
    exact ⟨Nat.le_refl _, List.take_length.symm, fun short => absurd short (Nat.lt_irrefl _)⟩
  | @blocked before rest error last kind split =>
    rw [← split]
    exact ⟨by simp, by simp, fun _ => ⟨before, rest, error, last, kind⟩⟩

/-- An error is reported only for a write that took nothing, or that failed with it. -/
theorem Stands.error {error : IoError} (stands : Stands payload made (done (.error error))) :
    ∃ before rest, made = before ++ [⟨rest, .ok 0⟩] ∧ error = .bare .writeZero ∨
      made = before ++ [⟨rest, .error error⟩] := by
  cases stands with
  | @refused before rest last => exact ⟨before, rest, .inl ⟨last, rfl⟩⟩
  | @failed before rest _ last persists unblocked => exact ⟨before, rest, .inr last⟩

/-! ## Interruptions and progress -/

/-- Interruptions change neither the other writes nor the result. -/
theorem uninterrupted (w : WriteSome) (answers : List (Except IoError Nat)) :
    calls w (answers.filter (!interrupts ·)) = (calls w answers).filter (!interrupts ·.answer) ∧
      (answers.filter (!interrupts ·)).foldl WriteSome.answer w = answers.foldl WriteSome.answer w := by
  induction answers generalizing w with
  | nil => cases w <;> exact ⟨rfl, rfl⟩
  | cons answer answers ih =>
    cases w with
    | done result => simp
    | offering written rest =>
      by_cases interrupted : interrupts answer = true
      · rw [List.foldl_cons, calls, answer_of_interrupts interrupted]
        simpa [interrupted] using ih (offering written rest)
      · simpa [interrupted, calls] using ih ((offering written rest).answer answer)

/-- Nothing is taken by a write that is interrupted. -/
theorem taken_filter (made : List Call) : taken (made.filter (!interrupts ·.answer)) = taken made := by
  induction made with
  | nil => rfl
  | cons c made ih =>
    by_cases interrupted : interrupts c.answer = true
    · rw [List.filter_cons_of_neg (by simp [interrupted]), ih, taken, taken, List.flatMap_cons,
        Call.taken_of_interrupts interrupted, List.nil_append]
    · rw [List.filter_cons_of_pos (by simpa using interrupted)]
      exact congrArg (c.taken ++ ·) ih

/-- How many bytes are still on offer. -/
def left : WriteSome → Nat
  | offering _ rest => rest.length
  | done _ => 0

theorem left_offer (written : Nat) (rest : Bytes) : (offer written rest).left = rest.length := by
  cases rest <;> rfl

/-- An answer that is no interruption leaves less on offer. -/
theorem left_answer (progresses : interrupts reply = false) (some : rest ≠ []) :
    ((offering written rest).answer reply).left < rest.length := by
  have positive : 0 < rest.length := List.length_pos_iff.2 some
  cases reply with
  | ok count =>
    rw [WriteSome.answer]
    split
    · exact positive
    · rw [left_offer, List.length_drop]
      omega
  | error e =>
    have persists : e.kind ≠ .interrupted := of_decide_eq_false progresses
    rw [WriteSome.answer, if_neg persists]
    split <;> exact positive

/-- A write ends once it was answered, and not interrupted, as often as there are bytes on offer. -/
theorem Stands.ends (stands : Stands payload made w) (possible : ∀ c ∈ calls w answers, c.Possible)
    (enough : w.left ≤ (answers.filter (!interrupts ·)).length) :
    ∃ result, answers.foldl WriteSome.answer w = done result := by
  induction answers generalizing made w with
  | nil =>
    cases w with
    | done result => exact ⟨result, rfl⟩
    | offering written rest =>
      exact absurd (List.eq_nil_of_length_eq_zero (Nat.le_zero.1 enough)) stands.split.1
  | cons reply answers ih =>
    cases w with
    | done result => exact ⟨result, foldl_done result _⟩
    | offering written rest =>
      rw [calls] at possible
      obtain ⟨now, later⟩ := List.forall_mem_cons.1 possible
      refine ih (stands.step now) later ?_
      by_cases interrupted : interrupts reply = true
      · rw [answer_of_interrupts interrupted]
        simpa [interrupted] using enough
      · have less : ((offering written rest).answer reply).left < rest.length :=
          left_answer (eq_false_of_ne_true interrupted) stands.split.1
        have counted : rest.length ≤ (answers.filter (!interrupts ·)).length + 1 := by
          simpa [interrupted, left] using enough
        omega

/-! ## The report -/

/-- **What is reported is what was taken.** Whatever the socket answers: each write is offered just the bytes
that it has not taken yet, and there are some; as long as it goes on, the offset is the count of those taken. A
reported count is that of the bytes that were taken, in order from the front, and falls short of all only after
a write that would block. A write that takes nothing, would block or fails is the last one and decides the
result, and nothing else is reported as an error. An interrupted write changes nothing. The write does end,
unless it is interrupted over and over, and nothing is written of an empty payload. -/
theorem reports_taken (payload : Bytes) (answers : List (Except IoError Nat))
    (possible : ∀ c ∈ calls (start payload) answers, c.Possible) :
    let made := calls (start payload) answers
    (∀ before c after, made = before ++ c :: after →
      c.offered ≠ [] ∧ taken before ++ c.offered = payload) ∧
    (∀ written rest, run payload answers = offering written rest →
      written = (taken made).length ∧ taken made ++ rest = payload) ∧
    (∀ n, run payload answers = done (.ok n) → n ≤ payload.length ∧ taken made = payload.take n ∧
      (n < payload.length →
        ∃ before rest error, made = before ++ [⟨rest, .error error⟩] ∧ error.kind = .wouldBlock)) ∧
    (∀ before c after, made = before ++ c :: after → interrupts c.answer = false →
      (c.answer = .ok 0 → after = [] ∧ run payload answers = done (.error (.bare .writeZero))) ∧
      ∀ error, c.answer = .error error → after = [] ∧ run payload answers =
        done (if error.kind = .wouldBlock then .ok (taken made).length else .error error)) ∧
    (∀ error, run payload answers = done (.error error) →
      ∃ before rest, made = before ++ [⟨rest, .ok 0⟩] ∧ error = .bare .writeZero ∨
        made = before ++ [⟨rest, .error error⟩]) ∧
    (calls (start payload) (answers.filter (!interrupts ·)) = made.filter (!interrupts ·.answer) ∧
      taken (calls (start payload) (answers.filter (!interrupts ·))) = taken made ∧
      run payload (answers.filter (!interrupts ·)) = run payload answers) ∧
    (payload.length ≤ (answers.filter (!interrupts ·)).length →
      ∃ result, run payload answers = done result) ∧
    (payload = [] → made = [] ∧ run payload answers = done (.ok 0)) := by
  intro made
  have stands := stands_run possible
  refine ⟨fun before c after split => ?_, fun written rest going => ?_, fun n reported => ?_,
    fun before c after split persists => ⟨?_, ?_⟩, fun error failed => ?_, ?_, ?_, ?_⟩
  · obtain ⟨-, -, -, -, -, stands⟩ := stands_at_call possible split
    exact stands.split
  · rw [going] at stands
    exact ⟨stands.count, stands.split.2⟩
  · rw [reported] at stands
    exact stands.reported
  · intro zero
    refine ends_at_call possible split ?_
    rw [zero]
    rfl
  · intro error failed
    have last := ends_at_call possible split
      ((congrArg _ failed).trans (answer_of_persists (failed ▸ persists)))
    have same : taken made = taken before := by
      rw [split, last.1, taken_append, taken_singleton, Call.taken, failed, List.append_nil]
    rwa [same]
  · rw [failed] at stands
    exact stands.error
  · obtain ⟨others, result⟩ := uninterrupted (start payload) answers
    exact ⟨others, by rw [others, taken_filter], result⟩
  · intro enough
    exact (stands_start payload).ends possible (by rwa [start, left_offer])
  · rintro rfl
    exact ⟨calls_done _ _, foldl_done _ _⟩

/-- A write of three bytes that is cut short, interrupted, cut short again and then would block. -/
theorem reports_taken_blocked :
    let payload : Bytes := [1, 2, 3]
    let answers : List (Except IoError Nat) := [.ok 1, .error (.system 4), .ok 1, .error (.system 11)]
    let made := calls (start payload) answers
    (∀ c ∈ made, c.Possible) ∧ run payload answers = done (.ok 2) ∧ taken made = [1, 2] ∧
      ∃ before rest error, made = before ++ [⟨rest, .error error⟩] ∧ error.kind = .wouldBlock := by
  intro payload answers made
  have possible : ∀ c ∈ made, c.Possible := by
    have offered : made = [⟨[1, 2, 3], .ok 1⟩, ⟨[2, 3], .error (.system 4)⟩, ⟨[2, 3], .ok 1⟩,
        ⟨[3], .error (.system 11)⟩] := rfl
    simp [offered, Call.Possible]
  have reported : run payload answers = done (.ok 2) := rfl
  obtain ⟨-, took, short⟩ := (reports_taken payload answers possible).2.2.1 2 reported
  exact ⟨possible, reported, took, short (by decide)⟩

/-! ## What is kept of a request -/

/-- The engine keeps of a request what the socket has not taken. -/
theorem kept_of_request {e : Engine} {h : Handle} {s : RedirectState} {request : Bytes} {n : Nat}
    (found : e.table.lookup h = some s) (possible : ∀ c ∈ calls (start request) answers, c.Possible)
    (reported : run request answers = done (.ok n)) :
    ∃ rest, taken (calls (start request) answers) ++ rest = request ∧
      (e.requestAnswered h request (.ok n)).1.table.lookup h = some (s.requested rest) := by
  have stands := stands_run possible
  rw [reported] at stands
  obtain ⟨fits, took, -⟩ := stands.reported
  refine ⟨request.drop n, by rw [took, List.take_append_drop], ?_⟩
  rw [Engine.requestAnswered, Nat.min_eq_left fits, Engine.requestAnswered.taken, Engine.update]
  rw [Registry.lookup_update_self, found]
  rfl

end WriteSome

end TransportConverter
