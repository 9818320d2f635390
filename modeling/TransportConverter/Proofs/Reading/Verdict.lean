import TransportConverter.Proofs.Reading.Run
/-!
# What the answer is taken for

What a converter sends decides what becomes of a redirect (`verdict`). A polling look leaves all of it
alone until the whole answer is at hand, and a blocking one takes it part by part; both come to the same
verdict, leave the same of the entry and take no byte that stands behind the answer (`Told`).
-/
namespace TransportConverter

open Engine

namespace Reading

/-! ## The verdict -/

/-- How many bytes at the front of a stream are the answer: no more than a header, if that cannot be
read. -/
def extent (stream : Bytes) : Nat :=
  match Header.decode stream with
  | .ok header => header.messageLength
  | .error _ => headerLength

/-- What becomes of a redirect whose converter sends `stream`, and nothing more if that is too short. -/
def verdict (stream : Bytes) : Except RedirectError ReadOutcome :=
  if stream.length < extent stream then .error .converterClosed
  else match Message.decode stream with
    | .error error => .error (.decode error)
    | .ok (reply, _) =>
      match reply.error with
      | some code => .error (.rejected code)
      | none => .ok .resolved

/-- What is left of an entry. -/
def remains (stream : Bytes) (s : RedirectState) : Option RedirectState :=
  match verdict stream with
  | .ok _ => none
  | .error _ => some s.fail

section

variable {stream bytes : Bytes} {header : Header} {error : DecodeError} {s : RedirectState}

theorem extent_of_header (opens : Header.decode stream = .ok header) :
    extent stream = header.messageLength := by rw [extent, opens]

theorem headerLength_le_extent (stream : Bytes) : headerLength ≤ extent stream := by
  unfold extent
  split
  · exact Header.headerLength_le_messageLength _
  · exact Nat.le_refl _

theorem extent_pos (stream : Bytes) : 0 < extent stream :=
  Nat.lt_of_lt_of_le (by decide) (headerLength_le_extent stream)

theorem verdict_of_short (short : stream.length < extent stream) :
    verdict stream = .error .converterClosed := if_pos short

/-- A header is told from its first bytes, and so is one that cannot be read. -/
theorem verdict_of_header_error (long : headerLength ≤ stream.length)
    (bad : Header.decode stream = .error error) : verdict stream = .error (.decode error) := by
  have whole : ¬ stream.length < extent stream := by
    rw [extent, bad]
    exact Nat.not_lt_of_le long
  rw [verdict, if_neg whole, Message.decode_eq, bad]

theorem remains_of_error {error : RedirectError} (told : verdict stream = .error error) :
    remains stream s = some s.fail := by rw [remains, told]

/-- What stands behind the bytes that a header declares is not looked at. -/
theorem decode_take (opens : Header.decode stream = .ok header)
    (whole : header.messageLength ≤ stream.length) :
    Message.decode (stream.take header.messageLength) = Message.decode stream := by
  have length := List.length_take_of_le whole
  have opens' : Header.decode (stream.take header.messageLength) = .ok header := by
    rw [← opens]
    refine (Header.decode_of_isPrefix (List.take_prefix ..) ?_).symm
    rw [length]
    exact header.headerLength_le_messageLength
  have records : Message.decodeTlvs ((stream.take header.messageLength).drop headerLength)
      header.tlvLength.toNat =
      Message.decodeTlvs (stream.drop headerLength) header.tlvLength.toNat := by
    have declared : header.messageLength - headerLength = header.tlvLength.toNat := by
      rw [Header.messageLength, Nat.add_sub_cancel_left]
    rw [List.drop_take, declared]
    simp only [Message.decodeTlvs_eq, List.length_take, List.take_take, Nat.min_self]
    have there : header.tlvLength.toNat ≤ (stream.drop headerLength).length := by
      rw [List.length_drop, ← declared]
      exact Nat.sub_le_sub_right whole _
    rw [Nat.min_eq_left there, if_neg (Nat.lt_irrefl _), if_neg (Nat.not_lt_of_le there)]
  rw [Message.decode_eq, opens', Message.decode_eq stream, opens]
  simp only [length, Nat.lt_irrefl, if_false, Nat.not_lt_of_le whole, records]

end

/-! ## Before and after a look -/

/-- Nobody is looking for the answer, and nothing of it has been taken. A part of the request may still have
to go out. -/
structure Seeks (stream : Bytes) (h : Handle) (s : RedirectState) (e : Engine) (p : Pipe) : Prop where
  entry : ∃ count, e.table.lookup h = some (s.sent count)
  unread : p.taken = []
  brings : p.Brings stream

/-- A look that began with `p` has found nothing yet and leaves all as it was. -/
structure Waits (stream : Bytes) (prompt : Prop) (h : Handle) (s : RedirectState) (p : Pipe)
    (x : State) : Prop where
  result : x.progress = .done (.read (.ok .pending))
  entry : ∃ count, x.engine.table.lookup h = some (s.sent count)
  arrives : p.Arrives stream x.pipe
  calm : .setAbortiveClose ∉ x.calls
  due : prompt → p.held.length < extent stream ∧ (stream = [] → p.ended = false)

/-- A look has come to the verdict. -/
structure Told (stream : Bytes) (h : Handle) (s : RedirectState) (x : State) : Prop where
  result : x.progress = .done (.read (verdict stream))
  entry : x.engine.table.lookup h = remains stream s
  reset : ∀ error, verdict stream = .error error → .setAbortiveClose ∈ x.calls
  /-- The answer is taken and what stands behind it is not. -/
  took : ∀ header, Header.decode stream = .ok header → header.messageLength ≤ stream.length →
    x.pipe.taken = stream.take header.messageLength
  brings : x.pipe.Brings stream

/-- Somebody is looking for the answer. -/
structure Driven (stream : Bytes) (h : Handle) (s : RedirectState) (e : Engine) (p : Pipe) : Prop where
  entry : ∃ count, e.table.lookup h = some (s.sent count).claim
  brings : p.Brings stream

variable {stream : Bytes} {prompt : Prop} {h : Handle} {s t : RedirectState} {e e' : Engine}
  {p p' p₀ : Pipe} {calls : List SocketCall}

theorem lookup_update (found : e.table.lookup h = some t) (f : RedirectState → RedirectState) :
    (e.update h f).table.lookup h = some (f t) := by
  rw [Engine.update, Registry.lookup_update_self, found]
  rfl

theorem Driven.grows (driven : Driven stream h s e p)
    (elsewhere : e'.table.lookup h = e.table.lookup h) (arrives : p.Arrives stream p') :
    Driven stream h s e' p' where
  entry := by
    rw [elsewhere]
    exact driven.entry
  brings := arrives.brings

theorem Driven.advance (driven : Driven stream h s e p) (count : Nat) :
    Driven stream h s e (p.advance count) := ⟨driven.entry, driven.brings.advance count⟩

/-! ## The end of a look -/

/-- A look that finds nothing gives up its claim. -/
theorem surely_nothing (free : s.claimed = false) (driven : Driven stream h s e p)
    (began : p₀.Arrives stream p) (calm : .setAbortiveClose ∉ calls)
    (due : prompt → p₀.held.length < extent stream ∧ (stream = [] → p₀.ended = false)) :
    Surely stream prompt h (Waits stream prompt h s p₀) (.of (e.settle h (.ok none)) p calls) := by
  refine .finished rfl ⟨rfl, ?_, began, calm, due⟩
  obtain ⟨count, found⟩ := driven.entry
  have same : (s.sent count).claim.release = s.sent count := by
    rw [RedirectState.release, RedirectState.claim, RedirectState.sent, free]
  exact ⟨count, same ▸ lookup_update found RedirectState.release⟩

/-- A redirect that fails is failed on its socket too. -/
theorem surely_fail (driven : Driven stream h s e p) {error : RedirectError}
    (told : verdict stream = .error error)
    (took : ∀ header, Header.decode stream = .ok header → header.messageLength ≤ stream.length →
      p.taken = stream.take header.messageLength) :
    Surely stream prompt h (Told stream h s) (.of (e.fail h error) p calls) := by
  obtain ⟨count, found⟩ := driven.entry
  refine .call (fun p' _ _ => ⟨.ok (), p', rfl⟩) fun e' p' answer p'' elsewhere arrives meets => ?_
  obtain rfl : p'' = p' := meets
  refine .finished rfl ⟨?_, ?_, fun _ _ => ?_, ?_, arrives.brings⟩
  · rw [told]
    rfl
  · rw [remains_of_error told]
    exact elsewhere.trans (lookup_update found RedirectState.fail)
  · exact List.mem_append_right _ (List.mem_singleton_self _)
  · intro header opens whole
    exact arrives.taken.trans (took header opens whole)

/-- The bytes that the header declares are the answer. -/
theorem surely_received (driven : Driven stream h s e p) {header : Header}
    (opens : Header.decode stream = .ok header) (whole : header.messageLength ≤ stream.length)
    (took : p.taken = stream.take header.messageLength) :
    Surely stream prompt h (Told stream h s) (.of (e.received h p.taken) p calls) := by
  have long : ¬ stream.length < extent stream := by
    rw [extent_of_header opens]
    exact Nat.not_lt_of_le whole
  have took' : ∀ header, Header.decode stream = .ok header →
      header.messageLength ≤ stream.length → p.taken = stream.take header.messageLength := by
    intro header' opens'
    cases opens.symm.trans opens'
    exact fun _ => took
  rw [received, took, decode_take opens whole]
  cases read : Message.decode stream with
  | error error =>
    have told : verdict stream = .error (.decode error) := by rw [verdict, if_neg long, read]
    exact surely_fail driven told took'
  | ok message =>
    obtain ⟨reply, used⟩ := message
    cases reason : reply.error with
    | some code =>
      have told : verdict stream = .error (.rejected code) := by
        rw [verdict, if_neg long, read]
        simp only [reason]
      simp only [settle, reason]
      exact surely_fail driven told took'
    | none =>
      have told : verdict stream = .ok .resolved := by
        rw [verdict, if_neg long, read]
        simp only [reason]
      simp only [settle, reason]
      refine .finished rfl ⟨?_, ?_, ?_, took', driven.brings⟩
      · rw [told]
        rfl
      · rw [remains, told]
        exact Registry.lookup_remove_self _ h
      · rw [told]
        rintro _ ⟨⟩

/-! ## A polling look -/

/-- What a polling look that began with `p` comes to. A verdict on a stream that is too short is come to
only when there is nothing to be seen of it. -/
def Polled (stream : Bytes) (prompt : Prop) (h : Handle) (s : RedirectState) (p : Pipe)
    (x : State) : Prop :=
  Waits stream prompt h s p x ∨ Told stream h s x ∧ (stream = [] ∨ extent stream ≤ stream.length)

theorem answered_peek {room : Nat} (some : 0 < room) (p : Pipe) :
    ∃ answer p', p.Shows (p.ended = true) room answer ∧ (prompt → p.ShowsAll room answer) ∧ p' = p := by
  obtain ⟨answer, shows, all⟩ := p.exists_showsAll some
  exact ⟨answer, p, shows, fun _ => all, rfl⟩

theorem surely_takingMessage (driven : Driven stream h s e p) (unread : p.taken = [])
    {header : Header} (opens : Header.decode stream = .ok header)
    (there : header.messageLength ≤ p.held.length) :
    Surely stream prompt h (Polled stream prompt h s p₀)
      ⟨e, .waiting (.takingMessage h header.messageLength), p, calls⟩ := by
  refine .call ?_ ?_
  · intro p' arrives _
    exact ⟨_, _, .whole (Nat.le_trans there arrives.held.length_le)⟩
  · intro e' p' answer p'' elsewhere arrives meets
    have there' := Nat.le_trans there arrives.held.length_le
    have opens' := arrives.brings.held_isPrefix (arrives.taken.trans unread)
    cases meets with
    | short lost ended short eof => exact absurd there' (Nat.not_le_of_lt short)
    | whole _ =>
      have took : (p'.advance header.messageLength).taken = p'.held.take header.messageLength := by
        rw [Pipe.advance, arrives.taken, unread, List.nil_append]
      have front : p'.held.take header.messageLength = stream.take header.messageLength := by
        obtain ⟨tail, rfl⟩ := opens'
        rw [List.take_append_of_le_length there']
      have whole := Nat.le_trans there' opens'.length_le
      show Surely stream prompt h _ (.of (e'.received h (p'.held.take header.messageLength)) _ _)
      rw [← took]
      refine (surely_received ((driven.grows elsewhere arrives).advance _) opens whole
        (took.trans front)).mono fun x told => .inr ⟨told, .inr ?_⟩
      rw [extent_of_header opens]
      exact whole

theorem surely_peekingMessage (free : s.claimed = false) (driven : Driven stream h s e p)
    (began : p₀.Arrives stream p) (unread : p₀.taken = []) (calm : .setAbortiveClose ∉ calls)
    {header : Header} (opens : Header.decode stream = .ok header) :
    Surely stream prompt h (Polled stream prompt h s p₀)
      ⟨e, .waiting (.peekingMessage h header.messageLength), p, calls⟩ := by
  have room : 0 < header.messageLength := extent_of_header opens ▸ extent_pos stream
  have nonempty : stream ≠ [] := by
    rintro rfl
    cases opens
  refine .call (fun p' _ _ => answered_peek room p') ?_
  rintro e' p' answer p'' elsewhere arrives ⟨shows, all, rfl⟩
  replace began := began.trans arrives
  replace driven := driven.grows elsewhere arrives
  have calm' : .setAbortiveClose ∉ calls ++ [.peek header.messageLength] := by simpa using calm
  have nothing (due : prompt → p''.held.length < header.messageLength) :
      Surely stream prompt h (Polled stream prompt h s p₀)
        (.of (e'.settle h (.ok none)) p'' (calls ++ [.peek header.messageLength])) := by
    refine (surely_nothing free driven began calm' fun holds => ⟨?_, ?_⟩).mono
      fun _ => .inl
    · rw [extent_of_header opens]
      exact Nat.lt_of_le_of_lt began.held.length_le (due holds)
    · exact fun empty => absurd empty nonempty
  show Surely stream prompt h _ (.of (e'.messagePeeked h header.messageLength answer) _ _)
  cases answer with
  | error error =>
    rw [messagePeeked, if_pos (show error.kind = .wouldBlock from shows)]
    refine nothing fun holds => ?_
    rw [(all holds).1]
    exact room
  | ok bytes =>
    obtain ⟨there, -, -⟩ := shows
    rw [messagePeeked]
    split
    · rename_i short
      refine nothing fun holds => ?_
      obtain rfl : bytes = p''.held.take header.messageLength := all holds
      rw [List.length_take] at short
      omega
    · rename_i long
      exact surely_takingMessage driven (began.taken.trans unread) opens
        (Nat.le_trans (Nat.le_of_not_lt long) there.length_le)

theorem surely_peekingHeader (free : s.claimed = false) (driven : Driven stream h s e p)
    (began : p₀.Arrives stream p) (unread : p₀.taken = []) (calm : .setAbortiveClose ∉ calls) :
    Surely stream prompt h (Polled stream prompt h s p₀) ⟨e, .waiting (.peekingHeader h), p, calls⟩ := by
  refine .call (fun p' _ _ => answered_peek (by decide) p') ?_
  rintro e' p' answer p'' elsewhere arrives ⟨shows, all, rfl⟩
  replace began := began.trans arrives
  replace driven := driven.grows elsewhere arrives
  have unread' := began.taken.trans unread
  have calm' : .setAbortiveClose ∉ calls ++ [.peek headerLength] := by simpa using calm
  have nothing (due : prompt → p''.held.length < headerLength ∧ (stream = [] → p''.ended = false)) :
      Surely stream prompt h (Polled stream prompt h s p₀)
        (.of (e'.settle h (.ok none)) p'' (calls ++ [.peek headerLength])) := by
    refine (surely_nothing free driven began calm' fun holds => ⟨?_, fun empty => ?_⟩).mono
      fun _ => .inl
    · exact Nat.lt_of_lt_of_le (Nat.lt_of_le_of_lt began.held.length_le (due holds).1)
        (headerLength_le_extent stream)
    · refine Bool.eq_false_iff.2 fun shut => ?_
      exact Bool.eq_false_iff.1 ((due holds).2 empty) (began.ended shut)
  have opens := arrives.brings.held_isPrefix unread'
  show Surely stream prompt h _ (.of (e'.headerPeeked h answer) _ _)
  cases answer with
  | error error =>
    rw [headerPeeked, if_pos (show error.kind = .wouldBlock from shows)]
    refine nothing fun holds => ?_
    obtain ⟨none, going⟩ := all holds
    exact ⟨by rw [none]; decide, fun _ => going⟩
  | ok bytes =>
    obtain ⟨there, -, shut⟩ := shows
    rw [headerPeeked]
    split
    · rename_i none
      obtain ⟨empty, ended⟩ := shut (List.isEmpty_iff.1 none)
      have empty : stream = [] := by
        rw [← arrives.brings.whole ended, Pipe.sent_of_unread unread', empty]
      subst empty
      exact (surely_fail driven (verdict_of_short (extent_pos [])) (fun _ => nofun)).mono
        fun x told => .inr ⟨told, .inl rfl⟩
    · rename_i some
      have seen : stream ≠ [] := by
        rintro rfl
        rw [List.prefix_nil.1 (there.trans opens)] at some
        exact some rfl
      split
      · rename_i short
        refine nothing fun holds => ⟨?_, fun empty => absurd empty seen⟩
        obtain rfl : bytes = p''.held.take headerLength := all holds
        rw [List.length_take] at short
        omega
      · rename_i long
        replace long := Nat.le_of_not_lt long
        have read := Header.decode_of_isPrefix (there.trans opens) long
        cases header : Header.decode bytes with
        | ok decoded =>
          exact surely_peekingMessage free driven began unread calm' (read.trans header)
        | error error =>
          have enough := Nat.le_trans long (there.trans opens).length_le
          refine (surely_fail driven (verdict_of_header_error enough (read.trans header)) ?_).mono
            fun x told => .inr ⟨told, .inr ?_⟩
          · rw [read, header]
            rintro header' ⟨⟩
          · rw [extent, read, header]
            exact enough

/-! ## A blocking look -/

/-- What a look takes behind the header completes what it has taken. -/
theorem surely_takingRest (driven : Driven stream h s e p) {header : Header}
    (opens : Header.decode stream = .ok header) (took : p.taken = stream.take headerLength)
    (long : headerLength ≤ stream.length) (ends : extent stream ≤ stream.length ∨ p.ended = true) :
    Surely stream prompt h (Told stream h s)
      ⟨e, .waiting (.takingRest h p.taken header.messageLength), p, calls⟩ := by
  have more := header.headerLength_le_messageLength
  have front (p' : Pipe) (arrives : p.Arrives stream p') : p'.taken.length = headerLength := by
    rw [arrives.taken, took, List.length_take_of_le long]
  rw [extent_of_header opens] at ends
  refine .call ?_ ?_
  · intro p' arrives all
    have length : stream.length = headerLength + p'.held.length := by
      rw [← all rfl, Pipe.sent, List.length_append, front p' arrives]
    by_cases there : header.messageLength - headerLength ≤ p'.held.length
    · exact ⟨_, _, .whole there⟩
    · refine ⟨.error (.bare .unexpectedEof), _, .short 0 ?_ (Nat.lt_of_not_le there) rfl⟩
      exact arrives.ended (ends.resolve_left (by omega))
  · intro e' p' answer p'' elsewhere arrives meets
    have driven' := driven.grows elsewhere arrives
    cases meets with
    | short lost ended short eof =>
      have length : stream.length < header.messageLength := by
        rw [← arrives.brings.whole ended, Pipe.sent, List.length_append, front p' arrives]
        omega
      have closes : verdict stream = .error .converterClosed :=
        verdict_of_short (by rwa [extent_of_header opens])
      have failing : e'.resume (.takingRest h p.taken header.messageLength) (.error _) =
          e'.fail h .converterClosed := congrArg (e'.fail h) (if_pos eof)
      rw [failing]
      refine surely_fail (driven'.advance lost) closes fun header' opens' whole => ?_
      cases opens.symm.trans opens'
      exact absurd length (Nat.not_lt_of_le whole)
    | whole there =>
      have all : (p'.advance (header.messageLength - headerLength)).taken =
          stream.take header.messageLength := by
        obtain ⟨tail, sent⟩ := arrives.brings.part
        have seen : header.messageLength ≤ p'.sent.length := by
          rw [Pipe.sent, List.length_append, front p' arrives]
          omega
        rw [← sent, List.take_append_of_le_length seen, Pipe.sent, List.take_append,
          front p' arrives, List.take_of_length_le ((front p' arrives).trans_le more), Pipe.advance]
      have whole : header.messageLength ≤ stream.length := by
        have := arrives.brings.part.length_le
        rw [Pipe.sent, List.length_append, front p' arrives] at this
        omega
      have received : e'.resume (.takingRest h p.taken header.messageLength)
          (.ok (p'.held.take (header.messageLength - headerLength))) =
          e'.received h (p'.advance (header.messageLength - headerLength)).taken := by
        rw [Pipe.advance, arrives.taken]
        rfl
      rw [received]
      exact surely_received (driven'.advance _) opens whole all

theorem surely_takingHeader (driven : Driven stream h s e p) (unread : p.taken = [])
    (ends : extent stream ≤ stream.length ∨ p.ended = true) :
    Surely stream prompt h (Told stream h s) ⟨e, .waiting (.takingHeader h), p, calls⟩ := by
  have least := headerLength_le_extent stream
  refine .call ?_ ?_
  · intro p' arrives all
    have held : p'.held = stream := by
      rw [← all rfl, Pipe.sent_of_unread (arrives.taken.trans unread)]
    by_cases there : headerLength ≤ p'.held.length
    · exact ⟨_, _, .whole there⟩
    · refine ⟨.error (.bare .unexpectedEof), _, .short 0 ?_ (Nat.lt_of_not_le there) rfl⟩
      exact arrives.ended (ends.resolve_left (by rw [held] at there; omega))
  · intro e' p' answer p'' elsewhere arrives meets
    have driven' := driven.grows elsewhere arrives
    have unread' := arrives.taken.trans unread
    have opens' := arrives.brings.held_isPrefix unread'
    cases meets with
    | short lost ended short eof =>
      have length : stream.length < headerLength := by
        rwa [← arrives.brings.whole ended, Pipe.sent_of_unread unread']
      have closes : verdict stream = .error .converterClosed :=
        verdict_of_short (Nat.lt_of_lt_of_le length least)
      have failing : e'.resume (.takingHeader h) (.error _) = e'.fail h .converterClosed :=
        congrArg (e'.fail h) (if_pos eof)
      rw [failing]
      refine surely_fail (driven'.advance lost) closes fun header _ whole => ?_
      have := header.headerLength_le_messageLength
      omega
    | whole there =>
      have long := Nat.le_trans there opens'.length_le
      have took : (p'.advance headerLength).taken = p'.held.take headerLength := by
        rw [Pipe.advance, unread', List.nil_append]
      have front : p'.held.take headerLength = stream.take headerLength := by
        obtain ⟨tail, rfl⟩ := opens'
        rw [List.take_append_of_le_length there]
      have read : Header.decode stream = Header.decode (p'.held.take headerLength) :=
        Header.decode_of_isPrefix ((List.take_prefix ..).trans opens')
          (Nat.le_of_eq (List.length_take_of_le there).symm)
      show Surely stream prompt h _ (.of (e'.headerTaken h (.ok (p'.held.take headerLength))) _ _)
      cases header : Header.decode (p'.held.take headerLength) with
      | error error =>
        simp only [headerTaken, header]
        refine surely_fail (driven'.advance _)
          (verdict_of_header_error long (read.trans header)) ?_
        rw [read, header]
        rintro header' ⟨⟩
      | ok decoded =>
        simp only [headerTaken, header]
        rw [← took]
        exact surely_takingRest (driven'.advance _) (read.trans header) (took.trans front) long
          (ends.imp_right arrives.ended)

/-! ## A look from its beginning -/

/-- What is left of the request goes out before anything is read. A socket that takes only a part of it
makes a polling look stop there. -/
theorem surely_flushing {mode : WaitMode} {pending : Bytes} {count : Nat}
    (found : e.table.lookup h = some (s.sent count).claim) (left : (s.sent count).pending = pending)
    {Q : State → Prop}
    (reads : ∀ e' p', Driven stream h s e' p' → p.Arrives stream p' →
      Surely stream prompt h Q (.of (e'.readReply h mode) p' (calls ++ [.send pending])))
    (stops : ∀ e' p', Driven stream h s e' p' → p.Arrives stream p' → mode = .polling → ¬ prompt →
      Surely stream prompt h Q (.of (e'.settle h (.ok none)) p' (calls ++ [.send pending]))) :
    Surely stream prompt h Q ⟨e, .waiting (.flushing h mode pending), p, calls⟩ := by
  subst left
  refine .call (fun p' _ _ => ⟨.ok _, p', Nat.le_refl _, fun _ => rfl, rfl⟩) ?_
  intro e' p' answer p'' elsewhere arrives meets
  have driven (n : Nat) : Driven stream h s (e'.update h (·.sent n)) p' := by
    refine ⟨⟨count + n, ?_⟩, arrives.brings⟩
    rw [lookup_update (elsewhere.trans found)]
    simp [RedirectState.sent, RedirectState.claim]
  have flushed (n : Nat) (fits : n ≤ (s.sent count).pending.length)
      (part : n = (s.sent count).pending.length ∨ mode = .polling ∧ ¬ prompt) :
      Surely stream prompt h Q (.of (e'.flushed h mode (s.sent count).pending n) p'
        (calls ++ [.send (s.sent count).pending])) := by
    have eq := flushed_eq (elsewhere.trans found) fits mode
    rw [show (s.sent count).claim.pending = (s.sent count).pending from rfl] at eq
    rw [eq]
    split
    · exact reads _ _ (driven n) arrives
    · rename_i partly
      obtain ⟨rfl, held⟩ := part.resolve_left partly
      exact stops _ _ (driven n) arrives rfl held
  show Surely stream prompt h Q (.of (e'.flushAnswered h mode _ answer) _ _)
  cases answer with
  | ok n =>
    obtain ⟨fits, all, rfl⟩ := meets
    rw [flushAnswered, Nat.min_eq_left fits]
    refine flushed n fits ?_
    by_cases must : mode = .blocking ∨ prompt
    · exact .inl (all must)
    · obtain ⟨polls, held⟩ := not_or.1 must
      cases mode with
      | polling => exact .inr ⟨rfl, held⟩
      | blocking => exact absurd rfl polls
  | error error =>
    obtain ⟨polls, held, wouldBlock, rfl⟩ := meets
    rw [flushAnswered, if_pos wouldBlock]
    exact flushed 0 (Nat.zero_le _) (.inr ⟨polls, held⟩)

/-- A look sends what is left of the request and then turns to the answer. -/
theorem surely_look (awaits : s.phase = .awaitingRedirect) (free : s.claimed = false)
    (seeks : Seeks stream h s e p) {call : Call} (looks : call.destination? = none)
    {Q : State → Prop}
    (reads : ∀ e' p' calls, Driven stream h s e' p' → p.Arrives stream p' →
      .setAbortiveClose ∉ calls →
      Surely stream prompt h Q (.of (e'.readReply h call.mode) p' calls))
    (stops : ∀ e' p' calls, Driven stream h s e' p' → p.Arrives stream p' →
      .setAbortiveClose ∉ calls → call.mode = .polling → ¬ prompt →
      Surely stream prompt h Q (.of (e'.settle h (.ok none)) p' calls)) :
    Surely stream prompt h Q (.of (e.start h call) p) := by
  obtain ⟨⟨count, found⟩, unread, brings⟩ := seeks
  rw [start_of_idle found awaits free looks]
  have claimed := lookup_update found RedirectState.claim
  by_cases out : (s.sent count).pending = []
  · simp only [Operation.first, if_pos out]
    have driven : Driven stream h s (e.update h RedirectState.claim) p := ⟨⟨count, claimed⟩, brings⟩
    have := reads _ _ [] driven brings.arrives (by simp)
    cases mode : call.mode <;> rwa [mode] at this
  · rw [Operation.first_of_pending out]
    exact surely_flushing claimed rfl
      (fun e' p' driven arrives => reads e' p' _ driven arrives (by simp))
      (fun e' p' driven arrives => stops e' p' _ driven arrives (by simp))

/-- **A polling look finds nothing and leaves all as it was, or comes to the verdict.** -/
theorem surely_poll (awaits : s.phase = .awaitingRedirect) (free : s.claimed = false)
    (seeks : Seeks stream h s e p) {call : Call} (polls : call = .readable ∨ call = .send) :
    Surely stream prompt h (Polled stream prompt h s p) (.of (e.start h call) p) := by
  have looks : call.destination? = none ∧ call.mode = .polling := by
    rcases polls with rfl | rfl <;> exact ⟨rfl, rfl⟩
  refine surely_look awaits free seeks looks.1 ?_ ?_
  · intro e' p' calls driven arrives calm
    rw [looks.2]
    exact surely_peekingHeader free driven arrives seeks.unread calm
  · intro e' p' calls driven arrives calm _ held
    exact (surely_nothing free driven arrives calm
      fun holds => absurd holds held).mono fun _ => .inl

/-- **A blocking look comes to the verdict**, once the whole answer can come or the stream has ended. -/
theorem surely_await (awaits : s.phase = .awaitingRedirect) (free : s.claimed = false)
    (seeks : Seeks stream h s e p) (ends : extent stream ≤ stream.length ∨ p.ended = true) :
    Surely stream prompt h (Told stream h s) (.of (e.start h .await) p) := by
  refine surely_look awaits free seeks rfl ?_ ?_
  · intro e' p' calls driven arrives _
    exact surely_takingHeader driven (arrives.taken.trans seeks.unread) (ends.imp_right arrives.ended)
  · intro _ _ _ _ _ _ polls
    cases polls

/-! ## Polling and waiting -/

theorem Seeks.grows (seeks : Seeks stream h s e p)
    (elsewhere : e'.table.lookup h = e.table.lookup h) (arrives : p.Arrives stream p') :
    Seeks stream h s e' p' where
  entry := by
    rw [elsewhere]
    exact seeks.entry
  unread := arrives.taken.trans seeks.unread
  brings := arrives.brings

/-- Polls that find nothing leave all as it was. -/
theorem Polls.seeks (awaits : s.phase = .awaitingRedirect) (free : s.claimed = false)
    (polls : Polls stream h e p e' p') (seeks : Seeks stream h s e p) :
    Seeks stream h s e' p' ∧ p.Arrives stream p' := by
  induction polls with
  | start => exact ⟨seeks, seeks.brings.arrives⟩
  | again _ elsewhere arrives looks ends pending ih =>
    obtain ⟨seeks', began⟩ := ih
    rcases (surely_poll awaits free (seeks'.grows elsewhere arrives) looks).of_ends ends with
      waits | ⟨told, -⟩
    · replace began := began.trans (arrives.trans waits.arrives)
      exact ⟨⟨waits.entry, began.taken.trans seeks.unread, began.brings⟩, began⟩
    · rw [told.result] at pending
      injection pending with pending
      injection pending with pending
      unfold verdict at pending
      split at pending
      · cases pending
      · split at pending
        · cases pending
        · split at pending <;> cases pending

/-- **Polling and waiting come to the same.** Let a connection bring an answer, whatever it says, with
anything behind it, and in any pieces. After any number of polls that found nothing, nothing has been taken
and the entry is what it was but for what went out of the request. The next poll finds nothing again or
comes to the verdict, and to the verdict if the whole answer is at hand and nothing is held back. A caller
that waits comes to the same verdict. -/
theorem readers_agree (awaits : s.phase = .awaitingRedirect) (free : s.claimed = false)
    (whole : extent stream ≤ stream.length) (seeks : Seeks stream h s e p) :
    (∀ e₁ p₁ e₂ p₂, Polls stream h e p e₁ p₁ → e₂.table.lookup h = e₁.table.lookup h →
      p₁.Arrives stream p₂ → Seeks stream h s e₂ p₂ ∧
      ∀ call prompt, call = .readable ∨ call = .send →
        Surely stream prompt h (fun x => Waits stream prompt h s p₂ x ∨ Told stream h s x)
          (.of (e₂.start h call) p₂) ∧
        (prompt → extent stream ≤ p₂.held.length →
          Surely stream prompt h (Told stream h s) (.of (e₂.start h call) p₂))) ∧
    ∀ prompt, Surely stream prompt h (Told stream h s) (.of (e.start h .await) p) := by
  refine ⟨?_, fun prompt => surely_await awaits free seeks (.inl whole)⟩
  intro e₁ p₁ e₂ p₂ polls elsewhere arrives
  have seeks₂ := (polls.seeks awaits free seeks).1.grows elsewhere arrives
  refine ⟨seeks₂, fun call prompt looks => ⟨?_, fun holds there => ?_⟩⟩
  · exact (surely_poll awaits free seeks₂ looks).mono fun x polled => polled.imp_right And.left
  · refine (surely_poll awaits free seeks₂ looks).mono fun x polled => ?_
    rcases polled with waits | ⟨told, -⟩
    · exact absurd there (Nat.not_le_of_lt (waits.due holds).1)
    · exact told

/-- A refusal, with a byte behind it. -/
theorem readers_agree_on_refusal :
    let h : Handle := ⟨5⟩
    let stream : Bytes := [1, 4, 0, 4, 30, 0, 1, 64, 7]
    let s : RedirectState :=
      { phase := .awaitingRedirect, destination := some (.v4 ⟨203, 0, 113, 5⟩ 443), cookie := none }
    let e : Engine :=
      { config := { converter := .v4 ⟨192, 0, 2, 1⟩ 1234 }, table := ⟨[{ state := s, owner := h }]⟩ }
    verdict stream = .error (.rejected .resourceExceeded) ∧ extent stream ≤ stream.length ∧
    Seeks stream h s e {} ∧
    (∀ prompt, Surely stream prompt h (Told stream h s) (.of (e.start h .await) {})) ∧
    Surely stream True h (Told stream h s) (.of (e.start h .send) { held := stream }) := by
  intro h stream s e
  have rejected : verdict stream = .error (.rejected .resourceExceeded) := by
    have reports : (Message.failure .resourceExceeded).Reports := .inr ⟨_, rfl, rfl⟩
    have read : Message.decode stream = .ok ((Message.failure .resourceExceeded).normal, 8) :=
      Message.decode_append (Message.decode_wire reports.valid) [7]
    rw [verdict, if_neg (by decide), read]
    rfl
  have whole : extent stream ≤ stream.length := by decide
  have seeks : Seeks stream h s e {} := ⟨⟨0, rfl⟩, rfl, List.nil_prefix, nofun⟩
  have arrives : Pipe.Arrives stream {} { held := stream } :=
    ⟨rfl, List.nil_prefix, nofun, List.prefix_rfl, nofun⟩
  have agree := readers_agree rfl rfl whole seeks
  exact ⟨rejected, whole, seeks, agree.2,
    ((agree.1 e {} e _ .start rfl arrives).2 .send True (.inr rfl)).2 trivial whole⟩

end Reading

end TransportConverter
