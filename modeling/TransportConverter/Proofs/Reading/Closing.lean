import TransportConverter.Proofs.Reading.Verdict
/-!
# A converter that closes too early

A connection may end before a whole answer has come. A caller that waits is told so, and the redirect
fails. A poll tells an answer that has not come yet from one that never will only if nothing at all has
come (`closed_early`): once a part of an answer is at hand, every poll finds nothing and leaves the redirect
as it is, however often it is repeated.
-/
namespace TransportConverter

open Engine

namespace Reading

/-- The redirect has failed because the connection is closed, and its socket with it. -/
structure ClosedOn (h : Handle) (s : RedirectState) (x : State) : Prop where
  result : x.progress = .done (.read (.error .converterClosed))
  failed : x.engine.table.lookup h = some s.fail
  reset : .setAbortiveClose ∈ x.calls

/-- The redirect goes on as if more of the answer could come. -/
structure GoesOn (h : Handle) (s : RedirectState) (x : State) : Prop where
  result : x.progress = .done (.read (.ok .pending))
  same : x.engine.table.lookup h = some s
  unread : x.pipe.taken = []
  calm : .setAbortiveClose ∉ x.calls

variable {opens message : Bytes} {m : Message} {h : Handle} {s : RedirectState} {e : Engine}
  {x : State}

theorem sent_of_out (out : s.pending = []) (count : Nat) : s.sent count = s := by
  rw [RedirectState.sent, out, List.drop_nil, ← out]

/-- A part of a message says that there is more to it, or not even that. -/
theorem short_of_isPrefix (read : Message.decode message = .ok (m, message.length))
    (part : opens <+: message) (strict : opens ≠ message) : opens.length < extent opens := by
  have less : opens.length < message.length :=
    part.length_le.lt_of_ne fun length => strict (part.eq_of_length length)
  by_cases long : headerLength ≤ opens.length
  · obtain ⟨header, declares, length, -⟩ := Message.messageLength_of_decode read
    rw [Header.decode_of_isPrefix part long] at declares
    rwa [extent_of_header declares, length]
  · exact Nat.lt_of_lt_of_le (Nat.lt_of_not_le long) (headerLength_le_extent opens)

theorem Told.closedOn (told : Told opens h s x) (short : opens.length < extent opens) :
    ClosedOn h s x where
  result := by rw [told.result, verdict_of_short short]
  failed := by rw [told.entry, remains_of_error (verdict_of_short short)]
  reset := told.reset _ (verdict_of_short short)

/-- **An answer that is cut off.** A caller that waits is told that the connection is closed, and the redirect
fails. So it does on a prompt poll if nothing has come of the answer. If a part of it has come, every poll
finds nothing and changes nothing. -/
theorem closed_early (awaits : s.phase = .awaitingRedirect) (free : s.claimed = false)
    (out : s.pending = []) (found : e.table.lookup h = some s)
    (read : Message.decode message = .ok (m, message.length)) (part : opens <+: message)
    (strict : opens ≠ message) :
    let cut : Pipe := { held := opens, ended := true }
    (∀ prompt, Surely opens prompt h (ClosedOn h s) (.of (e.start h .await) cut)) ∧
    ∀ (e₁ e₂ : Engine) (p : Pipe) (call : Call), Polls opens h e cut e₁ p →
      e₂.table.lookup h = e₁.table.lookup h → call = .readable ∨ call = .send →
      (opens = [] → Surely opens True h (ClosedOn h s) (.of (e₂.start h call) p)) ∧
      (opens ≠ [] → ∀ prompt, Surely opens prompt h (GoesOn h s) (.of (e₂.start h call) p)) := by
  intro cut
  have short := short_of_isPrefix read part strict
  have seeks : Seeks opens h s e cut := by
    refine ⟨⟨0, ?_⟩, rfl, List.prefix_rfl, fun _ => rfl⟩
    rw [found, sent_of_out out]
  refine ⟨fun prompt => ?_, ?_⟩
  · exact (surely_await awaits free seeks (.inr rfl)).mono fun x told => told.closedOn short
  intro e₁ e₂ p call polls elsewhere looks
  obtain ⟨seeks₁, arrives⟩ := polls.seeks awaits free seeks
  have seeks₂ := seeks₁.grows elsewhere seeks₁.brings.arrives
  constructor
  · intro none
    refine (surely_poll awaits free seeks₂ looks).mono fun x polled => ?_
    rcases polled with waits | ⟨told, -⟩
    · have going := (waits.due trivial).2 none
      rw [arrives.ended rfl] at going
      cases going
    · exact told.closedOn short
  · intro some prompt
    refine (surely_poll awaits free seeks₂ looks).mono fun x polled => ?_
    rcases polled with waits | ⟨-, none | whole⟩
    · obtain ⟨count, same⟩ := waits.entry
      rw [sent_of_out out] at same
      exact ⟨waits.result, same, waits.arrives.taken.trans seeks₂.unread, waits.calm⟩
    · exact absurd none some
    · exact absurd short (Nat.not_lt_of_le whole)

/-- Success, cut off behind its third byte. -/
theorem closed_early_in_header :
    let h : Handle := ⟨5⟩
    let opens : Bytes := [1, 0, 0]
    let s : RedirectState :=
      { phase := .awaitingRedirect, destination := some (.v4 ⟨203, 0, 113, 5⟩ 443), cookie := none }
    let e : Engine :=
      { config := { converter := .v4 ⟨192, 0, 2, 1⟩ 1234 }, table := ⟨[{ state := s, owner := h }]⟩ }
    let cut : Pipe := { held := opens, ended := true }
    Message.decode (opens ++ [0]) = .ok (.empty, 4) ∧
    Surely opens True h (ClosedOn h s) (.of (e.start h .await) cut) ∧
    Surely opens True h (GoesOn h s) (.of (e.start h .readable) cut) := by
  intro h opens s e cut
  have read : Message.decode (opens ++ [0]) = .ok (.empty, 4) :=
    Message.decode_wire (Message.Reports.valid (.inl rfl))
  obtain ⟨waits, polls⟩ := @closed_early opens (opens ++ [0]) .empty h s e rfl rfl rfl rfl read
    (List.prefix_append ..) (by decide)
  exact ⟨read, waits True, (polls e e cut .readable .start rfl (.inl rfl)).2 (by decide) True⟩

/-- A poll does not tell that a connection was closed in the middle of an answer. -/
theorem not_polls_tell_closed :
    ¬ ∀ (message opens : Bytes) (m : Message) (h : Handle) (s : RedirectState) (e : Engine),
      Message.decode message = .ok (m, message.length) → opens <+: message → opens ≠ message →
      e.table.lookup h = some s → s.phase = .awaitingRedirect → s.claimed = false →
      s.pending = [] → Surely opens True h (ClosedOn h s)
        (.of (e.start h .readable) { held := opens, ended := true }) := by
  intro tell
  have read : Message.decode [1, 0, 0, 0] = .ok (.empty, 4) :=
    Message.decode_wire (Message.Reports.valid (.inl rfl))
  let s : RedirectState :=
    { phase := .awaitingRedirect, destination := some (.v4 ⟨203, 0, 113, 5⟩ 443), cookie := none }
  let e : Engine :=
    { config := { converter := .v4 ⟨192, 0, 2, 1⟩ 1234 }, table := ⟨[{ state := s, owner := ⟨5⟩ }]⟩ }
  have closes := tell [1, 0, 0, 0] [1, 0, 0] .empty ⟨5⟩ s e read (by decide) (by decide) rfl rfl rfl
    rfl
  have seeks : Seeks [1, 0, 0] ⟨5⟩ s e { held := [1, 0, 0], ended := true } :=
    ⟨⟨0, rfl⟩, rfl, List.prefix_rfl, fun _ => rfl⟩
  obtain ⟨x, ends⟩ := closes.exists_ends seeks.brings
  have closed := (closes.of_ends ends).result
  rcases (surely_poll rfl rfl seeks (.inl rfl)).of_ends ends with waits | ⟨-, none | whole⟩
  · rw [waits.result] at closed
    cases closed
  · cases none
  · exact absurd whole (by decide)

end Reading

end TransportConverter
