import TransportConverter.Proofs.Client.Run
/-!
# An operation sees its own handle alone

Of the whole table an operation reads the entry of its handle and nothing else. Two engines that are
configured alike and have the same under a handle (`Engine.Alike`) therefore answer every call on it alike,
go on alike with every answer of a socket, and have the same under it afterwards (`Engine.Agree`).
-/
namespace TransportConverter

namespace Engine

/-- The two engines look alike from `h`. -/
structure Alike (h : Handle) (e e' : Engine) : Prop where
  config : e'.config = e.config
  lookup : e'.table.lookup h = e.table.lookup h

/-- An operation on `h` does the same with both engines. -/
structure Agree (h : Handle) (result result' : Engine × Progress) : Prop where
  progress : result'.2 = result.2
  alike : Alike h result.1 result'.1

variable {e e' : Engine} {h : Handle}

namespace Alike

theorem refl (h : Handle) (e : Engine) : Alike h e e := ⟨rfl, rfl⟩

theorem update (alike : Alike h e e') (f : RedirectState → RedirectState) :
    Alike h (e.update h f) (e'.update h f) := by
  refine ⟨alike.config, ?_⟩
  simp only [Engine.update, Registry.lookup_update_self, alike.lookup]

theorem remove (alike : Alike h e e') : Alike h (e.remove h) (e'.remove h) := by
  refine ⟨alike.config, ?_⟩
  simp only [Engine.remove, Registry.lookup_remove_self]

/-! ## Ending a look for the answer -/

theorem done (alike : Alike h e e') (result : OperationResult) :
    Agree h (e, .done result) (e', .done result) := ⟨rfl, alike⟩

theorem waiting (alike : Alike h e e') (op : Operation) :
    Agree h (e, .waiting op) (e', .waiting op) := ⟨rfl, alike⟩

theorem fail (alike : Alike h e e') (error : RedirectError) :
    Agree h (e.fail h error) (e'.fail h error) := (alike.update _).waiting _

theorem settle (alike : Alike h e e') (outcome : Except RedirectError (Option Message)) :
    Agree h (e.settle h outcome) (e'.settle h outcome) := by
  unfold Engine.settle
  split
  · exact (alike.update _).done _
  · split
    · exact alike.fail _
    · exact (alike.update _).remove.done _
  · exact alike.fail _

theorem readReply (alike : Alike h e e') (mode : WaitMode) :
    Agree h (e.readReply h mode) (e'.readReply h mode) := by
  cases mode with
  | polling => exact alike.waiting _
  | blocking => exact alike.waiting _

/-! ## Calls -/

theorem flush (alike : Alike h e e') (mode : WaitMode) :
    Agree h (e.flush h mode) (e'.flush h mode) := by
  unfold Engine.flush
  rw [alike.lookup]
  split
  · split
    · exact alike.readReply mode
    · exact alike.waiting _
  · exact alike.readReply mode

theorem drive (alike : Alike h e e') (mode : WaitMode) :
    Agree h (e.drive h mode) (e'.drive h mode) := by
  unfold Engine.drive
  rw [alike.lookup]
  split
  · exact alike.done _
  · split
    · split
      · exact alike.done _
      · exact (alike.update _).flush mode
    · exact alike.done _
    · exact alike.done _
    · exact alike.done _

theorem tryConnect (alike : Alike h e e') (destination : SocketAddress) :
    Agree h (e.tryConnect h destination) (e'.tryConnect h destination) := by
  unfold Engine.tryConnect
  rw [alike.lookup]
  split
  · exact alike.done _
  · split
    · exact alike.done _
    · split
      · exact (alike.update _).waiting _
      · exact alike.remove.done _

/-- **Every call is answered alike.** -/
theorem start (alike : Alike h e e') (call : Call) : Agree h (e.start h call) (e'.start h call) := by
  cases call with
  | connect destination => exact alike.tryConnect destination
  | readable => exact alike.drive .polling
  | send => exact alike.drive .polling
  | await => exact alike.drive .blocking

/-! ## Answers -/

theorem requestAnswered (alike : Alike h e e') (request : Bytes) (answer : Except IoError Nat) :
    Agree h (e.requestAnswered h request answer) (e'.requestAnswered h request answer) := by
  cases answer with
  | ok count => exact (alike.update _).done _
  | error error =>
    simp only [Engine.requestAnswered]
    split
    · exact (alike.update _).done _
    · exact alike.remove.done _

theorem flushed (alike : Alike h e e') (mode : WaitMode) (pending : Bytes) (sent : Nat) :
    Agree h (e.flushed h mode pending sent) (e'.flushed h mode pending sent) := by
  have advanced : Alike h (if sent = 0 then e else e.update h (·.sent sent))
      (if sent = 0 then e' else e'.update h (·.sent sent)) := by
    split
    · exact alike
    · exact alike.update _
  simp only [Engine.flushed, alike.lookup]
  split
  · exact ⟨rfl, alike⟩
  · split
    · exact advanced.readReply mode
    · split
      · exact advanced.settle _
      · exact advanced.settle _

theorem flushAnswered (alike : Alike h e e') (mode : WaitMode) (pending : Bytes)
    (answer : Except IoError Nat) :
    Agree h (e.flushAnswered h mode pending answer) (e'.flushAnswered h mode pending answer) := by
  cases answer with
  | ok count => exact alike.flushed mode pending _
  | error error =>
    simp only [Engine.flushAnswered]
    split
    · exact alike.flushed mode pending 0
    · exact alike.settle _

theorem headerPeeked (alike : Alike h e e') (answer : Except IoError Bytes) :
    Agree h (e.headerPeeked h answer) (e'.headerPeeked h answer) := by
  unfold Engine.headerPeeked
  split
  · split
    · exact alike.settle _
    · split
      · exact alike.settle _
      · split
        · exact alike.waiting _
        · exact alike.settle _
  · split
    · exact alike.settle _
    · exact alike.settle _

theorem messagePeeked (alike : Alike h e e') (length : Nat) (answer : Except IoError Bytes) :
    Agree h (e.messagePeeked h length answer) (e'.messagePeeked h length answer) := by
  unfold Engine.messagePeeked
  split
  · split
    · exact alike.settle _
    · exact alike.waiting _
  · split
    · exact alike.settle _
    · exact alike.settle _

theorem received (alike : Alike h e e') (message : Bytes) :
    Agree h (e.received h message) (e'.received h message) := by
  unfold Engine.received
  split
  · exact alike.settle _
  · exact alike.settle _

theorem headerTaken (alike : Alike h e e') (answer : Except IoError Bytes) :
    Agree h (e.headerTaken h answer) (e'.headerTaken h answer) := by
  unfold Engine.headerTaken
  split
  · split
    · exact alike.waiting _
    · exact alike.settle _
  · exact alike.settle _

/-- **Every answer of a socket is taken alike.** -/
theorem resume {op : Operation} (alike : Alike op.handle e e') (answer : op.Answer) :
    Agree op.handle (e.resume op answer) (e'.resume op answer) := by
  cases op with
  | sendingRequest h request => exact alike.requestAnswered request answer
  | flushing h mode pending => exact alike.flushAnswered mode pending answer
  | peekingHeader h => exact alike.headerPeeked answer
  | peekingMessage h length => exact alike.messagePeeked length answer
  | takingMessage h length =>
    cases answer with
    | ok message => exact alike.received message
    | error error => exact alike.settle (.error (.io error))
  | takingHeader h => exact alike.headerTaken answer
  | takingRest h header length =>
    cases answer with
    | ok rest => exact alike.received (header ++ rest)
    | error error => exact alike.settle (.error (closedOnEof error))
  | armingReset h error => exact alike.done _

end Alike

end Engine

end TransportConverter
