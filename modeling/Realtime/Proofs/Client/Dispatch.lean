import Realtime.Proofs.Client.Registry

/-!
# Who is called

A program that knows what it has asked for, and how that ended, knows whom its client calls. Of the
tables of the client it need not know anything, nor whether subscriptions and callbacks are kept
together or in tables of their own. It only has to be sparing with subscriptions: identifiers are
words of 64 bits, and once all have been issued, they are issued again.

Results:
1. `dispatch_follows_history`: who is called follows from the history.
-/

namespace Realtime.Client

open Session

variable {σ ι : Type} {w : Surroundings σ ι} {c : Client σ ι} {log : Log ι}

/-- Whatever a program asks of a client, and whatever its server and its transport do: as long as
no callback asks for anything and there are identifiers left, the history of the program says who
is called.

No identifier was issued twice, be it for events or for presence. The names that the client lists
are in ascending order of their bytes, and a name is listed if and only if a subscription to it
lives. If identifiers are kept in one table and callbacks in another, the first lists the same
names, and for everything the same identifiers in the same order, and together they call those
whose subscriptions live. An event that the client accepts to emit, in whatever phase, and one that
it is told of by its server are told to the subscriptions to its name that live, once each, in the
order in which they were made, and with the data as they are. Someone who comes or leaves is
announced likewise to those who follow presence. And whatever is asked of the client next, nothing
else makes it tell of events and of people. -/
theorem dispatch_follows_history (hpatience : 0 < w.patience) (h : Logged w log c)
    (hidle : ∀ turn ∈ log, turn.1.IsIdle) (hfew : (tickets log).length < UInt64.size) :
    ((tickets log).map (·.id)).Nodup ∧
    (c.events.subscriptions.names.map Utf8.encode).Pairwise (· < ·) ∧
    (∀ name, name ∈ c.events.subscriptions.names ↔ ∃ t ∈ live log, t.interest = .event name) ∧
    ((∀ name, ((registry log).ids (.event name)).isSome ↔ name ∈ c.events.subscriptions.names) ∧
      ∀ interest,
        ((registry log).ids interest).getD [] = (c.enrolled interest).map (·.id) ∧
        (registry log).called interest = interested log interest) ∧
    (∀ (command : Command ι) (name text : String) (data : Bytes),
      command.event? = some (emitMessage name data) → name ≠ "" → Utf8.decode data = .ok text →
      ∃ d, execute w (.command command) c = .ok .nothing d ∧
        Answered (.emitted (emitMessage name data))
          ((interested log (.event name)).map (.event · data)) c d) ∧
    (c.phase = .connected →
      (∀ (name : String) (data : Bytes) (others : List Bytes),
        Brings w (.plain .event .event (Utf8.encode name :: data :: others))
          ((interested log (.event name)).map (.event · data)) c) ∧
      (∀ (user : Bytes) (others : List Bytes),
        Brings w (.plain .presence .presenceJoin (user :: others))
          ((interested log .presence).map (.presence · (Utf8.lossy user) true)) c) ∧
      ∀ (user : Bytes) (others : List Bytes),
        Brings w (.plain .presence .presenceLeave (user :: others))
          ((interested log .presence).map (.presence · (Utf8.lossy user) false)) c) ∧
    ∀ request : Request ι, ∃ whats,
      ((execute w request).after c).history = c.history ++ whats ∧
        news whats = whats.flatMap (·.calls (interested log)) := by
  have henrolled := h.enrolled hpatience hidle hfew
  rw [← henrolled.tags]
  refine ⟨henrolled.nodup hfew, c.events.subscriptions.names_ascending_bytes,
    henrolled.mem_names_iff, registry_agrees hpatience h hidle hfew,
    fun command name text data hm hname hdata => ?_, fun hin => ⟨fun name data others => ?_,
      fun user others => ?_, fun user others => ?_⟩, execute_told hpatience henrolled.idle⟩
  · obtain ⟨other, copy, hsame, hperform⟩ := perform_of_event w.transport (runner w) hm
    obtain ⟨rfl, rfl⟩ := emitMessage_injective hsame
    obtain ⟨d, hrun, hanswered⟩ := emit_answered hpatience henrolled.idle hname hdata
    exact ⟨d, (congrFun hperform c).trans (bind_of_ok hrun), hanswered⟩
  · have hcalls (tags : Interest → List String) :
        (Message.plain .event .event (Utf8.encode name :: data :: others)).calls tags =
          (tags (.event name)).map (.event · data) := by
      show (tags (.event (Utf8.lossy (Utf8.encode name)))).map _ = _
      rw [Utf8.lossy_encode]
    exact hcalls c.tags ▸ handle_news hpatience henrolled.idle hin rfl
  · exact handle_news hpatience henrolled.idle hin rfl
  · exact handle_news hpatience henrolled.idle hin rfl

/-- The guest subscribes to two events and follows presence. It ends its first subscription, and
fails to end another because the identifier belongs elsewhere. Then it connects, logs in, and
subscribes once more. -/
def coming : List (Request Script.Stimulus) :=
  [ .command (.subscribe "news" "first" fun _ _ => []),
    .command (.followPresence "watcher" fun _ _ _ => [.stimulate (.deliver [])]),
    .command (.subscribe "news" "second" fun _ _ => []),
    .command (.subscribe "weather" "third" fun _ _ => []),
    .command (.unsubscribeId "news" 0),
    .command (.unsubscribeId "news" 3),
    .connect, .login "auth",
    .command (.subscribe "news" "fourth" fun _ _ => []) ]

theorem idle_coming : ∀ request ∈ coming, request.IsIdle := by
  simp [coming, Request.isIdle_iff, Command.isIdle_iff, Command.isStimulus]

/-- Both tables know of those whom the client calls. -/
theorem dispatch_follows_history_coming :
    let c := guestAfter coming
    let log := coming.zip ((run hospitable guest coming).map Turn.result)
    Logged hospitable log c ∧ c.phase = .connected ∧
      (tickets log).map (·.id) = [0, 1, 2, 3, 4] ∧
      c.events.subscriptions.names = ["news", "weather"] ∧
      (registry log).called (.event "news") = ["second", "fourth"] ∧
      (∃ d, execute hospitable (.command (.emit "weather" (Utf8.encode "1"))) c = .ok .nothing d ∧
        Answered (.emitted (emitMessage "weather" (Utf8.encode "1")))
          [.event "third" (Utf8.encode "1")] c d) ∧
      Brings hospitable (.plain .event .event [Utf8.encode "news", [0xFF]])
        [.event "second" [0xFF], .event "fourth" [0xFF]] c ∧
      Brings hospitable (.plain .presence .presenceLeave [Utf8.encode "bob"])
        [.presence "watcher" "bob" false] c := by
  intro c log
  have hreturn : allReturn hospitable guest coming := by decide +kernel
  have hlog : Logged hospitable log c := (Logged.created create_guest).of_allReturn hreturn
  have hidle : ∀ turn ∈ log, turn.1.IsIdle := fun _ hturn =>
    idle_coming _ (List.of_mem_zip hturn).1
  have hin : c.phase = .connected := by decide +kernel
  have hnews : interested log (.event "news") = ["second", "fourth"] := by decide +kernel
  have hweather : interested log (.event "weather") = ["third"] := by decide +kernel
  have hpresence : interested log .presence = ["watcher"] := by decide +kernel
  have hfew : (tickets log).length < UInt64.size := by decide +kernel
  obtain ⟨-, -, -, ⟨-, htables⟩, hemit, hconnected, -⟩ :=
    dispatch_follows_history (by decide) hlog hidle hfew
  obtain ⟨hevent, -, hleave⟩ := hconnected hin
  have hemitted := hemit (.emit "weather" (Utf8.encode "1")) "weather" "1" _ rfl (by decide)
    (Utf8.decode_encode "1")
  have htold := hevent "news" [0xFF] []
  have hleft := hleave (Utf8.encode "bob") []
  rw [hweather] at hemitted
  rw [hnews] at htold
  rw [hpresence, Utf8.lossy_encode] at hleft
  exact ⟨hlog, hin, by decide +kernel, by decide +kernel, (htables _).2.trans hnews, hemitted,
    htold, hleft⟩

end Realtime.Client
