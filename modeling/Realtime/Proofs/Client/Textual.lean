import Realtime.Proofs.Client.Buffers
import Realtime.Proofs.Readable
import Realtime.Transport.WebSocket

/-!
# Everything that is sent is text

A web socket sends text frames, and refuses a buffer that is none. A client never hands it
such a buffer. Names, patterns, addresses and credentials are text to begin with; what the
server has sent is repeated only after it was read as text, as well as that was possible; and
event data that are no text are not accepted. So every message that waits to be sent has text
for its arguments, and every message that was ever handed over had.

Results:
1. `Textual.encode`: a message with text for its arguments is text.
2. `Wholesome.move`: what waits to be sent and what was sent stays text with every move.
3. `sends_text`: no buffer that is handed over is refused.
-/

namespace Realtime

variable {σ ι : Type}

/-! ## Text -/

theorem isText_unitSeparator : IsText [Wire.unitSeparator] :=
  ⟨"\x1F", by decide +kernel⟩

theorem isText_recordSeparator : IsText [Wire.recordSeparator] :=
  ⟨"\x1E", by decide +kernel⟩

/-- Texts with unit separators between them are a text. -/
theorem isText_join {pieces : List Bytes} (h : ∀ piece ∈ pieces, IsText piece) :
    IsText (Pieces.join Wire.unitSeparator pieces) := by
  induction pieces with
  | nil => exact isText_encode ""
  | cons first others ih =>
    obtain ⟨hfirst, hothers⟩ := List.forall_mem_cons.mp h
    by_cases hlast : others = []
    · rw [hlast]
      exact hfirst
    · rw [Pieces.join_cons _ _ hlast]
      exact hfirst.append (isText_unitSeparator.append (ih hothers))

namespace Message

/-- The arguments of the message are text. -/
def Textual (m : Message) : Prop :=
  ∀ argument ∈ m.arguments, IsText argument

theorem textual_nil (header : Header) : Textual ⟨header, []⟩ :=
  List.forall_mem_nil _

theorem textual_singleton (header : Header) (text : String) :
    Textual ⟨header, [Utf8.encode text]⟩ :=
  List.forall_mem_singleton.mpr (isText_encode text)

theorem textual_pair (header : Header) (first : String) {second : Bytes} (h : IsText second) :
    Textual ⟨header, [Utf8.encode first, second]⟩ :=
  List.forall_mem_cons.mpr ⟨isText_encode first, List.forall_mem_singleton.mpr h⟩

/-- A message with text for its arguments is text. -/
theorem Textual.encode {m : Message} (h : m.Textual) : IsText m.encode := by
  refine (isText_join fun field hfield => ?_).append isText_recordSeparator
  obtain hheader | hargument := List.mem_append.mp hfield
  · obtain ⟨text, -, rfl⟩ := List.mem_map.mp hheader
    exact isText_encode text
  · exact h field hargument

end Message

theorem Announcement.textual {m : Message} (h : Announcement m) : m.Textual := by
  cases h with
  | subscribe | unsubscribe | listen | unlisten => exact Message.textual_singleton _ _
  | accept _ name | reject _ name => exact Message.textual_pair _ _ (isText_encode name)
  | follow | unfollow => exact Message.textual_nil _
  | query => exact Message.textual_singleton _ _

/-! ## What waits, and what was sent -/

namespace Client

variable {w : Surroundings σ ι} {c d : Client σ ι}

/-- The messages that wait to be sent are text, and so are those that the transport was handed. -/
structure Wholesome (c : Client σ ι) : Prop where
  waiting : ∀ m ∈ c.outbox ++ c.events.sendQueue, m.Textual
  said : ∀ m ∈ c.utterances, m.Textual

/-- What was written down is no message that the transport was handed. -/
theorem Wholesome.noted (h : Wholesome c) (what : Occurrence ι) (hwhat : what.uttered? = none)
    (hjournal : d.journal = (c.note what).journal)
    (hwaiting : ∀ m ∈ d.outbox ++ d.events.sendQueue, m.Textual) : Wholesome d where
  waiting := hwaiting
  said := by
    have hsame : d.utterances = c.utterances := filterMap_history_of_noted hwhat hjournal
    exact hsame ▸ h.said

theorem Wholesome.sending (h : Wholesome c) {m : Message} (hsent : Sending w.transport c m d)
    (hm : m.Textual) : Wholesome d := by
  have hsaid (outcome : Except Error Unit) :
      ∀ other ∈ (c.note (.sent m outcome)).utterances, other.Textual := by
    intro other hother
    rw [utterances_note] at hother
    obtain hold | hnew := List.mem_append.mp hother
    · exact h.said other hold
    · exact List.mem_singleton.mp hnew ▸ hm
  cases hsent with
  | taken _ _ => exact ⟨h.waiting, hsaid _⟩
  | refused _ _ => exact ⟨h.waiting, hsaid _⟩

theorem Wholesome.drawn (h : Wholesome c) {m : Message} {rest : List Message}
    (houtbox : c.outbox = m :: rest) : m.Textual ∧ Wholesome (c.drawn m rest) := by
  have hwaiting := h.waiting
  rw [houtbox, List.cons_append, List.forall_mem_cons] at hwaiting
  exact ⟨hwaiting.1, h.noted (.flushed m) rfl rfl hwaiting.2⟩

theorem Act.wholesome (hact : Act w c d) (h : Wholesome c) : Wholesome d := by
  refine ⟨fun m hm => ?_, ?_⟩
  · obtain hold | hnew | ⟨name, data, text, hdata, rfl⟩ := hact.waiting hm
    · exact h.waiting m hold
    · exact hnew.textual
    · exact Message.textual_pair _ name ⟨text, Utf8.encode_of_decode hdata⟩
  · obtain hsame | ⟨what, hwhat, hjournal⟩ := hact.journal
    · have hutterances : d.utterances = c.utterances :=
        congrArg (List.filterMap Occurrence.uttered?) (history_eq_of_journal hsame)
      exact hutterances ▸ h.said
    · have hunuttered : what.uttered? = none := by cases hwhat <;> rfl
      have hutterances : d.utterances = c.utterances :=
        filterMap_history_of_noted hunuttered hjournal
      exact hutterances ▸ h.said

theorem Reception.wholesome (hmove : Reception w c d) (h : Wholesome c) : Wholesome d := by
  cases hmove with
  | acted hact => exact hact.wholesome h
  | received _ | parsed _ | taken _ | lost _ => exact ⟨h.waiting, h.said⟩
  | @handled m _ _ => exact h.noted (.handled m) rfl rfl h.waiting
  | @admitted m _ _ =>
    refine h.noted (.handled m) rfl rfl fun other hother => ?_
    -- What is replayed is announced or was emitted, and the send queue is empty now.
    obtain hold | hreplayed := List.mem_append.mp (List.append_nil _ ▸ hother)
    · exact h.waiting other (List.mem_append_left _ hold)
    · obtain hannounced | hqueued := mem_replayMessages hreplayed
      · exact hannounced.textual
      · exact h.waiting other (List.mem_append_right _ hqueued)
  | ponged hsent => exact h.sending hsent (Message.textual_nil _)
  | closed _ | shut => exact h.noted _ rfl (closeLink_journal ..) h.waiting
  | reported e => exact h.noted (.reported e) rfl rfl h.waiting

theorem Negotiation.wholesome (hmove : Negotiation w c d) (h : Wholesome c) : Wholesome d := by
  cases hmove with
  | heard hheard => exact hheard.wholesome h
  | opened _ => exact h.noted _ rfl (use_journal ..) h.waiting
  | redirected _ _ =>
    have hclosed : Wholesome (c.closeLink w.transport) :=
      h.noted _ rfl (closeLink_journal ..) h.waiting
    exact hclosed.noted _ rfl (retarget_journal ..) h.waiting
  | responded _ _ hsent => exact h.sending hsent (Message.textual_singleton _ _)
  | applied _ hsent => exact h.sending hsent (Message.textual_singleton _ _)

theorem Move.wholesome (hmove : Move w c d) (h : Wholesome c) : Wholesome d := by
  cases hmove with
  | negotiated hnegotiated => exact hnegotiated.wholesome h
  | flushed houtbox hsent =>
    obtain ⟨hm, hdrawn⟩ := h.drawn houtbox
    exact hdrawn.sending hsent hm
  | dropped houtbox _ => exact (h.drawn houtbox).2

theorem Wholesome.restart (h : Wholesome c) : Wholesome c.restart := by
  have hdropped : Wholesome c.discardIncoming := ⟨h.waiting, h.said⟩
  rw [restart_eq]
  exact hdropped.noted .restarted rfl rfl h.waiting

theorem wholesome_create {uri : String} {config : Config} {state : σ}
    (h : create w uri config state = .ok c) : Wholesome c := by
  obtain ⟨link, rfl⟩ := create_ok h
  exact ⟨nofun, nofun⟩

theorem Wholesome.after_all (h : Wholesome c) (requests : List (Request ι)) :
    Wholesome (c.afterAll w requests) := by
  induction requests generalizing c with
  | nil => exact h
  | cons request rest ih =>
    have hready : Wholesome (c.ready request) :=
      ready_keeps (P := Wholesome) (fun _ => Wholesome.restart) h request
    exact ih (Session.Walks.keeps (execute_walks request) (fun _ _ hc hmove => hmove.wholesome hc)
      hready)

/-! ## Sending -/

/-- Whatever the transport and the server do and whatever is asked of a client, event data and
server bytes that are no text included: every buffer that the transport is handed is text. An
open web socket sends it as that text. -/
theorem sends_text {uri : String} {config : Config} {state : σ} {c : Client (σ × List Call) ι}
    (hcreate : create w.recording uri config (state, []) = .ok c) (requests : List (Request ι)) :
    ∀ buffer ∈ (c.afterAll w.recording requests).buffers,
      ∃ text, Utf8.encode text = buffer ∧
        ∀ push, WebSocket.send (some push) buffer = push text := by
  intro buffer hbuffer
  have hcomposing : Composing uri requests (c.afterAll w.recording requests) :=
    (Composing.created hcreate requests).after_all w fun _ => id
  have hwholesome : Wholesome (c.afterAll w.recording requests) :=
    (wholesome_create hcreate).after_all requests
  rw [hcomposing.buffers] at hbuffer
  obtain ⟨m, hm, rfl⟩ := List.mem_map.mp hbuffer
  obtain ⟨text, htext⟩ := (hwholesome.said m hm).encode
  refine ⟨text, htext, fun push => ?_⟩
  rw [← htext, WebSocket.send, WebSocket.textFrame, Utf8.decode_encode]
  rfl

/-- The guest wants to emit a byte that is no text, and is refused. The server asks about a
pattern and a name that are no text; the guest listens for what the pattern is read as, and its
answer is text. -/
theorem sends_text_replacement :
    let requests : List (Request Script.Stimulus) := [.connect, .login "auth",
      .command (.emit "news" [0xFF]),
      .command (.listen "\uFFFD" "provider" (fun _ _ _ => true) fun _ _ _ => []),
      .command (.stimulate (.deliver
        [.event (.frame (Readable.encode "E|SP|" ++ [0xFF] ++ Readable.encode "|" ++ [0xFE] ++
          Readable.encode "+"))])),
      .process]
    let d := guestOnRecord.afterAll hospitable.recording requests
    (run hospitable.recording guestOnRecord requests).map (·.result.isOk) =
        [true, true, false, true, true, true] ∧
      d.buffers.length = 4 ∧
      ∀ buffer ∈ d.buffers, ∃ text, Utf8.encode text = buffer ∧
        ∀ push, WebSocket.send (some push) buffer = push text :=
  ⟨by decide +kernel, by decide +kernel, sends_text create_guestOnRecord _⟩

end Client

end Realtime
