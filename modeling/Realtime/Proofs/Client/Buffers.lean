import Realtime.Proofs.Client.Congruence
import Realtime.Proofs.Client.Refinement

/-!
# What the transport is handed

A client hands its transport one message at a time. Arguments stand on the wire as they
are, so the buffer reads back as that message only if no separator stands in an argument.
What a client says of its own accord, and what it repeats of the server, holds none; what
its program wants said may.

Results:
1. `Composed`: what a client may say, and where the arguments come from.
2. `frames_read_back`: the buffers are the messages, and which of them read back.
-/

namespace Realtime

/-! ## Separators -/

namespace Wire

/-- No separator stands in the bytes. -/
def Free (bytes : Bytes) : Prop :=
  unitSeparator ∉ bytes ∧ recordSeparator ∉ bytes

instance (bytes : Bytes) : Decidable (Free bytes) :=
  inferInstanceAs (Decidable (_ ∧ _))

/-- Text that is read as well as can be holds no separator that its bytes do not hold. -/
theorem Free.lossy {bytes : Bytes} (h : Free bytes) : Free (Utf8.encode (Utf8.lossy bytes)) :=
  ⟨fun hmem => h.1 (Utf8.mem_of_mem_encode_lossy (by decide) hmem),
    fun hmem => h.2 (Utf8.mem_of_mem_encode_lossy (by decide) hmem)⟩

end Wire

namespace Message

/-- No separator stands in an argument. -/
def SeparatorFree (m : Message) : Prop :=
  ∀ argument ∈ m.arguments, Wire.Free argument

instance (m : Message) : Decidable m.SeparatorFree :=
  inferInstanceAs (Decidable (∀ argument ∈ m.arguments, Wire.Free argument))

theorem separatorFree_nil (header : Header) : SeparatorFree ⟨header, []⟩ :=
  List.forall_mem_nil _

theorem separatorFree_singleton {header : Header} {argument : Bytes} :
    SeparatorFree ⟨header, [argument]⟩ ↔ Wire.Free argument :=
  List.forall_mem_singleton

theorem separatorFree_pair {header : Header} {first second : Bytes} :
    SeparatorFree ⟨header, [first, second]⟩ ↔ Wire.Free first ∧ Wire.Free second := by
  rw [SeparatorFree, List.forall_mem_cons, List.forall_mem_singleton]

/-- The header of the message is in use and takes as many arguments. -/
def Admitted (m : Message) : Prop :=
  ∃ s ∈ Header.signatures, s.header = m.header ∧ s.admits m.arguments.length = true

/-- An admitted message reads back from its bytes exactly if no separator stands in an
argument. -/
theorem Admitted.read_encode_iff {m : Message} (h : m.Admitted) :
    Frame.read m.encode = ⟨[m], []⟩ ↔ m.SeparatorFree := by
  constructor
  · intro hread
    have hmem : m ∈ (Frame.read m.encode).messages := by
      rw [hread]
      exact List.mem_singleton_self m
    exact (Frame.wellFormed_of_mem_read hmem).separatorFree
  · exact fun hfree => WellFormed.read_encode ⟨h, hfree⟩

end Message

/-! ## What a client may say -/

section Composed

variable {ι : Type}

/-- The program gives the command, or a callback that it gives leads to it. -/
def Given (requests : List (Request ι)) (command : Command ι) : Prop :=
  ∃ first, .command first ∈ requests ∧ Relation.ReflTransGen Command.Leads first command

/-- What a client may say that was made for the address and is asked for the requests. -/
inductive Composed (uri : String) (requests : List (Request ι)) : Message → Prop
  | response : Composed uri requests (Session.challengeResponse uri)
  /-- The server has named another address. -/
  | redirected {target : String} : Wire.Free (Utf8.encode target) →
      Composed uri requests (Session.challengeResponse target)
  | login {auth : String} : .login auth ∈ requests →
      Composed uri requests (Session.loginMessage auth)
  /-- What a command of the program says. -/
  | wished {command : Command ι} {m : Message} : Given requests command →
      command.wish? = some m → Composed uri requests m
  | pong : Composed uri requests (.plain .connection .pong)
  /-- That the program follows presence, and asks for it, is said again with each login. -/
  | follow : Composed uri requests (Client.presenceMessage .subscribe)
  | query : Composed uri requests Client.queryMessage
  /-- A listener decides about a name that the server has asked about. -/
  | decision {accepted : Bool} {pattern name : String} : Wire.Free (Utf8.encode pattern) →
      Wire.Free (Utf8.encode name) → Composed uri requests
        (.plain .event (if accepted then .listenAccept else .listenReject)
          [Utf8.encode pattern, Utf8.encode name])

/-- No separator stands in what the request gives for the server, nor in what its callbacks
do. -/
def Request.SeparatorFree : Request ι → Prop
  | .login auth => Wire.Free (Utf8.encode auth)
  | .command first => ∀ command, Relation.ReflTransGen Command.Leads first command →
      ∀ m, command.wish? = some m → m.SeparatorFree
  | _ => True

theorem admitted_of_any {header : Header} {arguments : List Bytes}
    (h : (Header.signatures.any fun s => s.header = header && s.admits arguments.length) = true) :
    Message.Admitted ⟨header, arguments⟩ := by
  obtain ⟨s, hs, hboth⟩ := List.any_eq_true.mp h
  obtain ⟨hheader, hadmits⟩ := Bool.and_eq_true_iff.mp hboth
  exact ⟨s, hs, of_decide_eq_true hheader, hadmits⟩

theorem admitted_emitMessage (name : String) (data : Bytes) :
    (Session.emitMessage name data).Admitted :=
  admitted_of_any (by rfl)

/-- What a command says has a header in use, and as many arguments as it takes. -/
theorem admitted_of_wish {command : Command ι} {m : Message} (h : command.wish? = some m) :
    m.Admitted := by
  cases command with
  | emit name data =>
    cases h
    exact admitted_emitMessage name data
  | emitJson name text =>
    obtain ⟨data, rfl⟩ := Command.eq_emitMessage_of_wish? h
    exact admitted_emitMessage name data
  | stimulate i => cases h
  | _ =>
    cases h
    exact admitted_of_any (by rfl)

theorem Composed.admitted {uri : String} {requests : List (Request ι)} {m : Message}
    (h : Composed uri requests m) : m.Admitted := by
  cases h with
  | wished _ hwish => exact admitted_of_wish hwish
  | @decision accepted => cases accepted <;> exact admitted_of_any (by rfl)
  | _ => exact admitted_of_any (by rfl)

/-- If what the program gives holds no separator, nothing that the client says does. -/
theorem Composed.separatorFree {uri : String} {requests : List (Request ι)} {m : Message}
    (h : Composed uri requests m) (huri : Wire.Free (Utf8.encode uri))
    (hrequests : ∀ request ∈ requests, request.SeparatorFree) : m.SeparatorFree := by
  cases h with
  | response => exact Message.separatorFree_singleton.mpr huri
  | redirected htarget => exact Message.separatorFree_singleton.mpr htarget
  | login hauth => exact Message.separatorFree_singleton.mpr (hrequests _ hauth)
  | wished hgiven hwish =>
    obtain ⟨first, hfirst, hleads⟩ := hgiven
    exact hrequests _ hfirst _ hleads _ hwish
  | pong | follow => exact Message.separatorFree_nil _
  | query => exact Message.separatorFree_singleton.mpr (by decide +kernel)
  | decision hpattern hname => exact Message.separatorFree_pair.mpr ⟨hpattern, hname⟩

end Composed

/-! ## Transports that keep a record -/

section Recording

variable {σ ι : Type}

/-- The transport, with a record of the calls that were made of it. -/
def Transport.recording (t : Transport σ ι) : Transport (σ × List Call) ι where
  keepsChannel := t.keepsChannel
  call uri c s :=
    let reply := t.call uri c s.1
    { state := (reply.state, s.2 ++ [c]), outcome := reply.outcome, signals := reply.signals }
  stimulate i s :=
    let reply := t.stimulate i s.1
    { state := (reply.state, s.2), outcome := reply.outcome, signals := reply.signals }

/-- The surroundings, with a transport that keeps a record. -/
def Surroundings.recording (w : Surroundings σ ι) : Surroundings (σ × List Call) ι where
  transport := w.transport.recording
  checkUri := w.checkUri
  patience := w.patience

/-- The buffer that a call hands over. -/
def Call.buffer? : Call → Option Bytes
  | .send frame => some frame
  | _ => none

/-- The message that the transport was asked to send, whether it did or not. -/
def Occurrence.uttered? : Occurrence ι → Option Message
  | .sent m _ => some m
  | _ => none

namespace Client

/-- The buffers that the transport was handed, in order. -/
def buffers (c : Client (σ × List Call) ι) : List Bytes :=
  c.link.state.2.filterMap Call.buffer?

/-- The messages that the client has built for the transport, in order. -/
def utterances (c : Client σ ι) : List Message :=
  c.history.filterMap Occurrence.uttered?

/-- The client after it was asked for one thing after the other. -/
def afterAll (w : Surroundings σ ι) (c : Client σ ι) (requests : List (Request ι)) : Client σ ι :=
  requests.foldl (fun c request => (execute w request).after c) c

theorem utterances_note (c : Client σ ι) (what : Occurrence ι) :
    (c.note what).utterances = c.utterances ++ what.uttered?.toList :=
  filterMap_history_note ..

end Client

theorem Occurrence.uttered?_of_not_isCall {what : Occurrence ι} (h : what.isCall = false) :
    what.uttered? = none := by
  cases what with
  | sent m outcome => cases h
  | _ => rfl

end Recording

/-! ## What is handed over -/

section HandedOver

open Session Client

variable {σ ι : Type}

/-- What a client may be expected to say that is asked for the requests. -/
def composing (uri : String) (requests : List (Request ι)) : Manners ι where
  fit := Given requests
  say := Composed uri requests
  decent := Message.SeparatorFree
  leads := fun ⟨first, hfirst, hleads⟩ hmore => ⟨first, hfirst, hleads.tail hmore⟩
  voices := .wished
  pong := .pong
  follow := .follow
  query := .query
  decides {m pattern name others} accepted hdecent harguments := by
    rw [Message.SeparatorFree, harguments] at hdecent
    obtain ⟨hpattern, hrest⟩ := List.forall_mem_cons.mp hdecent
    exact .decision hpattern.lossy (List.forall_mem_cons.mp hrest).1.lossy

theorem composing_allows {uri : String} {requests : List (Request ι)} {request : Request ι}
    (h : request ∈ requests) : (composing uri requests).Allows request := by
  cases request with
  | login auth => exact .login h
  | command command => exact ⟨command, h, .refl⟩
  | _ => trivial

/-- The client has said nothing but what it may, and has handed that over as it is. -/
structure Composing (uri : String) (requests : List (Request ι))
    (c : Client (σ × List Call) ι) : Prop where
  address : c.uri = uri ∨ Wire.Free (Utf8.encode c.uri)
  tidy : Tidy (composing uri requests) c.desk
  /-- The server cannot send a separator inside an argument. -/
  heard : ∀ m, .message m ∈ c.inbox.items → m.SeparatorFree
  buffers : c.buffers = c.utterances.map Message.encode
  composed : ∀ m ∈ c.utterances, Composed uri requests m

namespace Composing

variable {uri : String} {requests : List (Request ι)} {c : Client (σ × List Call) ι}

/-- What has come in lately is free of separators, as everything that is read from a frame. -/
theorem heard_more (h : Composing uri requests c) (events : List Event) {m : Message}
    (hm : .message m ∈ (c.inbox.more events).items) : m.SeparatorFree := by
  rw [Inbox.items_more, List.mem_append] at hm
  rcases hm with hold | hnew
  · exact h.heard m hold
  · exact (Inbox.wellFormed_of_mem_items hnew).separatorFree

theorem note (h : Composing uri requests c) {what : Occurrence ι} (hwhat : what.isCall = false) :
    Composing uri requests (c.note what) := by
  have hsame : (c.note what).utterances = c.utterances := by
    rw [utterances_note, Occurrence.uttered?_of_not_isCall hwhat, Option.toList_none,
      List.append_nil]
  exact ⟨h.address, h.tidy, h.heard, hsame ▸ h.buffers, hsame ▸ h.composed⟩

/-- Whatever a client does with its transport, the record tells of it. -/
theorem use (h : Composing uri requests c) (t : Transport σ ι) {call : Call}
    {what : Except Error Unit → Occurrence ι} (husage : Usage (composing uri requests) call what) :
    Composing uri requests (c.use t.recording call what).2 := by
  have hbuffers : (c.use t.recording call what).2.buffers =
      c.buffers ++ (Call.buffer? call).toList := by
    show (c.link.state.2 ++ [call]).filterMap Call.buffer? = _
    rw [List.filterMap_append]
    cases hcall : Call.buffer? call <;> simp [hcall, Client.buffers]
  have hutterances (outcome : Except Error Unit) := utterances_note c (what outcome)
  refine ⟨h.address, h.tidy, fun m hm => ?_, ?_, ?_⟩
  · have hinbox := inbox_absorb c (t.recording.call c.link.uri call c.link.state)
    exact h.heard_more _ (hinbox ▸ hm)
  · rw [hbuffers]
    refine Eq.trans ?_ (congrArg (List.map Message.encode) (hutterances _)).symm
    rw [List.map_append, h.buffers]
    cases husage <;> rfl
  · intro m hm
    rcases List.mem_append.mp (hutterances _ ▸ hm) with hold | hnew
    · exact h.composed m hold
    · cases husage with
      | opening | closing => cases hnew
      | sending hsay => exact List.mem_singleton.mp hnew ▸ hsay

/-- Nothing that a client does is at odds with what it may say. -/
theorem congruence (w : Surroundings σ ι) (uri : String) (requests : List (Request ι)) :
    Session.Congruence w.recording (composing uri requests)
      (fun c d => d = c ∧ Composing uri requests c) where
  config h := h.1 ▸ rfl
  uri h := h.1 ▸ rfl
  target h := h.1 ▸ rfl
  phase h := h.1 ▸ rfl
  desk h := h.1 ▸ rfl
  isOpen h := h.1 ▸ rfl
  tidy h := h.2.tidy
  response h := by
    rcases h.2.address with hown | hfree
    · exact hown ▸ .response
    · exact .redirected hfree
  noted h hwhat := ⟨congrArg (Client.note · _) h.1, h.2.note hwhat⟩
  kept h htidy := ⟨congrArg (Client.withDesk _) h.1, { h.2 with tidy := htidy }⟩
  moved h phase := ⟨h.1 ▸ rfl, { h.2 with }⟩
  used := by
    rintro _ c call what ⟨rfl, h⟩ husage
    exact ⟨rfl, rfl, h.use w.transport husage⟩
  discarded h := ⟨congrArg discardIncoming h.1, { h.2 with heard := nofun }⟩
  retargeted := by
    rintro _ c reply ⟨rfl, h⟩ hdecent
    have hnoted : Composing uri requests (c.note (.targeted (redirectTarget reply))) := h.note rfl
    refine ⟨rfl, { hnoted with address := .inr (Wire.Free.lossy ?_) }⟩
    cases harguments : reply.arguments with
    | nil => exact ⟨List.not_mem_nil, List.not_mem_nil⟩
    | cons first others => exact hdecent first (harguments ▸ .head _)
  stimulated := by
    rintro _ c ⟨rfl, h⟩ i
    refine ⟨rfl, { h with heard := fun m hm => ?_ }⟩
    exact h.heard_more _ (inbox_absorb c (w.recording.transport.stimulate i c.link.state) ▸ hm)
  received := by
    rintro _ c ⟨rfl, h⟩ gone
    refine ⟨rfl, fun m hm => h.heard m (Inbox.mem_items_of_next (.inl hm)), rfl,
      { h with heard := fun m hm => h.heard m (Inbox.mem_items_of_next (.inr hm)) }⟩

theorem created {w : Surroundings σ ι} {config : Config} {state : σ}
    (h : create w.recording uri config (state, []) = .ok c) (requests : List (Request ι)) :
    Composing uri requests c := by
  unfold create at h
  split at h
  · cases h
  · split at h
    · cases h
    · cases h
      exact ⟨.inl rfl, ⟨nofun, nofun, fun _ _ => nofun, fun _ _ => nofun, nofun, nofun⟩,
        nofun, rfl, nofun⟩

/-- A request that the program has asked for keeps to what the client may say. -/
theorem after_execute (h : Composing uri requests c) (w : Surroundings σ ι)
    {request : Request ι} (hrequest : request ∈ requests) :
    Composing uri requests ((execute w.recording request).after c) := by
  have hagree := (congruence w uri requests).execute_respects (composing_allows hrequest) c c
    ⟨rfl, h⟩
  unfold Session.after
  cases hrun : execute w.recording request c with
  | ok answer d =>
    rw [hrun] at hagree
    exact hagree.2.2.2
  | error stop d =>
    rw [hrun] at hagree
    exact hagree.2.2

theorem after_all (h : Composing uri requests c) (w : Surroundings σ ι)
    {asked : List (Request ι)} (hasked : asked ⊆ requests) :
    Composing uri requests (c.afterAll w.recording asked) := by
  induction asked generalizing c with
  | nil => exact h
  | cons request rest ih =>
    obtain ⟨hrequest, hrest⟩ := List.cons_subset.mp hasked
    exact ih (h.after_execute w hrequest) hrest

end Composing

namespace Client

/-- Whatever the transport and the server do, the buffers that the transport is handed are
the messages that the client has built, one each and as they are. Such a buffer reads back as
its message exactly if no separator stands in an argument. So they all do if no separator
stands in the address and in what the program gives. -/
theorem frames_read_back {w : Surroundings σ ι} {uri : String} {config : Config} {state : σ}
    {c : Client (σ × List Call) ι} (hcreate : create w.recording uri config (state, []) = .ok c)
    (requests : List (Request ι)) :
    let d := c.afterAll w.recording requests
    d.buffers = d.utterances.map Message.encode ∧
      (∀ m ∈ d.utterances, Composed uri requests m ∧
        (Frame.read m.encode = ⟨[m], []⟩ ↔ m.SeparatorFree)) ∧
      (Wire.Free (Utf8.encode uri) → (∀ request ∈ requests, request.SeparatorFree) →
        d.buffers.map Frame.read = d.utterances.map fun m => ⟨[m], []⟩) := by
  intro d
  have hd : Composing uri requests d := (Composing.created hcreate requests).after_all w fun _ => id
  refine ⟨hd.buffers, fun m hm => ?_, fun huri hrequests => ?_⟩
  · exact ⟨hd.composed m hm, (hd.composed m hm).admitted.read_encode_iff⟩
  · rw [hd.buffers, List.map_map]
    refine List.map_congr_left fun m hm => ?_
    have hcomposed := hd.composed m hm
    exact hcomposed.admitted.read_encode_iff.mpr (hcomposed.separatorFree huri hrequests)

/-- The guest of a hospitable server, whose transport keeps a record. -/
def guestOnRecord : Client (Script × List Call) Script.Stimulus where
  config := .standard
  uri := "ws://server"
  link :=
    { uri := some "ws://server"
      channel := { isOpen := true }
      state := ({ rules := Script.welcome }, []) }

theorem create_guestOnRecord :
    create hospitable.recording "ws://server" .standard ({ rules := Script.welcome }, []) =
      .ok guestOnRecord := rfl

/-- The guest listens for a pattern, and the server asks it to provide an event. -/
theorem frames_read_back_guest :
    let requests : List (Request Script.Stimulus) := [.connect, .login "auth",
      .command (.listen "news.*" "provider" (fun _ _ _ => true) fun _ _ _ => []),
      .command (.stimulate (.deliver [Script.frame "E|SP|news.*|news.today+"])), .process]
    let d := guestOnRecord.afterAll hospitable.recording requests
    (∀ request ∈ requests, request.SeparatorFree) ∧
      d.utterances =
        [ challengeResponse "ws://server", loginMessage "auth", eventMessage .listen "news.*",
          .plain .event .listenAccept [Utf8.encode "news.*", Utf8.encode "news.today"] ] ∧
      d.buffers.map Frame.read = d.utterances.map fun m => ⟨[m], []⟩ := by
  intro requests d
  have halone {command : Command Script.Stimulus} (hquiet : ∀ other, ¬ command.Leads other)
      (hfree : ∀ m, command.wish? = some m → m.SeparatorFree) :
      Request.SeparatorFree (.command command) := by
    intro other hleads
    rw [Relation.reflTransGen_iff_eq hquiet] at hleads
    exact hleads ▸ hfree
  have hauth : Wire.Free (Utf8.encode "auth") := by decide +kernel
  have hlistens : (eventMessage .listen "news.*").SeparatorFree := by decide +kernel
  have hrequests : ∀ request ∈ requests, request.SeparatorFree := by
    simp only [requests, List.forall_mem_cons]
    refine ⟨trivial, hauth, halone ?_ ?_, halone nofun nofun, trivial, nofun⟩
    · rintro other (_ | hnone)
      cases hnone
    · rintro m ⟨⟩
      exact hlistens
  refine ⟨hrequests, by decide +kernel, ?_⟩
  exact (frames_read_back create_guestOnRecord requests).2.2 (by decide +kernel) hrequests

/-- The guest emits an event of which the data hold both separators. The data are accepted,
and the one buffer that is handed over for them reads as two messages. -/
theorem separators_split_buffer :
    let requests : List (Request Script.Stimulus) := [.connect, .login "auth",
      .command (.emit "news" (Readable.encode "1+E|S|spy")), .process]
    let d := guestOnRecord.afterAll hospitable.recording requests
    create hospitable.recording "ws://server" .standard ({ rules := Script.welcome }, []) =
        .ok guestOnRecord ∧
      (run hospitable.recording guestOnRecord requests).map (·.result.isOk) =
        [true, true, true, true] ∧
      ∃ frame ∈ d.buffers, frame = (emitMessage "news" (Readable.encode "1+E|S|spy")).encode ∧
        Frame.read frame =
          ⟨[emitMessage "news" (Utf8.encode "1"), eventMessage .subscribe "spy"], []⟩ ∧
        ∀ m, Frame.read frame ≠ ⟨[m], []⟩ := by
  intro requests d
  have hread : Frame.read (emitMessage "news" (Readable.encode "1+E|S|spy")).encode =
      ⟨[emitMessage "news" (Utf8.encode "1"), eventMessage .subscribe "spy"], []⟩ := by
    decide +kernel
  refine ⟨rfl, by decide +kernel, _, by decide +kernel, rfl, hread, fun m hm => ?_⟩
  rw [hread] at hm
  cases hm

end Client

end HandedOver

end Realtime
