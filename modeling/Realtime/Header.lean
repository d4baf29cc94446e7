import Realtime.Text.Utf8

/-!
# Message headers

A message says what it is about in its first fields: a topic, then an action,
with the field `A` between the two when the message acknowledges such an
action. Two acknowledgements are shortened to topic and `A`. The headers in
use are listed in `signatures`, each with its fields and with how many
arguments may follow; everything else about a header is looked up there.

Results:
1. `ofFields?_eq_some`: a header is recognised only by its own fields, and what
   is left are the arguments.
2. `signatures_nodup`: no two entries share their fields, and no two share
   their header.
-/

namespace Realtime

/-! ## Topics and actions -/

/-- What a message is about: the first field of its header. -/
inductive Topic where
  | auth
  | connection
  | error
  | event
  | presence
  | record
  | rpc
  deriving DecidableEq, Repr

namespace Topic

/-- The field that names the topic. -/
def code : Topic → String
  | .auth => "A"
  | .connection => "C"
  | .error => "X"
  | .event => "E"
  | .presence => "U"
  | .record => "R"
  | .rpc => "P"

/-- Every topic. -/
def all : List Topic :=
  [.auth, .connection, .error, .event, .presence, .record, .rpc]

end Topic

/-- What a message asks for or tells: the last fields of its header. -/
inductive Action where
  | challenge
  | challengeResponse
  | createOrRead
  | invalidAuthData
  | invalidAuthMessage
  | tooManyAuthAttempts
  | event
  | listen
  | listenAccept
  | listenReject
  | ping
  | pong
  | presenceJoin
  | presenceLeave
  | query
  | redirect
  | reject
  | request
  | subscribe
  | patternFound
  | patternRemoved
  | unlisten
  | unsubscribe
  deriving DecidableEq, Repr

namespace Action

/-- The fields that name the action. The errors of an authentication take two,
of which the first marks an error. -/
def fields : Action → List String
  | .challenge => ["CH"]
  | .challengeResponse => ["CHR"]
  | .createOrRead => ["CR"]
  | .invalidAuthData => ["E", "INVALID_AUTH_DATA"]
  | .invalidAuthMessage => ["E", "INVALID_AUTH_MSG"]
  | .tooManyAuthAttempts => ["E", "TOO_MANY_AUTH_ATTEMPTS"]
  | .event => ["EVT"]
  | .listen => ["L"]
  | .listenAccept => ["LA"]
  | .listenReject => ["LR"]
  | .ping => ["PI"]
  | .pong => ["PO"]
  | .presenceJoin => ["PNJ"]
  | .presenceLeave => ["PNL"]
  | .query => ["Q"]
  | .redirect => ["RED"]
  | .reject => ["REJ"]
  | .request => ["REQ"]
  | .subscribe => ["S"]
  | .patternFound => ["SP"]
  | .patternRemoved => ["SR"]
  | .unlisten => ["UL"]
  | .unsubscribe => ["US"]

/-- The fields in one text. -/
def code (action : Action) : String :=
  "|".intercalate action.fields

/-- Every action. -/
def all : List Action :=
  [.challenge, .challengeResponse, .createOrRead, .invalidAuthData, .invalidAuthMessage,
    .tooManyAuthAttempts, .event, .listen, .listenAccept, .listenReject, .ping, .pong,
    .presenceJoin, .presenceLeave, .query, .redirect, .reject, .request, .subscribe,
    .patternFound, .patternRemoved, .unlisten, .unsubscribe]

end Action

/-! ## Headers and their signatures -/

/-- Topic and action of a message, and whether it acknowledges that action. -/
structure Header where
  topic : Topic
  action : Action
  isAck : Bool := false
  deriving DecidableEq, Repr

/-- How a header is written and how many arguments may follow it. -/
structure Signature where
  header : Header
  fields : List String
  minArguments : Nat
  /-- `none` when any number of arguments may follow. -/
  maxArguments : Option Nat
  deriving DecidableEq, Repr

namespace Signature

/-- Whether `count` arguments may follow the header. -/
def admits (s : Signature) (count : Nat) : Bool :=
  decide (s.minArguments ≤ count) &&
    match s.maxArguments with
    | none => true
    | some most => decide (count ≤ most)

/-- The fields as bytes. -/
def fieldBytes (s : Signature) : List Bytes :=
  s.fields.map Utf8.encode

end Signature

namespace Header

/-- Every header in use. -/
def signatures : List Signature :=
  [ ⟨⟨.auth, .request, false⟩, ["A", "REQ"], 1, some 1⟩,
    ⟨⟨.auth, .request, true⟩, ["A", "A"], 0, some 1⟩,
    ⟨⟨.auth, .invalidAuthData, false⟩, ["A", "E", "INVALID_AUTH_DATA"], 0, some 1⟩,
    ⟨⟨.auth, .invalidAuthMessage, false⟩, ["A", "E", "INVALID_AUTH_MSG"], 0, some 1⟩,
    ⟨⟨.auth, .tooManyAuthAttempts, false⟩, ["A", "E", "TOO_MANY_AUTH_ATTEMPTS"], 0, some 1⟩,
    ⟨⟨.connection, .challenge, false⟩, ["C", "CH"], 0, some 0⟩,
    ⟨⟨.connection, .challengeResponse, false⟩, ["C", "CHR"], 1, some 1⟩,
    ⟨⟨.connection, .challengeResponse, true⟩, ["C", "A"], 0, some 0⟩,
    ⟨⟨.connection, .redirect, false⟩, ["C", "RED"], 1, some 1⟩,
    ⟨⟨.connection, .reject, false⟩, ["C", "REJ"], 0, some 0⟩,
    ⟨⟨.connection, .ping, false⟩, ["C", "PI"], 0, some 0⟩,
    ⟨⟨.connection, .pong, false⟩, ["C", "PO"], 0, some 0⟩,
    ⟨⟨.event, .event, false⟩, ["E", "EVT"], 2, some 2⟩,
    ⟨⟨.event, .subscribe, false⟩, ["E", "S"], 1, some 1⟩,
    ⟨⟨.event, .subscribe, true⟩, ["E", "A", "S"], 1, some 1⟩,
    ⟨⟨.event, .unsubscribe, false⟩, ["E", "US"], 1, some 1⟩,
    ⟨⟨.event, .unsubscribe, true⟩, ["E", "A", "US"], 1, some 1⟩,
    ⟨⟨.event, .listen, false⟩, ["E", "L"], 1, some 1⟩,
    ⟨⟨.event, .listen, true⟩, ["E", "A", "L"], 1, some 1⟩,
    ⟨⟨.event, .unlisten, false⟩, ["E", "UL"], 1, some 1⟩,
    ⟨⟨.event, .unlisten, true⟩, ["E", "A", "UL"], 1, some 1⟩,
    ⟨⟨.event, .listenAccept, false⟩, ["E", "LA"], 2, some 2⟩,
    ⟨⟨.event, .listenReject, false⟩, ["E", "LR"], 2, some 2⟩,
    ⟨⟨.event, .patternFound, false⟩, ["E", "SP"], 2, some 2⟩,
    ⟨⟨.event, .patternRemoved, false⟩, ["E", "SR"], 2, some 2⟩,
    ⟨⟨.presence, .subscribe, false⟩, ["U", "S"], 0, some 0⟩,
    ⟨⟨.presence, .subscribe, true⟩, ["U", "A", "S"], 0, some 1⟩,
    ⟨⟨.presence, .unsubscribe, false⟩, ["U", "US"], 0, some 0⟩,
    ⟨⟨.presence, .unsubscribe, true⟩, ["U", "A", "US"], 0, some 1⟩,
    ⟨⟨.presence, .presenceJoin, false⟩, ["U", "PNJ"], 1, some 1⟩,
    ⟨⟨.presence, .presenceLeave, false⟩, ["U", "PNL"], 1, some 1⟩,
    ⟨⟨.presence, .query, false⟩, ["U", "Q"], 0, none⟩ ]

theorem signatures_nodup :
    (signatures.map Signature.fields).Nodup ∧ (signatures.map Signature.header).Nodup := by
  decide

/-- Every header in use, in the order of the list. -/
def all : List Header :=
  signatures.map Signature.header

/-- The entry of a header, if it is in use. -/
def signature? (h : Header) : Option Signature :=
  signatures.find? fun s => s.header = h

/-- Whether the header is in use. -/
def isKnown (h : Header) : Bool :=
  h.signature?.isSome

/-- The fields of the header. A header that is not in use is spelled out. -/
def fields (h : Header) : List String :=
  match h.signature? with
  | some s => s.fields
  | none => h.topic.code :: (if h.isAck then "A" :: h.action.fields else h.action.fields)

/-- The header in readable form. -/
def text (h : Header) : String :=
  "|".intercalate h.fields

/-! ## Recognising a header -/

/-- What follows the header among the fields, if the fields start with it. -/
def rest? : List Bytes → List Bytes → Option (List Bytes)
  | [], fields => some fields
  | _ :: _, [] => none
  | own :: others, field :: fields => if own = field then rest? others fields else none

theorem rest?_eq_some {own fields rest : List Bytes} :
    rest? own fields = some rest ↔ fields = own ++ rest := by
  induction own generalizing fields with
  | nil => simp [rest?]
  | cons first others ih =>
    cases fields with
    | nil => simp [rest?]
    | cons field more =>
      simp only [rest?, List.cons_append, List.cons.injEq]
      split
      · next h => simp [h, ih]
      · next h => simp [Ne.symm h]

/-- The better of two readings: the header with more fields. -/
def longer (best : Option (Signature × List Bytes)) (next : Signature × List Bytes) :
    Option (Signature × List Bytes) :=
  match best with
  | none => some next
  | some found => if found.1.fields.length ≤ next.1.fields.length then some next else some found

/-- The longest header in use with which the fields start, and the fields
after it. -/
def ofFields? (fields : List Bytes) : Option (Signature × List Bytes) :=
  (signatures.filterMap fun s => (rest? s.fieldBytes fields).map (s, ·)).foldl longer none

theorem foldl_longer_mem {found : List (Signature × List Bytes)}
    {best : Option (Signature × List Bytes)} {r : Signature × List Bytes}
    (h : found.foldl longer best = some r) : r ∈ found ∨ best = some r := by
  induction found generalizing best with
  | nil => exact Or.inr h
  | cons next others ih =>
    rcases ih h with hmem | hbest
    · exact Or.inl (List.mem_cons_of_mem _ hmem)
    · cases best with
      | none =>
        simp only [longer, Option.some.injEq] at hbest
        exact Or.inl (hbest ▸ List.mem_cons_self)
      | some b =>
        simp only [longer] at hbest
        split at hbest
        · simp only [Option.some.injEq] at hbest
          exact Or.inl (hbest ▸ List.mem_cons_self)
        · exact Or.inr hbest

/-- A header is recognised by its own fields only. -/
theorem ofFields?_eq_some {fields arguments : List Bytes} {s : Signature}
    (h : ofFields? fields = some (s, arguments)) :
    s ∈ signatures ∧ fields = s.fieldBytes ++ arguments := by
  rcases foldl_longer_mem h with hmem | hnone
  · obtain ⟨t, ht, hr⟩ := List.mem_filterMap.1 hmem
    obtain ⟨rest, hrest, hpair⟩ := Option.map_eq_some_iff.1 hr
    obtain ⟨rfl, rfl⟩ := Prod.mk.inj hpair
    exact ⟨ht, rest?_eq_some.1 hrest⟩
  · exact absurd hnone (by simp)

end Header

end Realtime
