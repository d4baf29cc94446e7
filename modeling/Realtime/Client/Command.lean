import Realtime.Payload

/-!
# What a program asks of a client while it runs

Programs emit events, subscribe to them, listen for subscriptions of others,
and follow who is present. Those who subscribe leave a callback, and a callback
may itself ask things of the client. So a command that registers a callback
carries a function from what the callback is told to the commands that it gives
then; it is also told how often it ran before. No two of its calls have the same
number, so it may react to each as it likes, whatever it remembers of the others.
-/

namespace Realtime

/-- Identifies a subscription. -/
abbrev SubscriptionId := UInt64

/-- A request to a client that takes effect at once, whether or not it is
connected; `ι` are the stimuli of its transport. -/
inductive Command (ι : Type) where
  /-- Emit an event. -/
  | emit (name : String) (data : Bytes)
  /-- Emit an event whose data is the typed payload of a JSON text. -/
  | emitJson (name : String) (text : String)
  /-- Be told of every event of a name. -/
  | subscribe (name tag : String) (react : Nat → Bytes → List (Command ι))
  /-- Drop all subscriptions to a name. -/
  | unsubscribe (name : String)
  /-- Drop one subscription to a name. -/
  | unsubscribeId (name : String) (id : SubscriptionId)
  /-- Be asked whether to provide events whose names match a pattern, when
  others subscribe to them. -/
  | listen (pattern tag : String) (accepts : Nat → String → Bool → Bool)
      (react : Nat → String → Bool → List (Command ι))
  /-- Stop listening for a pattern. -/
  | unlisten (pattern : String)
  /-- Be told of everyone who logs in or out. -/
  | followPresence (tag : String) (react : Nat → String → Bool → List (Command ι))
  /-- Drop one subscription to presence. -/
  | unfollowPresence (id : SubscriptionId)
  /-- Drop all subscriptions to presence. -/
  | unfollowAllPresence
  /-- Ask once for everyone who is logged in. -/
  | queryPresence (tag : String) (react : List String → List (Command ι))
  /-- No request: the transport acts meanwhile. -/
  | stimulate (i : ι)

/-- What a request gives back. -/
inductive Answer where
  | nothing
  | id (n : SubscriptionId)
  /-- What the server said of the user that logged in. -/
  | userData (data : Option Bytes)
  deriving DecidableEq, Repr

/-! ## Callbacks -/

/-- A callback that may be called often. -/
structure Callback (ι α : Type) where
  /-- Where its calls are counted. -/
  slot : Nat
  tag : String
  /-- What it asks for, when it has run so often before and is told this. -/
  react : Nat → α → List (Command ι)

/-- A callback with the subscription it belongs to. -/
structure Subscription (ι α : Type) where
  id : SubscriptionId
  callback : Callback ι α

/-- A callback that decides whether to provide an event. -/
structure Listener (ι : Type) where
  callback : Callback ι (String × Bool)
  /-- Its decision for a name, when it has run so often before. It is asked for
  one when a subscriber appeared (`true`) or went away (`false`). -/
  accepts : Nat → String → Bool → Bool

/-- A callback that is called once, with the users that are present. -/
structure Querent (ι : Type) where
  tag : String
  react : List String → List (Command ι)

/-- A call of a callback, with what it was told. -/
inductive Invocation where
  | event (tag : String) (data : Bytes)
  | listener (tag : String) (name : String) (subscribed : Bool)
  | presence (tag : String) (user : String) (joined : Bool)
  | users (tag : String) (list : List String)
  deriving DecidableEq, Repr

end Realtime
