import Mathlib.Data.List.Nodup
import Realtime.Proofs.Client.Idle
import Realtime.Proofs.Client.Replay

/-!
# Subscriptions and their history

A client keeps its subscriptions in tables, and takes them from there when someone is to be told.
A program knows nothing of tables. It knows what it has asked for: some of its requests have
made a subscription, of which it was given the identifier, and others have ended one or more.
This module reads off from the requests and their results which subscriptions live. The tables
of a client hold exactly these, whatever else has happened to the client meanwhile.

Results:
1. `live_concat`: which subscriptions live after one more request.
2. `Enrolled.subscribed`, ..., `Enrolled.unfollowedAll`: each command that changes the tables
   changes them as it changes the history.
3. `Logged.enrolled`: the tables hold the subscriptions that live.
-/

namespace Realtime

variable {σ ι : Type}

/-! ## The history of a program -/

/-- A subscription, as the program knows it. -/
structure Ticket where
  interest : Interest
  id : SubscriptionId
  tag : String
  deriving DecidableEq, Repr

/-- The subscription, as the program knows it. -/
def Subscription.ticket {α : Type} (interest : Interest) (s : Subscription ι α) : Ticket :=
  ⟨interest, s.id, s.callback.tag⟩

/-- The requests of a program, oldest first, each with how it ended. -/
abbrev Log (ι : Type) :=
  List (Request ι × Except Error Answer)

namespace Request

/-- The subscription that a request has made, if it ended with this result. -/
def ticket? (request : Request ι) (result : Except Error Answer) : Option Ticket :=
  match request, result with
  | .command (.subscribe name tag _), .ok (.id id) => some ⟨.event name, id, tag⟩
  | .command (.followPresence tag _), .ok (.id id) => some ⟨.presence, id, tag⟩
  | _, _ => none

/-- The request ends the subscription, if it lives. -/
def ends (request : Request ι) (t : Ticket) : Bool :=
  match request with
  | .command (.unsubscribe name) => t.interest = .event name
  | .command (.unsubscribeId name id) => t.interest = .event name && t.id = id
  | .command (.unfollowPresence id) => t.interest = .presence && t.id = id
  | .command .unfollowAllPresence => t.interest = .presence
  | _ => false

/-- No callback that the request registers asks anything of the client. -/
def IsIdle (request : Request ι) : Prop :=
  ∀ command other, request = .command command → command.Leads other → other.isStimulus

end Request

/-- No callback that the command registers asks anything of the client. -/
def Command.IsIdle (command : Command ι) : Prop :=
  ∀ other, command.Leads other → other.isStimulus

theorem Command.isIdle_iff (command : Command ι) :
    command.IsIdle ↔
      match command with
      | .subscribe _ _ react => ∀ before data, ∀ other ∈ react before data, other.isStimulus
      | .listen _ _ _ react =>
        ∀ before name subscribed, ∀ other ∈ react before name subscribed, other.isStimulus
      | .followPresence _ react =>
        ∀ before user joined, ∀ other ∈ react before user joined, other.isStimulus
      | .queryPresence _ react => ∀ users, ∀ other ∈ react users, other.isStimulus
      | _ => True := by
  constructor
  · intro h
    cases command with
    | subscribe => exact fun _ _ other hother => h other (.subscribe hother)
    | listen => exact fun _ _ _ other hother => h other (.listen hother)
    | followPresence => exact fun _ _ _ other hother => h other (.followPresence hother)
    | queryPresence => exact fun _ other hother => h other (.queryPresence hother)
    | _ => trivial
  · intro h other hleads
    cases hleads with
    | subscribe hother => exact h _ _ _ hother
    | listen hother => exact h _ _ _ _ hother
    | followPresence hother => exact h _ _ _ _ hother
    | queryPresence hother => exact h _ _ hother

theorem Request.isIdle_iff (request : Request ι) : request.IsIdle ↔
    ∀ command, request = .command command → command.IsIdle :=
  ⟨fun h command hsame other => h command other hsame,
    fun h command other hsame => h command hsame other⟩

namespace Client

/-- The subscriptions that were made. -/
def tickets (log : Log ι) : List Ticket :=
  log.filterMap fun turn => turn.1.ticket? turn.2

/-- The subscriptions that were made and that no later request has ended, oldest first. -/
def live : Log ι → List Ticket
  | [] => []
  | (request, result) :: later =>
    (request.ticket? result).toList.filter (fun t => !later.any (·.1.ends t)) ++ live later

/-- Who is interested in something after all, in the order of the subscriptions. -/
def interested (log : Log ι) (interest : Interest) : List String :=
  ((live log).filter (·.interest = interest)).map (·.tag)

/-- A request ends some of the subscriptions that live, and may make a new one. -/
theorem live_concat (log : Log ι) (request : Request ι) (result : Except Error Answer) :
    live (log ++ [(request, result)]) =
      (live log).filter (fun t => !request.ends t) ++ (request.ticket? result).toList := by
  induction log with
  | nil => simp [live]
  | cons turn rest ih =>
    obtain ⟨earlier, outcome⟩ := turn
    simp only [List.cons_append, live, ih, List.filter_append, List.filter_filter,
      List.append_assoc, List.any_append, List.any_cons, List.any_nil, Bool.or_false, Bool.not_or]
    congr 2
    funext t
    exact Bool.and_comm _ _

theorem tickets_concat (log : Log ι) (request : Request ι) (result : Except Error Answer) :
    tickets (log ++ [(request, result)]) = tickets log ++ (request.ticket? result).toList := by
  unfold tickets
  rw [List.filterMap_append]
  cases h : request.ticket? result <;> simp [h]

/-- An earlier history has no more subscriptions. -/
theorem length_tickets_le (log : Log ι) (request : Request ι) (result : Except Error Answer) :
    (tickets log).length ≤ (tickets (log ++ [(request, result)])).length := by
  rw [tickets_concat, List.length_append]
  exact Nat.le_add_right ..

theorem live_sublist (log : Log ι) : (live log).Sublist (tickets log) := by
  induction log with
  | nil => exact .slnil
  | cons turn rest ih =>
    obtain ⟨request, result⟩ := turn
    have hfirst : tickets ((request, result) :: rest) =
        (request.ticket? result).toList ++ tickets rest := by
      unfold tickets
      cases h : request.ticket? result <;> simp [h]
    rw [hfirst]
    exact List.filter_sublist.append ih

/-- The requests of a program have led to the client. -/
inductive Logged (w : Surroundings σ ι) : Log ι → Client σ ι → Prop
  | created {uri : String} {config : Config} {state : σ} {c : Client σ ι} :
      create w uri config state = .ok c → Logged w [] c
  | executed {log : Log ι} {c d : Client σ ι} (request : Request ι)
      {result : Except Error Answer} : Logged w log c →
      Session.attempt (execute w request) c = .ok result d →
      Logged w (log ++ [(request, result)]) d

/-! ## Tables -/

variable {w : Surroundings σ ι} {c d : Client σ ι} {log : Log ι}

/-- The subscriptions that the tables of a client hold. -/
def enrolled (c : Client σ ι) : Interest → List Ticket
  | .event name => (c.subscribers name).map (·.ticket (.event name))
  | .presence => c.presence.subscriptions.map (·.ticket .presence)

theorem interest_of_mem_enrolled {interest : Interest} {t : Ticket}
    (h : t ∈ c.enrolled interest) : t.interest = interest := by
  cases interest with
  | event name =>
    obtain ⟨s, -, rfl⟩ := List.mem_map.mp h
    rfl
  | presence =>
    obtain ⟨s, -, rfl⟩ := List.mem_map.mp h
    rfl

theorem tags_eq_map_enrolled (interest : Interest) :
    c.tags interest = (c.enrolled interest).map (·.tag) := by
  cases interest <;> simp only [tags, enrolled, List.map_map] <;> rfl

/-- What the tables hold is what the program has made and not ended. -/
structure Enrolled (log : Log ι) (c : Client σ ι) : Prop where
  idle : c.Idle
  /-- Identifiers were issued in their order, beginning anew when there were no more. -/
  issued : (tickets log).map (·.id) = (List.range (tickets log).length).map .ofNat
  nextId : c.nextId = .ofNat (tickets log).length
  enrolled : ∀ interest, c.enrolled interest = (live log).filter (·.interest = interest)
  /-- A name without subscriptions is not listed. -/
  listed : ∀ name subscriptions, c.events.subscriptions.find? name = some subscriptions →
    subscriptions ≠ []

namespace Enrolled

/-- Only the tables matter, and the next identifier. -/
theorem elsewhere (h : Enrolled log c) (hidle : d.Idle)
    (hsubscriptions : d.events.subscriptions = c.events.subscriptions)
    (hfollowers : d.presence.subscriptions = c.presence.subscriptions)
    (hnextId : d.nextId = c.nextId) : Enrolled log d where
  idle := hidle
  issued := h.issued
  nextId := hnextId.trans h.nextId
  enrolled interest := by
    rw [← h.enrolled interest]
    cases interest with
    | event name => simp only [Client.enrolled, subscribers, hsubscriptions]
    | presence => simp only [Client.enrolled, hfollowers]
  listed name subscriptions hfound := h.listed name subscriptions (hsubscriptions ▸ hfound)

theorem books (h : Enrolled log c) (hbooks : SameBooks c d) : Enrolled log d :=
  h.elsewhere (hbooks.idle h.idle) hbooks.subscriptions hbooks.followers hbooks.nextId

theorem posted (h : Enrolled log c) (m : Message) : Enrolled log (c.post m) :=
  h.books (.post c m)

/-- As long as there are identifiers left, none was issued twice. -/
theorem nodup (h : Enrolled log c) (hfew : (tickets log).length < UInt64.size) :
    ((tickets log).map (·.id)).Nodup := by
  rw [h.issued]
  refine List.Nodup.map_on (fun first hfirst second hsecond hsame => ?_) List.nodup_range
  have hbelow {n : Nat} (hn : n ∈ List.range (tickets log).length) : n < UInt64.size :=
    Nat.lt_trans (List.mem_range.mp hn) hfew
  rwa [← UInt64.toNat_inj, UInt64.toNat_ofNat_of_lt' (hbelow hfirst),
    UInt64.toNat_ofNat_of_lt' (hbelow hsecond)] at hsame

theorem nodup_enrolled (h : Enrolled log c) (hfew : (tickets log).length < UInt64.size)
    (interest : Interest) : ((c.enrolled interest).map (·.id)).Nodup := by
  rw [h.enrolled interest]
  exact ((List.filter_sublist.trans (live_sublist log)).map _).nodup (h.nodup hfew)

theorem tags (h : Enrolled log c) : c.tags = interested log := by
  funext interest
  rw [tags_eq_map_enrolled, h.enrolled interest]
  rfl

/-- A name is listed if a subscription to it lives. -/
theorem mem_names_iff (h : Enrolled log c) (name : String) :
    name ∈ c.events.subscriptions.names ↔ ∃ t ∈ live log, t.interest = .event name := by
  have henrolled : ((c.events.subscriptions.find? name).getD []).map (·.ticket (.event name)) =
      (live log).filter (·.interest = .event name) := h.enrolled (.event name)
  constructor
  · intro hname
    obtain ⟨subscriptions, hfound⟩ := NameMap.mem_names_iff.mp hname
    obtain ⟨s, hs⟩ := List.exists_mem_of_ne_nil _ (h.listed name subscriptions hfound)
    rw [hfound] at henrolled
    have hlive := henrolled ▸ List.mem_map_of_mem hs
    exact ⟨_, (List.mem_filter.mp hlive).1, rfl⟩
  · rintro ⟨t, ht, hinterest⟩
    have hlive := henrolled ▸ List.mem_filter.mpr ⟨ht, decide_eq_true hinterest⟩
    cases hfound : c.events.subscriptions.find? name with
    | none =>
      rw [hfound] at hlive
      cases hlive
    | some subscriptions => exact NameMap.mem_names_iff.mpr ⟨subscriptions, hfound⟩

/-- One more request keeps the tables in step with the history, if it changes them as it says. -/
theorem concat (h : Enrolled log c) (request : Request ι) (result : Except Error Answer)
    (hidle : d.Idle)
    (hlisted : ∀ name subscriptions, d.events.subscriptions.find? name = some subscriptions →
      subscriptions ≠ [])
    (hissued : ∀ t ∈ request.ticket? result, t.id = c.nextId)
    (hnextId : d.nextId = (request.ticket? result).elim c.nextId fun _ => c.nextId + 1)
    (henrolled : ∀ interest, d.enrolled interest =
      (c.enrolled interest).filter (fun t => !request.ends t) ++
        (request.ticket? result).toList.filter (·.interest = interest)) :
    Enrolled (log ++ [(request, result)]) d where
  idle := hidle
  issued := by
    rw [tickets_concat]
    cases hticket : request.ticket? result with
    | none => simpa using h.issued
    | some t =>
      have hid := hissued t hticket
      rw [Option.toList_some, List.length_append, List.length_singleton, List.range_succ,
        List.map_append, List.map_append, ← h.issued, List.map_singleton, List.map_singleton, hid,
        h.nextId]
  nextId := by
    rw [tickets_concat, hnextId]
    cases request.ticket? result with
    | none => simpa using h.nextId
    | some t =>
      rw [Option.elim_some, Option.toList_some, List.length_append, List.length_singleton,
        UInt64.ofNat_add, ← h.nextId]
      rfl
  enrolled interest := by
    rw [henrolled, h.enrolled, live_concat, List.filter_append, List.filter_filter,
      List.filter_filter]
    simp only [Bool.and_comm]
  listed := hlisted

/-- A request that ends none of the subscriptions leaves all of them. -/
theorem filter_eq_self {request : Request ι} {interest : Interest}
    (h : ∀ t ∈ c.enrolled interest, request.ends t = false) :
    (c.enrolled interest).filter (fun t => !request.ends t) = c.enrolled interest :=
  List.filter_eq_self.mpr fun t ht => by simp [h t ht]

/-- A request that makes no subscription takes those out that it ends. -/
theorem ending (h : Enrolled log c) (request : Request ι) (result : Except Error Answer)
    (hticket : request.ticket? result = none) (hidle : d.Idle)
    (hlisted : ∀ name subscriptions, d.events.subscriptions.find? name = some subscriptions →
      subscriptions ≠ [])
    (hnextId : d.nextId = c.nextId)
    (henrolled : ∀ interest, d.enrolled interest =
      (c.enrolled interest).filter (fun t => !request.ends t)) :
    Enrolled (log ++ [(request, result)]) d := by
  refine h.concat request result hidle hlisted ?_ ?_ fun interest => ?_
  · rw [hticket]
    nofun
  · rw [hticket, hnextId, Option.elim_none]
  · rw [hticket, henrolled, Option.toList_none, List.filter_nil, List.append_nil]

/-- A request that makes no subscription and ends none that lives. -/
theorem keeping (h : Enrolled log c) (request : Request ι) (result : Except Error Answer)
    (hticket : request.ticket? result = none)
    (hends : ∀ interest, ∀ t ∈ c.enrolled interest, request.ends t = false) :
    Enrolled (log ++ [(request, result)]) c :=
  h.ending request result hticket h.idle h.listed rfl fun interest =>
    (filter_eq_self (hends interest)).symm

end Enrolled

end Client

namespace Session

open Client

variable {c : Client σ ι}

theorem subscribe_ok {name : String} (hname : name ≠ "") (tag : String)
    (react : Nat → Bytes → List (Command ι)) :
    ∃ d, subscribe name tag react c = .ok c.nextId d := by
  unfold subscribe
  rw [if_neg hname]
  show ∃ d, (if ((c.events.subscriptions.find? name).getD []).isEmpty then _ else _ :
    Session σ ι SubscriptionId) _ = .ok c.nextId d
  split
  · exact ⟨_, rfl⟩
  · exact ⟨_, rfl⟩

theorem followPresence_ok (tag : String) (react : Nat → String → Bool → List (Command ι)) :
    ∃ d, followPresence tag react c = .ok c.nextId d := by
  show ∃ d, (if c.presence.subscriptions.isEmpty then _ else _ : Session σ ι SubscriptionId) _ =
    .ok c.nextId d
  split
  · exact ⟨_, rfl⟩
  · exact ⟨_, rfl⟩

end Session

namespace Client

open Session

variable {w : Surroundings σ ι} {c d : Client σ ι} {log : Log ι}

namespace Enrolled

/-- Subscribing to an event adds one to the end. -/
theorem subscribed (h : Enrolled log c) {name : String} (hname : name ≠ "") (tag : String)
    {react : Nat → Bytes → List (Command ι)}
    (hreact : ∀ before data, ∀ command ∈ react before data, command.isStimulus) :
    Enrolled (log ++ [(.command (.subscribe name tag react), .ok (.id c.nextId))])
      ((subscribe name tag react).after c) := by
  let table := c.events.subscriptions.insert name
    (c.subscribers name ++ [⟨c.nextId, c.calls.length, tag, react⟩])
  have hbooks : SameBooks (c.withTicket.withSubscriptions table)
      ((subscribe name tag react).after c) := by
    rw [subscribe_after c hname]
    dsimp only
    split
    · exact .post _ _
    · exact .refl _
  refine Enrolled.books (h.concat _ _ ?_ ?_ ?_ rfl fun interest => ?_) hbooks
  · exact (h.idle.numbered _ _).subscribed trivial (List.forall_mem_append.mpr
      ⟨h.idle.subscribers name, List.forall_mem_singleton.mpr hreact⟩)
  · exact NameMap.forall_insert h.listed (by simp)
  · rintro _ ⟨⟩
    rfl
  · rw [filter_eq_self fun _ _ => rfl]
    cases interest with
    | presence =>
      show c.enrolled .presence = _
      simp [Request.ticket?]
    | event other =>
      show ((table.find? other).getD []).map (·.ticket (.event other)) = _
      rw [NameMap.find?_insert]
      by_cases hother : other = name
      · rw [if_pos hother, Option.getD_some, List.map_append, hother]
        simp [Request.ticket?, Client.enrolled, Subscription.ticket]
      · rw [if_neg hother]
        simp [Request.ticket?, Ne.symm hother, Client.enrolled, Client.subscribers]

/-- Following presence adds one to the end. -/
theorem followed (h : Enrolled log c) (tag : String)
    {react : Nat → String → Bool → List (Command ι)}
    (hreact : ∀ before user joined, ∀ command ∈ react before user joined, command.isStimulus) :
    Enrolled (log ++ [(.command (.followPresence tag react), .ok (.id c.nextId))])
      ((followPresence tag react).after c) := by
  let followers := c.presence.subscriptions ++
    [⟨c.nextId, c.calls.length, tag, fun before told => react before told.1 told.2⟩]
  have hbooks : SameBooks (c.withTicket.withFollowers followers)
      ((followPresence tag react).after c) := by
    rw [followPresence_after]
    dsimp only
    split
    · exact .post _ _
    · exact .refl _
  refine Enrolled.books (c := c.withTicket.withFollowers followers)
    (h.concat _ _ ?_ h.listed ?_ rfl fun interest => ?_) hbooks
  · exact (h.idle.numbered _ _).withFollowers (List.forall_mem_append.mpr
      ⟨h.idle.followers, List.forall_mem_singleton.mpr fun before told => hreact before _ _⟩)
  · rintro _ ⟨⟩
    rfl
  · rw [filter_eq_self fun _ _ => rfl]
    cases interest with
    | event name =>
      show c.enrolled (.event name) = _
      simp [Request.ticket?]
    | presence =>
      show followers.map (·.ticket .presence) = _
      rw [List.map_append]
      simp [Request.ticket?, Client.enrolled, Subscription.ticket]

/-- A table in which those are missing whose subscriptions a request ends. -/
theorem reduced (h : Enrolled log c) (request : Request ι) (result : Except Error Answer)
    (hticket : request.ticket? result = none)
    (hpresence : ∀ t ∈ c.enrolled .presence, request.ends t = false)
    {table : NameMap (List (Subscription ι Bytes))}
    (htable : ∀ name subscriptions, table.find? name = some subscriptions →
      subscriptions ≠ [] ∧ subscriptions ⊆ c.subscribers name)
    (henrolled : ∀ name, ((table.find? name).getD []).map (·.ticket (.event name)) =
      (c.enrolled (.event name)).filter (fun t => !request.ends t)) :
    Enrolled (log ++ [(request, result)]) (c.withSubscriptions table) := by
  refine h.ending request result hticket ?_ (fun name subscriptions hfound =>
    (htable name subscriptions hfound).1) rfl fun interest => ?_
  · exact { h.idle with
      subscriptions := fun name subscriptions hfound => ⟨trivial, fun s hs =>
        h.idle.subscribers name s ((htable name subscriptions hfound).2 hs)⟩ }
  · cases interest with
    | presence => exact (filter_eq_self hpresence).symm
    | event name => exact henrolled name

end Enrolled

/-- Without repetition, taking the first of some identifier out takes out all of them. -/
theorem eraseP_id_eq_filter {α : Type} {list : List (Subscription ι α)}
    (h : (list.map (·.id)).Nodup) (id : SubscriptionId) :
    list.eraseP (·.id = id) = list.filter (·.id ≠ id) := by
  induction list with
  | nil => rfl
  | cons s rest ih =>
    rw [List.map_cons, List.nodup_cons] at h
    by_cases hs : s.id = id
    · have hothers : ∀ other ∈ rest, other.id ≠ id := fun other hother hsame =>
        h.1 (hs.trans hsame.symm ▸ List.mem_map_of_mem hother)
      rw [List.eraseP_cons, decide_eq_true hs, cond_true, List.filter_cons_of_neg (by simp [hs]),
        List.filter_eq_self.mpr fun other hother => decide_eq_true (hothers other hother)]
    · rw [List.eraseP_cons, decide_eq_false hs, cond_false,
        List.filter_cons_of_pos (by simpa using hs), ih h.2]

namespace Enrolled

theorem listed_subset (h : Enrolled log c) (name : String)
    (subscriptions : List (Subscription ι Bytes))
    (hfound : c.events.subscriptions.find? name = some subscriptions) :
    subscriptions ≠ [] ∧ subscriptions ⊆ c.subscribers name :=
  ⟨h.listed name subscriptions hfound,
    (subscribers_of_find? hfound).symm ▸ List.Subset.refl subscriptions⟩

/-- Unsubscribing from a name ends the subscriptions to it, and no others. -/
theorem unsubscribed (h : Enrolled log c) (name : String) (request : Request ι)
    (result : Except Error Answer) (hticket : request.ticket? result = none)
    (hothers : ∀ interest ≠ .event name, ∀ t ∈ c.enrolled interest, request.ends t = false)
    (hall : ∀ t ∈ c.enrolled (.event name), request.ends t) :
    Enrolled (log ++ [(request, result)]) ((unsubscribe name).after c) := by
  rw [unsubscribe_after]
  split
  · refine Enrolled.books (c := c.withSubscriptions (c.events.subscriptions.erase name))
      (h.reduced request result hticket (hothers _ nofun) ?_ fun other => ?_) (.post _ _)
    · exact NameMap.forall_erase h.listed_subset
    · rw [NameMap.find?_erase]
      by_cases hother : other = name
      · have hnone : (c.enrolled (.event name)).filter (fun t => !request.ends t) = [] :=
          List.filter_eq_nil_iff.mpr fun t ht => by simp [hall t ht]
        rw [if_pos hother, hother, hnone]
        rfl
      · rw [if_neg hother, filter_eq_self (hothers _ (by simpa using hother))]
        rfl
  · next hmissing =>
    refine h.keeping request result hticket fun interest t ht => ?_
    by_cases hinterest : interest = .event name
    · have hnone : c.events.subscriptions.find? name = none := by
        simpa [NameMap.contains] using hmissing
      obtain ⟨s, hs, -⟩ := List.mem_map.mp (hinterest ▸ ht : t ∈ c.enrolled (.event name))
      rw [subscribers_of_find? hnone] at hs
      cases hs
    · exact hothers interest hinterest t ht

section UnsubscribingOne

variable (name : String) (id : SubscriptionId) (result : Except Error Answer)

/-- Subscriptions to anything else do not end. -/
theorem ends_unsubscribeId_other {interest : Interest} (hinterest : interest ≠ .event name) :
    ∀ t ∈ c.enrolled interest,
      (Request.command (.unsubscribeId name id) : Request ι).ends t = false := by
  intro t ht
  simp [Request.ends, interest_of_mem_enrolled ht, hinterest]

/-- An identifier that belongs to no subscription to the name ends none. -/
theorem unsubscribedId_foreign (h : Enrolled log c)
    (hforeign : ∀ s ∈ c.subscribers name, s.id ≠ id) :
    Enrolled (log ++ [(.command (.unsubscribeId name id), result)]) c := by
  refine h.keeping _ result rfl fun interest t ht => ?_
  by_cases hinterest : interest = .event name
  · obtain ⟨s, hs, rfl⟩ := List.mem_map.mp (hinterest ▸ ht : t ∈ c.enrolled (.event name))
    simp [Request.ends, Subscription.ticket, hforeign s hs]
  · exact ends_unsubscribeId_other name id hinterest t ht

variable {name}

/-- If subscriptions to the name are left, they stay in the table. -/
theorem unsubscribedId_shortened (h : Enrolled log c)
    {subscriptions : List (Subscription ι Bytes)}
    (hfound : c.events.subscriptions.find? name = some subscriptions)
    (hnodup : (subscriptions.map (·.id)).Nodup)
    (hleft : subscriptions.eraseP (·.id = id) ≠ []) :
    Enrolled (log ++ [(.command (.unsubscribeId name id), result)])
      (c.withSubscriptions
        (c.events.subscriptions.insert name (subscriptions.eraseP (·.id = id)))) := by
  have hsubscribers : c.subscribers name = subscriptions := subscribers_of_find? hfound
  refine h.reduced _ result rfl (ends_unsubscribeId_other name id nofun) ?_ fun other => ?_
  · exact NameMap.forall_insert h.listed_subset ⟨hleft, hsubscribers ▸ List.eraseP_subset⟩
  · rw [NameMap.find?_insert]
    by_cases hother : other = name
    · rw [if_pos hother, hother, Option.getD_some, eraseP_id_eq_filter hnodup, Client.enrolled,
        hsubscribers, List.filter_map]
      congr 2
      funext s
      simp [Request.ends, Subscription.ticket]
    · have hinterest : Interest.event other ≠ .event name := by simpa using hother
      rw [if_neg hother, filter_eq_self (ends_unsubscribeId_other name id hinterest)]
      rfl

variable (name)

/-- Unsubscribing one subscription ends it, if it is to that name. -/
theorem unsubscribedId (h : Enrolled log c) (hfew : (tickets log).length < UInt64.size) :
    Enrolled (log ++ [(.command (.unsubscribeId name id), result)])
      ((unsubscribeId name id).after c) := by
  rw [unsubscribeId_after]
  cases hfound : c.events.subscriptions.find? name with
  | none =>
    exact h.unsubscribedId_foreign name id result
      (subscribers_of_find? hfound ▸ List.forall_mem_nil _)
  | some subscriptions =>
    have hsubscribers : c.subscribers name = subscriptions := subscribers_of_find? hfound
    have hnodup : (subscriptions.map (·.id)).Nodup := by
      have henrolled := h.nodup_enrolled hfew (.event name)
      rwa [Client.enrolled, hsubscribers, List.map_map] at henrolled
    dsimp only
    split
    · split
      · next hempty =>
        refine h.unsubscribed name _ result rfl (fun _ => ends_unsubscribeId_other name id)
          fun t ht => ?_
        obtain ⟨s, hs, rfl⟩ := List.mem_map.mp ht
        rw [List.isEmpty_iff, eraseP_id_eq_filter hnodup, List.filter_eq_nil_iff] at hempty
        have hid : s.id = id := by simpa using hempty s (hsubscribers ▸ hs)
        simp [Request.ends, Subscription.ticket, hid]
      · next hleft =>
        exact h.unsubscribedId_shortened id result hfound hnodup fun hempty =>
          hleft (List.isEmpty_iff.mpr hempty)
    · next hforeign =>
      refine h.unsubscribedId_foreign name id result fun s hs hid => hforeign ?_
      exact List.any_eq_true.mpr ⟨s, hsubscribers ▸ hs, decide_eq_true hid⟩

end UnsubscribingOne

/-- A list of followers in which those are missing whose subscriptions a request ends. -/
theorem withFollowers (h : Enrolled log c) (request : Request ι) (result : Except Error Answer)
    (hticket : request.ticket? result = none)
    (hevents : ∀ name, ∀ t ∈ c.enrolled (.event name), request.ends t = false)
    {followers : List (Subscription ι (String × Bool))}
    (hfollowers : followers ⊆ c.presence.subscriptions)
    (henrolled : followers.map (·.ticket .presence) =
      (c.enrolled .presence).filter (fun t => !request.ends t)) :
    Enrolled (log ++ [(request, result)]) (c.withFollowers followers) := by
  refine h.ending request result hticket (h.idle.withFollowers fun s hs => h.idle.followers s
    (hfollowers hs)) h.listed rfl fun interest => ?_
  cases interest with
  | presence => exact henrolled
  | event name => exact (filter_eq_self (hevents name)).symm

theorem unfollowed (h : Enrolled log c) (hfew : (tickets log).length < UInt64.size)
    (id : SubscriptionId) (result : Except Error Answer) :
    Enrolled (log ++ [(.command (.unfollowPresence id), result)])
      ((unfollowPresence id).after c) := by
  have hnodup : (c.presence.subscriptions.map (·.id)).Nodup := by
    have henrolled := h.nodup_enrolled hfew .presence
    rwa [Client.enrolled, List.map_map] at henrolled
  have hkept : Enrolled (log ++ [(.command (.unfollowPresence id), result)])
      (c.withFollowers (c.presence.subscriptions.eraseP (·.id = id))) := by
    refine h.withFollowers _ result rfl (fun name t ht => ?_) List.eraseP_subset ?_
    · simp [Request.ends, interest_of_mem_enrolled ht]
    · rw [eraseP_id_eq_filter hnodup id, Client.enrolled, List.filter_map]
      congr 2
      funext s
      simp [Request.ends, Subscription.ticket]
  rw [unfollowPresence_after]
  split
  · dsimp only
    split
    · exact hkept.posted _
    · exact hkept
  · next hforeign =>
    have hnone : ∀ s ∈ c.presence.subscriptions, ¬ decide (s.id = id) := fun s hs hid =>
      hforeign (List.any_eq_true.mpr ⟨s, hs, hid⟩)
    rwa [List.eraseP_of_forall_not hnone] at hkept

theorem unfollowedAll (h : Enrolled log c) (result : Except Error Answer) :
    Enrolled (log ++ [(.command .unfollowAllPresence, result)]) (unfollowAllPresence.after c) := by
  rw [unfollowAllPresence_after]
  refine Enrolled.books (c := c.withFollowers []) (h.withFollowers _ result rfl
    (fun name t ht => ?_) (List.nil_subset _) ?_) (.post _ _)
  · simp [Request.ends, interest_of_mem_enrolled ht]
  · exact (List.filter_eq_nil_iff.mpr fun t ht => by
      simp [Request.ends, interest_of_mem_enrolled ht]).symm

/-- A request that makes no subscription and cannot end any. -/
theorem uninvolved (h : Enrolled log c) {request : Request ι} {result : Except Error Answer}
    (hticket : request.ticket? result = none) (hends : ∀ t, request.ends t = false) :
    Enrolled (log ++ [(request, result)]) c :=
  h.keeping request result hticket fun _ t _ => hends t

/-- Whoever begins to listen for a pattern is on no list of subscriptions. -/
theorem listened (h : Enrolled log c) {pattern tag : String}
    {accepts : Nat → String → Bool → Bool} {react : Nat → String → Bool → List (Command ι)}
    (hreact : ∀ before name subscribed, ∀ command ∈ react before name subscribed,
      command.isStimulus) (result : Except Error Answer) :
    Enrolled (log ++ [(.command (.listen pattern tag accepts react), result)])
      ((listen pattern tag accepts react).after c) := by
  have hbefore : Enrolled (log ++ [(.command (.listen pattern tag accepts react), result)]) c :=
    h.uninvolved rfl fun _ => rfl
  by_cases hpattern : pattern = ""
  · subst hpattern
    exact hbefore
  · rw [listen_after c hpattern]
    split
    · exact hbefore
    · have hlistening : Enrolled (log ++ [(.command (.listen pattern tag accepts react), result)])
          (c.withSlot.withListeners (c.events.listeners.insert pattern
            ⟨⟨c.calls.length, tag, fun before told => react before told.1 told.2⟩, accepts⟩)) :=
        hbefore.elsewhere ((h.idle.numbered _ _).listened trivial
          fun before told => hreact before told.1 told.2) rfl rfl rfl
      exact hlistening.posted _

theorem unlistened (h : Enrolled log c) (pattern : String) (result : Except Error Answer) :
    Enrolled (log ++ [(.command (.unlisten pattern), result)]) ((unlisten pattern).after c) := by
  have hbefore : Enrolled (log ++ [(.command (.unlisten pattern), result)]) c :=
    h.uninvolved rfl fun _ => rfl
  have hdone : Enrolled (log ++ [(.command (.unlisten pattern), result)])
      (c.withListeners (c.events.listeners.erase pattern)) :=
    hbefore.elsewhere (h.idle.unlistened pattern) rfl rfl rfl
  rw [unlisten_after]
  split
  · exact hdone.posted _
  · exact hbefore

theorem queried (h : Enrolled log c) {tag : String} {react : List String → List (Command ι)}
    (hreact : ∀ users, ∀ command ∈ react users, command.isStimulus)
    (result : Except Error Answer) :
    Enrolled (log ++ [(.command (.queryPresence tag react), result)])
      ((queryPresence tag react).after c) := by
  have hasked : Enrolled (log ++ [(.command (.queryPresence tag react), result)])
      (c.withQuerents (c.presence.querents ++ [⟨tag, react⟩])) := by
    refine (h.uninvolved rfl fun _ => rfl).elsewhere (h.idle.withQuerents ?_) rfl rfl rfl
    exact List.forall_mem_append.mpr ⟨h.idle.querents, List.forall_mem_singleton.mpr hreact⟩
  rw [queryPresence_after]
  dsimp only
  split
  · exact hasked.posted _
  · exact hasked

/-- A program that asks to subscribe is refused, or has a subscription. -/
theorem subscribing (h : Enrolled log c) {name tag : String}
    {react : Nat → Bytes → List (Command ι)}
    (hreact : ∀ before data, ∀ command ∈ react before data, command.isStimulus)
    {result : Except Error Answer}
    (hrun : attempt (execute w (.command (.subscribe name tag react))) c = .ok result d) :
    Enrolled (log ++ [(.command (.subscribe name tag react), result)]) d := by
  by_cases hname : name = ""
  · subst hname
    cases hrun
    exact h.uninvolved rfl fun _ => rfl
  · obtain ⟨e, hsubscribed⟩ := subscribe_ok (c := c) hname tag react
    have hanswered : attempt (execute w (.command (.subscribe name tag react))) c =
      .ok (.ok (.id c.nextId)) e := attempt_of_ok (bind_of_ok hsubscribed)
    cases hrun.symm.trans hanswered
    rw [← after_of_ok hsubscribed]
    exact h.subscribed hname tag hreact

theorem following (h : Enrolled log c) {tag : String}
    {react : Nat → String → Bool → List (Command ι)}
    (hreact : ∀ before user joined, ∀ command ∈ react before user joined, command.isStimulus)
    {result : Except Error Answer}
    (hrun : attempt (execute w (.command (.followPresence tag react))) c = .ok result d) :
    Enrolled (log ++ [(.command (.followPresence tag react), result)]) d := by
  obtain ⟨e, hfollowed⟩ := followPresence_ok (c := c) tag react
  have hanswered : attempt (execute w (.command (.followPresence tag react))) c =
    .ok (.ok (.id c.nextId)) e := attempt_of_ok (bind_of_ok hfollowed)
  cases hrun.symm.trans hanswered
  rw [← after_of_ok hfollowed]
  exact h.followed tag hreact

section Emitting

variable (hpatience : 0 < w.patience)
include hpatience

/-- An event that is emitted, or refused, concerns no subscription as such. -/
theorem emitted (h : Enrolled log c) {command : Command ι} {m : Message}
    (hm : command.event? = some m) {result : Except Error Answer}
    (hticket : (Request.command command).ticket? result = none)
    (hends : ∀ t, (Request.command command).ends t = false)
    (hrun : attempt (execute w (.command command)) c = .ok result d) :
    Enrolled (log ++ [(.command command, result)]) d := by
  rw [eq_after_of_attempt hrun]
  exact (h.uninvolved hticket hends).books (perform_settled hpatience h.idle hm).books

theorem emittedJson (h : Enrolled log c) {name text : String} {result : Except Error Answer}
    (hrun : attempt (execute w (.command (.emitJson name text))) c = .ok result d) :
    Enrolled (log ++ [(.command (.emitJson name text), result)]) d := by
  cases htext : Json.decode (Utf8.encode text) with
  | error fault =>
    rw [eq_after_of_attempt hrun]
    refine (h.uninvolved rfl fun _ => rfl).books ?_
    simp only [execute, perform, htext]
    exact .refl c
  | ok v =>
    have hm : (Command.emitJson name text : Command ι).event? =
        some (emitMessage name (Payload.encode v)) := by simp only [Command.event?, htext]
    exact h.emitted hpatience hm rfl (fun _ => rfl) hrun

end Emitting

end Enrolled

/-- A request that returns is the first turn of a run, and the rest of the run follows. -/
theorem run_cons_of_returns {request : Request ι} (h : (execute w request).returns c)
    (rest : List (Request ι)) :
    ∃ result, attempt (execute w request) c = .ok result ((execute w request).after c) ∧
      run w c (request :: rest) =
        ⟨result, c, (execute w request).after c⟩ :: run w ((execute w request).after c) rest := by
  unfold Session.returns at h
  rw [run]
  unfold attempt Session.after
  cases hrun : execute w request c with
  | ok answer d => exact ⟨.ok answer, rfl, rfl⟩
  | error stop d =>
    cases stop with
    | failed x => exact ⟨.error x, rfl, rfl⟩
    | exhausted =>
      rw [hrun] at h
      cases h

theorem enrolled_create {uri : String} {config : Config} {state : σ}
    (h : create w uri config state = .ok c) : Enrolled [] c := by
  obtain ⟨link, rfl⟩ := create_ok h
  refine ⟨⟨nofun, nofun, nofun, nofun, nofun, nofun⟩, rfl, rfl, fun interest => ?_, nofun⟩
  cases interest <;> rfl

/-- The log of requests that all return, and of what they returned. -/
theorem Logged.of_allReturn (h : Logged w log c) {requests : List (Request ι)}
    (hreturn : allReturn w c requests) :
    Logged w (log ++ requests.zip ((run w c requests).map Turn.result))
      (requests.foldl (fun c request => (execute w request).after c) c) := by
  induction requests generalizing log c with
  | nil => simpa [run] using h
  | cons request rest ih =>
    obtain ⟨hfirst, hrest⟩ := Bool.and_eq_true_iff.mp hreturn
    obtain ⟨result, hresult, hrun⟩ := run_cons_of_returns hfirst rest
    have hlater := ih (h.executed request hresult) hrest
    rw [List.append_assoc] at hlater
    rw [hrun]
    exact hlater

section Histories

variable (hpatience : 0 < w.patience)
include hpatience

/-- A command keeps the tables in step with the history. -/
theorem Enrolled.performed (h : Enrolled log c) (hfew : (tickets log).length < UInt64.size)
    {command : Command ι} (hidle : command.IsIdle) {result : Except Error Answer}
    (hrun : attempt (execute w (.command command)) c = .ok result d) :
    Enrolled (log ++ [(.command command, result)]) d := by
  have hafter := eq_after_of_attempt hrun
  cases command with
  | emit name data => exact h.emitted hpatience rfl rfl (fun _ => rfl) hrun
  | emitJson name text => exact h.emittedJson hpatience hrun
  | subscribe name tag react =>
    exact h.subscribing (fun _ _ other hother => hidle other (.subscribe hother)) hrun
  | unsubscribe name =>
    rw [hafter, execute, perform, after_answer]
    refine h.unsubscribed name _ result rfl (fun interest hinterest t ht => ?_) fun t ht => ?_
    · simp [Request.ends, interest_of_mem_enrolled ht, hinterest]
    · simp [Request.ends, interest_of_mem_enrolled ht]
  | unsubscribeId name id =>
    rw [hafter, execute, perform, after_answer]
    exact h.unsubscribedId name id result hfew
  | listen pattern tag accepts react =>
    rw [hafter, execute, perform, after_answer]
    exact h.listened (fun _ _ _ other hother => hidle other (.listen hother)) result
  | unlisten pattern =>
    rw [hafter, execute, perform, after_answer]
    exact h.unlistened pattern result
  | followPresence tag react =>
    exact h.following (fun _ _ _ other hother => hidle other (.followPresence hother)) hrun
  | unfollowPresence id =>
    rw [hafter, execute, perform, after_answer]
    exact h.unfollowed hfew id result
  | unfollowAllPresence =>
    rw [hafter, execute, perform, after_answer]
    exact h.unfollowedAll result
  | queryPresence tag react =>
    rw [hafter, execute, perform, after_answer]
    exact h.queried (fun _ other hother => hidle other (.queryPresence hother)) result
  | stimulate i =>
    rw [hafter]
    exact (h.uninvolved rfl fun _ => rfl).books (.of_eq rfl rfl rfl)

/-- Whatever a program asks for, the tables stay in step with its history, if no callback asks for
anything. -/
theorem Enrolled.executed (h : Enrolled log c) (hfew : (tickets log).length < UInt64.size)
    {request : Request ι} (hidle : request.IsIdle) {result : Except Error Answer}
    (hrun : attempt (execute w request) c = .ok result d) :
    Enrolled (log ++ [(request, result)]) d := by
  by_cases hcommand : ∃ command, request = .command command
  · obtain ⟨command, rfl⟩ := hcommand
    exact h.performed hpatience hfew (hidle command · rfl) hrun
  · have hsettled := execute_settled (w := w) hpatience h.idle
      fun command h => hcommand ⟨command, h⟩
    rw [eq_after_of_attempt hrun]
    refine Enrolled.books (h.keeping request result ?_ ?_) hsettled.books
    · cases request with
      | command command => exact absurd ⟨command, rfl⟩ hcommand
      | _ => rfl
    · cases request with
      | command command => exact absurd ⟨command, rfl⟩ hcommand
      | _ => exact fun _ _ _ => rfl

theorem Logged.enrolled (h : Logged w log c) (hidle : ∀ turn ∈ log, turn.1.IsIdle)
    (hfew : (tickets log).length < UInt64.size) : Enrolled log c := by
  induction h with
  | created hmade => exact enrolled_create hmade
  | executed request _ hrun ih =>
    obtain ⟨hbefore, hrequest⟩ := List.forall_mem_append.mp hidle
    have hearlier := Nat.lt_of_le_of_lt (length_tickets_le ..) hfew
    exact (ih hbefore hearlier).executed hpatience hearlier (hrequest _ (.head _)) hrun

end Histories

end Client

end Realtime
