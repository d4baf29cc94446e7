import Mathlib.Computability.Language
import Mathlib.Order.CompletePartialOrder
import Realtime.Phase

/-!
# The language of a successful exchange

A connection is up after an exchange exactly when the exchange, without its
heartbeats, starts with a word of a regular language: any number of redirects,
a challenge that is passed, any number of refused logins, and a login that is
let in. What comes after that is arbitrary, and the arguments of the messages
play no role.

Results:
1. `reaching_mul_le`: how each phase is reached, extended by one step.
2. `walk_mem_reaching`, `walk_of_mem`: the two directions, for headers alone.
3. `run_eq_connected_iff`: the language of whole exchanges.
-/

namespace Realtime

namespace Phase

open scoped Computability

/-! ## The regular language -/

def challenge : Party × Header := (.server, ⟨.connection, .challenge, false⟩)

def response : Party × Header := (.client, ⟨.connection, .challengeResponse, false⟩)

def credentials : Party × Header := (.client, ⟨.auth, .request, false⟩)

/-- The heartbeat of the server, and the answer of the client. -/
def heartbeats : List (Party × Header) :=
  [(.server, ⟨.connection, .ping, false⟩), (.client, ⟨.connection, .pong, false⟩)]

/-- A challenge that ends at another address. -/
def redirected : Language (Party × Header) :=
  {[challenge, response, (.server, ⟨.connection, .redirect, false⟩)]}

/-- A challenge that is passed. -/
def accepted : Language (Party × Header) :=
  {[challenge, response, (.server, ⟨.connection, .challengeResponse, true⟩)]}

/-- A login with credentials that are not valid. -/
def refused : Language (Party × Header) :=
  {[credentials, (.server, ⟨.auth, .invalidAuthData, false⟩)]}

/-- A login that is let in. -/
def admitted : Language (Party × Header) :=
  {[credentials, (.server, ⟨.auth, .request, true⟩)]}

/-- The senders and headers of an exchange. -/
def headers (exchange : List (Party × Message)) : List (Party × Header) :=
  exchange.map fun turn => (turn.1, turn.2.header)

/-- What an exchange says apart from heartbeats. -/
def said (exchange : List (Party × Message)) : List (Party × Header) :=
  (headers exchange).filter (· ∉ heartbeats)

theorem said_append (front back : List (Party × Message)) :
    said (front ++ back) = said front ++ said back := by
  simp [said, headers]

/-- The exchange can be cut wherever what it says can. -/
theorem said_eq_append {exchange : List (Party × Message)} {u v : List (Party × Header)}
    (h : said exchange = u ++ v) :
    ∃ front back, exchange = front ++ back ∧ said front = u ∧ said back = v := by
  obtain ⟨hs, ks, happend, hu, hv⟩ := List.filter_eq_append_iff.mp h
  obtain ⟨front, back, rfl, rfl, rfl⟩ := List.map_eq_append_iff.mp happend
  exact ⟨front, back, rfl, hu, hv⟩

/-! ## Walks without heartbeats -/

/-- The phase after a word of headers, none of which counts as a heartbeat. -/
def walk (p : Phase) (word : List (Party × Header)) : Phase :=
  word.foldl (fun q turn => q.step turn.1 turn.2) p

theorem walk_append (p : Phase) (u v : List (Party × Header)) :
    p.walk (u ++ v) = (p.walk u).walk v :=
  List.foldl_append

theorem isHeartbeat_iff {sender : Party} {h : Header} :
    isHeartbeat sender h = true ↔ (sender, h) ∈ heartbeats := by
  constructor
  · intro hbeat
    unfold isHeartbeat at hbeat
    split at hbeat
    · exact .head _
    · exact .tail _ (.head _)
    · cases hbeat
  · intro hmem
    rcases List.mem_cons.mp hmem with heq | hmem
    · cases heq; rfl
    · cases List.mem_singleton.mp hmem; rfl

theorem step_of_terminal {p : Phase} (h : p.isTerminal = true) (sender : Party) (k : Header) :
    p.step sender k = .error := by
  cases p <;> first | rfl | cases h

theorem walk_terminal {p : Phase} (h : p.isTerminal = true) (word : List (Party × Header)) :
    (p.walk word).isTerminal = true := by
  induction word generalizing p with
  | nil => exact h
  | cons turn word ih =>
    show ((p.step turn.1 turn.2).walk word).isTerminal = true
    rw [step_of_terminal h]
    exact ih rfl

theorem next_of_terminal {p : Phase} (h : p.isTerminal = true) (sender : Party) (m : Message) :
    p.next sender m = .error :=
  if_pos h

theorem run_terminal {p : Phase} (h : p.isTerminal = true)
    (exchange : List (Party × Message)) : (p.run exchange).isTerminal = true := by
  induction exchange generalizing p with
  | nil => exact h
  | cons turn exchange ih =>
    show ((p.next turn.1 turn.2).run exchange).isTerminal = true
    rw [next_of_terminal h]
    exact ih rfl

/-- An exchange leads to a living phase exactly when what it says does. Only in
the phases that nothing leads out of does a heartbeat change anything. -/
theorem run_eq_iff_walk {p q : Phase} (hq : q.isTerminal = false)
    (exchange : List (Party × Message)) : p.run exchange = q ↔ p.walk (said exchange) = q := by
  induction exchange generalizing p with
  | nil => rfl
  | cons turn exchange ih =>
    show (p.next turn.1 turn.2).run exchange = q ↔ _
    by_cases hp : p.isTerminal = true
    · constructor
      · rintro rfl
        rw [next_of_terminal hp, run_terminal rfl] at hq
        cases hq
      · rintro rfl
        rw [walk_terminal hp] at hq
        cases hq
    · by_cases hbeat : (turn.1, turn.2.header) ∈ heartbeats
      · have hsaid : said (turn :: exchange) = said exchange :=
          List.filter_cons_of_neg (by simpa using hbeat)
        rw [next, if_neg hp, if_pos (isHeartbeat_iff.mpr hbeat), hsaid]
        exact ih
      · have hsaid : said (turn :: exchange) = (turn.1, turn.2.header) :: said exchange :=
          List.filter_cons_of_pos (by simpa using hbeat)
        rw [next, if_neg hp, if_neg (mt isHeartbeat_iff.mp hbeat), hsaid]
        exact ih

/-! ## How each phase is reached -/

/-- The words that lead from an unopened connection to a phase. For the phases
that nothing leads out of, no more than that they are words is said. -/
def reaching : Phase → Language (Party × Header)
  | .awaitConnection => redirected∗
  | .challenging => redirected∗ * {[challenge]}
  | .challengingWait => redirected∗ * {[challenge, response]}
  | .awaitAuthentication => redirected∗ * accepted * refused∗
  | .authenticating => redirected∗ * accepted * refused∗ * {[credentials]}
  | .connected => redirected∗ * accepted * refused∗ * admitted * ⊤
  | .disconnected | .error => ⊤

theorem word_mul_word (u v : List (Party × Header)) :
    ({u} * {v} : Language (Party × Header)) = {u ++ v} :=
  Set.image2_singleton

/-- What leads to a phase, and then one step more, leads to the next phase. -/
theorem reaching_mul_le (p : Phase) (sender : Party) (h : Header) :
    reaching p * {[(sender, h)]} ≤ reaching (p.step sender h) := by
  fun_cases step p sender h
  · exact le_rfl
  · show redirected∗ * {[challenge]} * {[response]} ≤ redirected∗ * {[challenge, response]}
    rw [mul_assoc, word_mul_word]
    exact le_rfl
  · show redirected∗ * {[challenge, response]} * {[_]} ≤ redirected∗ * accepted * refused∗
    rw [mul_assoc redirected∗, word_mul_word]
    exact le_mul_of_one_le_right' one_le_kstar
  · show redirected∗ * {[challenge, response]} * {[_]} ≤ redirected∗
    rw [mul_assoc, word_mul_word]
    exact kstar_mul_le_kstar
  · exact le_top
  · exact le_rfl
  · show redirected∗ * accepted * refused∗ * {[credentials]} * {[_]} ≤
      redirected∗ * accepted * refused∗ * admitted * ⊤
    rw [mul_assoc _ {[credentials]}, word_mul_word]
    exact le_mul_of_one_le_right' le_top
  · exact le_top
  · exact le_top
  · show redirected∗ * accepted * refused∗ * {[credentials]} * {[_]} ≤
      redirected∗ * accepted * refused∗
    rw [mul_assoc _ {[credentials]}, word_mul_word, mul_assoc _ refused∗]
    exact mul_le_mul_right kstar_mul_le_kstar _
  · show redirected∗ * accepted * refused∗ * admitted * ⊤ * {[_]} ≤
      redirected∗ * accepted * refused∗ * admitted * ⊤
    rw [mul_assoc _ ⊤]
    exact mul_le_mul_right le_top _
  · exact le_top

/-- Every word is one of those that lead where it leads. -/
theorem walk_mem_reaching (word : List (Party × Header)) :
    word ∈ reaching (walk .awaitConnection word) := by
  induction word using List.reverseRecOn with
  | nil => exact Language.nil_mem_kstar _
  | append_singleton word turn ih =>
    rw [walk_append]
    exact reaching_mul_le _ turn.1 turn.2 (Language.append_mem_mul ih rfl)

/-- All words of the language lead from the one phase to the other. -/
def Leads (l : Language (Party × Header)) (p q : Phase) : Prop :=
  ∀ word ∈ l, p.walk word = q

theorem Leads.mul {l m : Language (Party × Header)} {p q r : Phase} (hl : Leads l p q)
    (hm : Leads m q r) : Leads (l * m) p r := by
  intro word hword
  obtain ⟨u, hu, v, hv, rfl⟩ := Language.mem_mul.mp hword
  rw [walk_append, hl u hu, hm v hv]

theorem Leads.kstar {l : Language (Party × Header)} {p : Phase} (hl : Leads l p p) :
    Leads l∗ p p := by
  intro word hword
  obtain ⟨parts, rfl, hparts⟩ := Language.mem_kstar.mp hword
  induction parts with
  | nil => rfl
  | cons part parts ih =>
    rw [List.flatten_cons, walk_append, hl part (hparts part (.head _))]
    have hrest : ∀ x ∈ parts, x ∈ l := fun x hx => hparts x (.tail _ hx)
    exact ih hrest (Language.join_mem_kstar hrest)

theorem leads_word {word : List (Party × Header)} {p q : Phase} (h : p.walk word = q) :
    Leads {word} p q := by
  intro u hu
  cases hu
  exact h

/-- The words of the language lead to a connection. -/
theorem leads_connected :
    Leads (redirected∗ * accepted * refused∗ * admitted) .awaitConnection .connected := by
  have hredirected : Leads redirected .awaitConnection .awaitConnection := leads_word rfl
  have haccepted : Leads accepted .awaitConnection .awaitAuthentication := leads_word rfl
  have hrefused : Leads refused .awaitAuthentication .awaitAuthentication := leads_word rfl
  have hadmitted : Leads admitted .awaitAuthentication .connected := leads_word rfl
  exact ((hredirected.kstar.mul haccepted).mul hrefused.kstar).mul hadmitted

/-- Who is connected stays so, whatever is said. -/
theorem walk_connected (word : List (Party × Header)) :
    walk .connected word = .connected := by
  induction word with
  | nil => rfl
  | cons turn word ih => exact ih

/-! ## Whole exchanges -/

theorem run_congr {exchange other : List (Party × Message)}
    (h : headers exchange = headers other) (p : Phase) : p.run exchange = p.run other := by
  have hrun : ∀ x : List (Party × Message), p.run x =
      (headers x).foldl (fun q turn => q.next turn.1 ⟨turn.2, []⟩) p := by
    intro x
    rw [headers, List.foldl_map]
    rfl
  rw [hrun, hrun, h]

/-- A connection is up after an exchange exactly when some front part of the
exchange consists, apart from heartbeats, of any number of redirects, a
challenge that is passed, any number of refused logins and a login that is let
in. The arguments of the messages never change the outcome, from any phase. -/
theorem run_eq_connected_iff :
    (∀ exchange, run .awaitConnection exchange = .connected ↔
      ∃ front back, exchange = front ++ back ∧
        said front ∈ redirected∗ * accepted * refused∗ * admitted) ∧
    ∀ exchange other, headers exchange = headers other →
      ∀ p : Phase, p.run exchange = p.run other := by
  refine ⟨fun exchange => ?_, fun exchange other => run_congr⟩
  rw [run_eq_iff_walk rfl]
  constructor
  · intro hwalk
    have hmem := walk_mem_reaching (said exchange)
    rw [hwalk] at hmem
    obtain ⟨u, hu, v, -, hsaid⟩ := Language.mem_mul.mp hmem
    obtain ⟨front, back, rfl, rfl, -⟩ := said_eq_append hsaid.symm
    exact ⟨front, back, rfl, hu⟩
  · rintro ⟨front, back, rfl, hfront⟩
    rw [said_append, walk_append, leads_connected _ hfront, walk_connected]

/-- One redirect, a ping in between, one refused login. -/
def detour : List (Party × Message) :=
  [ (.server, .plain .connection .challenge),
    (.client, .plain .connection .challengeResponse [Utf8.encode "ws://a"]),
    (.server, .plain .connection .redirect [Utf8.encode "ws://b"]),
    (.server, .plain .connection .challenge),
    (.server, .plain .connection .ping),
    (.client, .plain .connection .pong),
    (.client, .plain .connection .challengeResponse [Utf8.encode "ws://a"]),
    (.server, .ack .connection .challengeResponse),
    (.client, .plain .auth .request [Utf8.encode "guest"]),
    (.server, .plain .auth .invalidAuthData [Utf8.encode "no"]),
    (.client, .plain .auth .request [Utf8.encode "owner"]),
    (.server, .ack .auth .request) ]

/-- The same without any arguments. -/
def bareDetour : List (Party × Message) :=
  detour.map fun turn => (turn.1, ⟨turn.2.header, []⟩)

theorem mem_kstar_of_mem {l : Language (Party × Header)} {word : List (Party × Header)}
    (h : word ∈ l) : word ∈ l∗ :=
  Language.mem_kstar.mpr ⟨[word], List.flatten_singleton.symm, List.forall_mem_singleton.mpr h⟩

theorem run_eq_connected_iff_detour :
    (∀ p : Phase, p.run (detour ++ detour) = p.run (bareDetour ++ bareDetour)) ∧
      headers (detour ++ detour) = headers (bareDetour ++ bareDetour) ∧
      said detour ∈ redirected∗ * accepted * refused∗ * admitted ∧
      run .awaitConnection (detour ++ detour) = .connected := by
  have hheaders : headers (detour ++ detour) = headers (bareDetour ++ bareDetour) := by decide
  have hredirected : said (detour.take 3) ∈ redirected := rfl
  have haccepted : said ((detour.drop 3).take 5) ∈ accepted := rfl
  have hrefused : said ((detour.drop 8).take 2) ∈ refused := rfl
  have hadmitted : said (detour.drop 10) ∈ admitted := rfl
  have hsaid : said detour ∈ redirected∗ * accepted * refused∗ * admitted :=
    Language.append_mem_mul
      (Language.append_mem_mul
        (Language.append_mem_mul (mem_kstar_of_mem hredirected) haccepted)
        (mem_kstar_of_mem hrefused)) hadmitted
  exact ⟨run_eq_connected_iff.2 _ _ hheaders, hheaders, hsaid,
    (run_eq_connected_iff.1 _).mpr ⟨detour, detour, rfl, hsaid⟩⟩

end Phase

end Realtime
