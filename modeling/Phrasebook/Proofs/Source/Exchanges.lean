import Phrasebook.Proofs.Json.Collapse
import Phrasebook.Proofs.Retry
import Phrasebook.Source.Remote

namespace Phrasebook

/-- Requests and what came back for them, in order. -/
abbrev Exchanges := List (HttpRequest × Option HttpReply)

def Endpoint.recorded (endpoint : Endpoint σ) : Endpoint (σ × Exchanges) where
  send request state :=
    let (answer, inner) := endpoint.send request state.1
    (answer, inner, state.2 ++ [(request, answer)])
  wait time state := (endpoint.wait time state.1, state.2)

def RemoteSource.recorded (source : RemoteSource σ) : RemoteSource (σ × Exchanges) :=
  ⟨source.remote, source.headers, source.endpoint.recorded, source.transform⟩

namespace HttpReply

/-- The status says that all went well. -/
def Succeeds (reply : HttpReply) : Prop :=
  200 ≤ reply.status ∧ reply.status < 300

/-- The body is the text of a JSON object. -/
def Carries (reply : HttpReply) (dictionary : Dictionary) : Prop :=
  Json.readText (Text.dropEncodingMark reply.body.toList) = .ok dictionary.toJson

/-- The status says that all went well, but the body is no JSON object. -/
def Unusable (reply : HttpReply) : Prop :=
  reply.Succeeds ∧ ∀ dictionary, ¬ reply.Carries dictionary

end HttpReply

/-- Nothing came back, or the server failed or was busy. -/
def Transient : Option HttpReply → Prop
  | none => True
  | some reply => (500 ≤ reply.status ∧ reply.status < 600) ∨ reply.status = 429

/-- The answers after which a request is sent again: those that may be better another time, but
also a body that is no JSON object and a status beyond all classes. -/
def AskedAgain (answer : Option HttpReply) : Prop :=
  Transient answer ∨ ∃ reply, answer = some reply ∧ (reply.Unusable ∨ 600 ≤ reply.status)

/-- What an answer means to the load that gets it. -/
inductive Answered (url label : String) : Option HttpReply → LoadOutcome → Prop where
  | unreachable : Answered url label none (.error (.source label none (Http.sendFault url)))
  | missing (reply : HttpReply) (missing : reply.status = 404) :
      Answered url label (some reply) (.error (.localeUnavailable label))
  | delivered (reply : HttpReply) (dictionary : Dictionary) (succeeds : reply.Succeeds)
      (carries : reply.Carries dictionary) : Answered url label (some reply) (.ok dictionary)
  | unusable (reply : HttpReply) (reason : String) (unusable : reply.Unusable) :
      Answered url label (some reply) (.error (.source label none reason))
  | refused (reply : HttpReply) (notMissing : reply.status ≠ 404) (fails : ¬ reply.Succeeds) :
      Answered url label (some reply) (.error (.source label (some reply.status)
        s!"HTTP {Http.statusText reply.status} from {url}"))

theorem isSuccess_iff {reply : HttpReply} :
    Http.isSuccess reply.status = true ↔ reply.Succeeds := by
  simp [Http.isSuccess, HttpReply.Succeeds]

theorem readText_distinct {text : List Char} {value : Json}
    (read : Json.readText text = .ok value) : value.Distinct := by
  unfold Json.readText at read
  cases document : Json.readDocument text with
  | error fault => rw [document] at read; contradiction
  | ok document' =>
      rw [document] at read
      cases read
      exact document'.collapse_distinct

theorem Answered.not_askedAgain {url label : String} {answer : Option HttpReply}
    {dictionary : Dictionary} (answered : Answered url label answer (.ok dictionary)) :
    ¬ AskedAgain answer := by
  cases answered with
  | delivered reply dictionary succeeds carries =>
      have range := succeeds
      unfold HttpReply.Succeeds at range
      rintro (transient | ⟨_, ⟨⟩, unusable | beyond⟩)
      · simp only [Transient] at transient
        omega
      · exact unusable.2 dictionary carries
      · omega

theorem Answered.isRecoverable_iff {url label : String} {answer : Option HttpReply} {error : Error}
    (answered : Answered url label answer (.error error)) :
    error.isRecoverable = true ↔ AskedAgain answer := by
  cases answered with
  | unreachable => exact iff_of_true rfl (.inl trivial)
  | missing reply missing =>
      refine iff_of_false Bool.false_ne_true ?_
      rintro (transient | ⟨_, ⟨⟩, unusable | beyond⟩)
      · simp only [Transient] at transient
        omega
      · have range := unusable.1
        unfold HttpReply.Succeeds at range
        omega
      · omega
  | unusable reply reason unusable => exact iff_of_true rfl (.inr ⟨reply, rfl, .inl unusable⟩)
  | refused reply notMissing fails =>
      simp only [Error.isRecoverable, Bool.or_eq_true, decide_eq_true_eq, beq_iff_eq]
      constructor
      · intro again
        by_cases beyond : 600 ≤ reply.status
        · exact .inr ⟨reply, rfl, .inr beyond⟩
        · exact .inl (by simp only [Transient]; omega)
      · rintro (transient | ⟨_, ⟨⟩, unusable | beyond⟩)
        · simp only [Transient] at transient
          omega
        · exact absurd unusable.1 fails
        · exact .inl (by omega)

namespace RemoteSource

variable (remote : Remote) (headers : List (String × String)) (endpoint : Endpoint σ)
  (url label locale : String)

/-- A source that takes every body as it is. -/
def plain : RemoteSource σ :=
  ⟨remote, headers, endpoint, none⟩

theorem readReply_answered (reply : HttpReply) :
    Answered url label (some reply)
      ((plain remote headers endpoint).readReply url label locale reply) := by
  unfold readReply
  by_cases missing : reply.status = 404
  · rw [if_pos missing]
    exact .missing reply missing
  rw [if_neg missing]
  by_cases succeeds : Http.isSuccess reply.status = true
  · rw [if_pos succeeds]
    dsimp only
    cases read : Json.readText (Text.dropEncodingMark reply.body.toList) with
    | error fault =>
        refine .unusable reply _ ⟨isSuccess_iff.mp succeeds, fun dictionary carries => ?_⟩
        rw [HttpReply.Carries, read] at carries
        contradiction
    | ok payload =>
        have kept := Json.collapse_of_distinct payload (readText_distinct read)
        dsimp only [readPayload, plain]
        cases opened : Dictionary.ofJson payload with
        | ok dictionary =>
            refine .delivered reply dictionary (isSuccess_iff.mp succeeds) ?_
            rw [HttpReply.Carries, read, Dictionary.toJson_of_ofJson opened, kept]
        | error error =>
            refine .unusable reply _ ⟨isSuccess_iff.mp succeeds, fun dictionary carries => ?_⟩
            rw [HttpReply.Carries, read] at carries
            cases carries
            rw [Dictionary.ofJson_toJson] at opened
            contradiction
  · rw [if_neg succeeds]
    exact .refused reply missing fun success => succeeds (isSuccess_iff.mpr success)

theorem fetchOnce_of_fault {source : RemoteSource σ} {url reason : String}
    (fault : Http.requestFault? url = some reason) (label locale : String) (state : σ) :
    source.fetchOnce url label locale state = (.error (.source label none reason), state) := by
  unfold fetchOnce
  rw [fault]
  rfl

theorem fetchOnce_of_reply {source : RemoteSource σ} {url : String} {state after : σ}
    {reply : HttpReply} (sendable : Http.requestFault? url = none)
    (sent : source.endpoint.send ⟨url, source.headers⟩ state = (some reply, after))
    (label locale : String) :
    source.fetchOnce url label locale state =
      (source.readReply url label locale reply, after) := by
  unfold fetchOnce
  rw [sendable, sent]

theorem fetchOnce_of_silence {source : RemoteSource σ} {url : String} {state after : σ}
    (sendable : Http.requestFault? url = none)
    (sent : source.endpoint.send ⟨url, source.headers⟩ state = (none, after))
    (label locale : String) :
    source.fetchOnce url label locale state =
      (.error (.source label none (Http.sendFault url)), after) := by
  unfold fetchOnce
  rw [sendable, sent]
  rfl

theorem recorded_send {endpoint : Endpoint σ} {request : HttpRequest} {state : σ × Exchanges}
    {answer : Option HttpReply} {inner : σ}
    (sent : endpoint.send request state.1 = (answer, inner)) :
    endpoint.recorded.send request state = (answer, inner, state.2 ++ [(request, answer)]) := by
  simp only [Endpoint.recorded, sent]

theorem fetchOnce_recorded {url : String} (sendable : Http.requestFault? url = none)
    (state : σ × Exchanges) :
    ∃ answer outcome inner, Answered url label answer outcome ∧
      (plain remote headers endpoint).recorded.fetchOnce url label locale state =
        (outcome, inner, state.2 ++ [(⟨url, headers⟩, answer)]) := by
  cases sent : endpoint.send ⟨url, headers⟩ state.1 with
  | mk answer inner =>
      have logged := recorded_send sent
      cases answer with
      | none => exact ⟨none, _, inner, .unreachable, fetchOnce_of_silence sendable logged ..⟩
      | some reply =>
          exact ⟨some reply, _, inner,
            readReply_answered remote headers endpoint.recorded url label locale reply,
            fetchOnce_of_reply sendable logged ..⟩

/-- The list of exchanges is only looked at. -/
theorem fetchOnce_forget (source : RemoteSource σ) (state : σ × Exchanges) :
    (source.recorded.fetchOnce url label locale state).map id Prod.fst =
      source.fetchOnce url label locale state.1 := by
  cases fault : Http.requestFault? url with
  | some reason =>
      rw [fetchOnce_of_fault fault, fetchOnce_of_fault fault]
      rfl
  | none =>
      cases sent : source.endpoint.send ⟨url, source.headers⟩ state.1 with
      | mk answer inner =>
          have logged := recorded_send sent
          cases answer with
          | none =>
              have failed := @fetchOnce_of_silence _ source.recorded _ _ _ fault logged label locale
              rw [failed, fetchOnce_of_silence fault sent]
              rfl
          | some reply =>
              have read := @fetchOnce_of_reply _ source.recorded _ _ _ _ fault logged label locale
              rw [read, fetchOnce_of_reply fault sent]
              rfl

end RemoteSource

/-- How the outcome of a load fits the answers that the endpoint gave. -/
inductive Concluded (remote : Remote) (headers : List (String × String)) (url label : String) :
    Exchanges → LoadOutcome → Prop where
  /-- There is no request that could be sent. -/
  | unsendable (reason : String) (fault : Http.requestFault? url = some reason) :
      Concluded remote headers url label [] (.error (.source label none reason))
  /-- Requests are sent until one of them is answered for good or no retry is left, and the last
  answer decides. -/
  | answered (earlier : Exchanges) (answer : Option HttpReply) (outcome : LoadOutcome)
      (retries : earlier.length ≤ remote.retry.maxRetries)
      (repeated : ∀ exchange ∈ earlier, exchange.1 = ⟨url, headers⟩ ∧ AskedAgain exchange.2)
      (answered : Answered url label answer outcome)
      (ends : ¬ AskedAgain answer ∨ earlier.length = remote.retry.maxRetries) :
      Concluded remote headers url label (earlier ++ [(⟨url, headers⟩, answer)]) outcome

namespace RemoteSource

variable (remote : Remote) (headers : List (String × String)) (endpoint : Endpoint σ)
  (url label locale : String)

theorem fetch_forget (source : RemoteSource σ) (state : σ × Exchanges) :
    (source.recorded.fetch url label locale state).map id Prod.fst =
      source.fetch url label locale state.1 := by
  have waits : ∀ time (state : σ × Exchanges),
      Prod.fst (source.endpoint.recorded.wait time state) = source.endpoint.wait time state.1 :=
    fun _ _ => rfl
  exact RetryPolicy.run_map waits (source.fetchOnce_forget url label locale) state

theorem fetch_of_fault {source : RemoteSource σ} {url reason : String}
    (fault : Http.requestFault? url = some reason) (label locale : String)
    (state : σ × Exchanges) :
    ∃ after, source.recorded.fetch url label locale state =
      (.error (.source label none reason), after, state.2) := by
  have failed := @fetchOnce_of_fault _ source.recorded _ _ fault label locale
  obtain ⟨last, before, _, same, result, _⟩ :=
    source.remote.retry.run_cases source.endpoint.recorded.wait
      (source.recorded.fetchOnce url label locale) Error.isRecoverable
      (fun _ reached => reached.2 = state.2)
      (fun attempt before error after same tried _ => by
        rw [failed] at tried
        cases tried
        exact same)
      (Eq.refl state.2)
  refine ⟨source.endpoint.wait (source.remote.retry.pause last) before.1, ?_⟩
  rw [← same]
  exact result.trans (failed _)

/-- While requests are repeated, there is one exchange for each attempt, and its answer was one to
ask again. -/
def Repeated (attempts : Nat) (exchanges : Exchanges) : Prop :=
  exchanges.length = attempts ∧
    ∀ exchange ∈ exchanges, exchange.1 = ⟨url, headers⟩ ∧ AskedAgain exchange.2

theorem Repeated.concat {headers : List (String × String)} {url : String} {attempts : Nat}
    {exchanges : Exchanges} (repeated : Repeated headers url attempts exchanges)
    {answer : Option HttpReply} (again : AskedAgain answer) :
    Repeated headers url (attempts + 1) (exchanges ++ [(⟨url, headers⟩, answer)]) := by
  refine ⟨by simp [repeated.1], fun exchange member => ?_⟩
  rcases List.mem_append.mp member with member | member
  · exact repeated.2 exchange member
  · cases List.mem_singleton.mp member
    exact ⟨rfl, again⟩

theorem fetch_concluded (state : σ) :
    ∃ outcome after exchanges, Concluded remote headers url label exchanges outcome ∧
      (plain remote headers endpoint).recorded.fetch url label locale (state, []) =
        (outcome, after, exchanges) := by
  cases fault : Http.requestFault? url with
  | some reason =>
      obtain ⟨after, result⟩ := fetch_of_fault fault label locale (state, [])
      exact ⟨_, after, [], .unsendable reason fault, result⟩
  | none =>
      have once := fetchOnce_recorded remote headers endpoint label locale fault
      obtain ⟨last, before, bound, repeated, result, ends⟩ :=
        remote.retry.run_cases endpoint.recorded.wait
          ((plain remote headers endpoint).recorded.fetchOnce url label locale)
          Error.isRecoverable
          (fun attempts reached => Repeated headers url attempts reached.2)
          (fun attempt before error after repeated tried again => by
            obtain ⟨answer, outcome, inner, answered, result⟩ := once (endpoint.recorded.wait
              (remote.retry.pause attempt) before)
            rw [result] at tried
            cases tried
            exact repeated.concat (answered.isRecoverable_iff.mp again))
          (show Repeated headers url 0 (state, []).2 from ⟨rfl, by simp⟩)
      obtain ⟨answer, outcome, inner, answered, lastResult⟩ :=
        once (endpoint.recorded.wait (remote.retry.pause last) before)
      rw [lastResult] at result ends
      -- The error tells as much as the answer: it is retried if and only if the answer is one to ask
      -- again.
      refine ⟨outcome, inner, _, .answered before.2 answer outcome ?_ repeated.2 answered ?_,
        result⟩
      · rw [repeated.1]
        exact bound
      · rw [repeated.1]
        refine ends.symm.imp_left fun final => ?_
        cases outcome with
        | ok dictionary => exact answered.not_askedAgain
        | error error =>
            rw [← answered.isRecoverable_iff, final error rfl]
            exact Bool.false_ne_true

theorem load_run (source : RemoteSource σ) (now : Int64) (locale : String) (state : σ) :
    source.load.run now locale state =
      source.fetch (source.remote.localeUrl locale) locale locale state := by
  simp only [Loader.run, load, Progress.finish]

theorem namespaces_run (source : RemoteSource σ) (now : Int64) (name : FragmentName) (state : σ) :
    source.namespaces.run now name state =
      source.fetch (source.remote.namespaceUrl name) name.label name.1 state := by
  simp only [Loader.run, namespaces, Progress.finish]

/-- The outcome of every load fits its answers, and keeping the list of exchanges changes neither
the outcome nor the state after it. -/
theorem loads_concluded (remote : Remote) (headers : List (String × String))
    (endpoint : Endpoint σ) (now : Int64) (state : σ) :
    (∀ locale, ∃ outcome after exchanges,
      (plain remote headers endpoint).load.run now locale state = (outcome, after) ∧
      (plain remote headers endpoint).recorded.load.run now locale (state, []) =
        (outcome, after, exchanges) ∧
      Concluded remote headers (remote.localeUrl locale) locale exchanges outcome) ∧
    ∀ name : FragmentName, ∃ outcome after exchanges,
      (plain remote headers endpoint).namespaces.run now name state = (outcome, after) ∧
      (plain remote headers endpoint).recorded.namespaces.run now name (state, []) =
        (outcome, after, exchanges) ∧
      Concluded remote headers (remote.namespaceUrl name) name.label exchanges outcome := by
  have fetched (url label locale : String) : ∃ outcome after exchanges,
      (plain remote headers endpoint).fetch url label locale state = (outcome, after) ∧
      (plain remote headers endpoint).recorded.fetch url label locale (state, []) =
        (outcome, after, exchanges) ∧
      Concluded remote headers url label exchanges outcome := by
    obtain ⟨outcome, after, exchanges, concluded, result⟩ :=
      fetch_concluded remote headers endpoint url label locale state
    have same := fetch_forget url label locale (plain remote headers endpoint) (state, [])
    rw [result] at same
    exact ⟨outcome, after, exchanges, same.symm, result, concluded⟩
  refine ⟨fun locale => ?_, fun name => ?_⟩
  · rw [load_run, load_run]
    exact fetched (remote.localeUrl locale) locale locale
  · rw [namespaces_run, namespaces_run]
    exact fetched (remote.namespaceUrl name) name.label name.1

/-- Answers from a list, one after the other. -/
def answering : Endpoint (List HttpReply) where
  send _ replies := (replies.head?, replies.tail)
  wait _ replies := replies

def mirror : Remote :=
  { Remote.ofUrl "https://example.org" with retry := .standard 1 }

def busyReply : HttpReply := ⟨200, "busy"⟩

def emptyReply : HttpReply := ⟨200, "\x7b\x7d"⟩

theorem load_mirror_busy :
    ¬ Transient (some busyReply) ∧
    (plain mirror [] answering).recorded.load.run 0 "de" ([busyReply, emptyReply], []) =
      (.ok .empty, [],
        [(⟨mirror.localeUrl "de", []⟩, some busyReply),
          (⟨mirror.localeUrl "de", []⟩, some emptyReply)]) := by
  let source := (plain mirror [] answering).recorded
  let url := mirror.localeUrl "de"
  have sendable : Http.requestFault? url = none := by decide +kernel
  obtain ⟨reason, busy⟩ : ∃ reason, source.readReply url "de" "de" busyReply =
      .error (.source "de" none reason) := ⟨_, rfl⟩
  have first := @fetchOnce_of_reply _ source url ([busyReply, emptyReply], [])
    ([emptyReply], [(⟨url, []⟩, some busyReply)]) busyReply sendable rfl "de" "de"
  rw [busy] at first
  have second := @fetchOnce_of_reply _ source url ([emptyReply], [(⟨url, []⟩, some busyReply)])
    ([], [(⟨url, []⟩, some busyReply), (⟨url, []⟩, some emptyReply)]) emptyReply sendable rfl "de"
    "de"
  have read : source.readReply url "de" "de" emptyReply = .ok .empty := rfl
  rw [read] at second
  refine ⟨by simp [Transient, busyReply], ?_⟩
  rw [load_run]
  refine (RetryPolicy.attemptsFrom_of_retryable first rfl).trans ?_
  exact RetryPolicy.attemptsFrom_of_ok second

end RemoteSource

end Phrasebook
