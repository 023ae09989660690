import DidMessaging.Proofs.Agent.Asking

/-! Answers to messages: what comes of sending, and which message is read in it. To read the answer
asks nobody else for anything, and whatever is in the answer, reading it does not fail. -/

namespace DidMessaging

def Effect.isResolution : Effect → Bool
  | .resolve _ => true
  | _ => false

theorem Effect.unresolving_of_simple {effect : Effect} (simple : effect.isSimple = true) :
    effect.isResolution = false := by
  cases effect <;> first | rfl | cases simple

def Ports.Opens (ports : Ports σ) (s : σ) (body : List UInt8) (m : Message) (later : σ) : Prop :=
  ∃ text, body = Text.utf8 text ∧ text ≠ "" ∧ text ≠ "null" ∧ ports.unpack text s = (.ok m, later)

theorem Ports.opens_text {ports : Ports σ} {s later : σ} {text : String} {m : Message} :
    ports.Opens s (Text.utf8 text) m later ↔
      ¬(text = "" ∨ text = "null") ∧ ports.unpack text s = (.ok m, later) := by
  rw [not_or, and_assoc]
  constructor
  · rintro ⟨other, same, opened⟩
    rwa [Text.utf8_injective same]
  · exact fun opened => ⟨text, rfl, opened⟩

theorem Ports.opens_unique {ports : Ports σ} {s later later' : σ} {body : List UInt8}
    {m m' : Message} (opened : ports.Opens s body m later) (again : ports.Opens s body m' later') :
    m = m' ∧ later = later' := by
  obtain ⟨text, rfl, -, -, answer⟩ := opened
  have same := answer.symm.trans (opens_text.1 again).2
  simpa using same

theorem Program.run_unpack {ports : Ports σ} {w : World σ} {text : String}
    {outcome : Except Error Message} {later : σ}
    (opened : ports.unpack text w.outside = (outcome, later)) :
    (unpack text).run ports w =
      ⟨(outcome.mapError .core).map fun m => { m with direction := .received },
        { w with outside := later }, [⟨.unpack text, outcome⟩]⟩ := by
  have answer : ports.answer w (.unpack text) = (outcome, { w with outside := later }) := by
    rw [Ports.answer, opened]
    rfl
  change ((core (ports.answer w (.unpack text)).1 >>= _ : Program Message).run ports
    (ports.answer w (.unpack text)).2).after ⟨.unpack text, (ports.answer w (.unpack text)).1⟩ = _
  rw [answer]
  cases outcome <;> rfl

theorem Program.result_unpack_eq_ok {ports : Ports σ} {w : World σ} {text : String} {r : Message} :
    ((unpack text).run ports w).result = .ok r ↔ ∃ m later,
      ports.unpack text w.outside = (.ok m, later) ∧ r = { m with direction := .received } := by
  rcases opened : ports.unpack text w.outside with ⟨outcome, later⟩
  rw [run_unpack opened]
  cases outcome with
  | error e => simp [Except.mapError, Except.map]
  | ok m => simp [Except.mapError, Except.map, eq_comm]

/-- The body is a text, neither empty nor `null`, and to unpack that in the world `w` gives `r`. -/
def Ports.Yields (ports : Ports σ) (w : World σ) (body : List UInt8) (r : Message) : Prop :=
  ∃ text, body = Text.utf8 text ∧ text ≠ "" ∧ text ≠ "null" ∧
    ((Program.unpack text).run ports w).result = .ok r

section Yields

variable {ports : Ports σ} {w : World σ} {body : List UInt8} {r : Message}

theorem Ports.yields_iff_opens : ports.Yields w body r ↔ ∃ m later,
    ports.Opens w.outside body m later ∧ r = { m with direction := .received } := by
  simp only [Yields, Opens, Program.result_unpack_eq_ok]
  constructor
  · rintro ⟨text, same, filled, other, m, later, opened, marked⟩
    exact ⟨m, later, ⟨text, same, filled, other, opened⟩, marked⟩
  · rintro ⟨m, later, ⟨text, same, filled, other, opened⟩, marked⟩
    exact ⟨text, same, filled, other, m, later, opened, marked⟩

theorem Ports.yields_unique {r' : Message} (yields : ports.Yields w body r)
    (again : ports.Yields w body r') : r = r' := by
  obtain ⟨m, later, opened, rfl⟩ := yields_iff_opens.1 yields
  obtain ⟨m', later', opened', rfl⟩ := yields_iff_opens.1 again
  rw [(opens_unique opened opened').1]

theorem Ports.not_yields_nil : ¬ports.Yields w [] r := by
  rintro ⟨text, empty, filled, -⟩
  exact filled (Text.utf8_injective empty.symm)

/-- What comes of reading a body in the world `w`: the message that it yields, or that there is
none. -/
inductive Ports.Reads (ports : Ports σ) (w : World σ) (body : List UInt8) :
    Except AgentError (Option Message) → Prop
  | found (r : Message) (yields : ports.Yields w body r) : Reads ports w body (.ok (some r))
  | nothing (unread : ∀ r, ¬ports.Yields w body r) : Reads ports w body (.ok none)

variable {outcome : Except AgentError (Option Message)}

theorem Ports.Reads.succeeds (reads : ports.Reads w body outcome) :
    ∃ parsed, outcome = .ok parsed := by
  cases reads <;> exact ⟨_, rfl⟩

theorem Ports.Reads.eq_some_iff (reads : ports.Reads w body outcome) :
    outcome = .ok (some r) ↔ ports.Yields w body r := by
  cases reads with
  | found found yields =>
      constructor
      · intro same
        cases same
        exact yields
      · intro again
        rw [yields_unique yields again]
  | nothing unread => exact iff_of_false nofun (unread r)

theorem Ports.Reads.eq_none_iff (reads : ports.Reads w body outcome) :
    outcome = .ok none ↔ ∀ r, ¬ports.Yields w body r := by
  cases reads with
  | found r yields => exact iff_of_false nofun fun unread => unread r yields
  | nothing unread => exact iff_of_true rfl unread

end Yields

namespace Routing

open Program

variable {ports : Ports σ} {w : World σ}

/-- The message in a response is read, or there is none in it. -/
theorem run_readResponse (ports : Ports σ) (id : String) (body : List UInt8) (w : World σ) :
    let run := (readResponse id body).run ports w
    (∃ m, ports.Opens w.outside body m run.world.outside ∧
        run.result = .ok (some { m with direction := .received })) ∨
      run.result = .ok none ∧ ∀ m later, ¬ports.Opens w.outside body m later := by
  cases decoded : Text.ofUtf8 body with
  | error fault =>
      have nothing (m : Message) (later : σ) : ¬ports.Opens w.outside body m later := by
        rintro ⟨text, rfl, -⟩
        cases decoded.symm.trans (Text.ofUtf8_eq_ok_iff.2 rfl)
      rw [readResponse, decoded]
      exact .inr ⟨rfl, nothing⟩
  | ok text =>
      obtain rfl : body = Text.utf8 text := Text.ofUtf8_eq_ok_iff.1 decoded
      simp only [readResponse, decoded, Ports.opens_text]
      by_cases blank : text = "" ∨ text = "null"
      · simp only [if_pos blank]
        exact .inr ⟨rfl, fun _ _ opened => opened.1 blank⟩
      · rcases opened : ports.unpack text w.outside with ⟨outcome, later⟩
        have attempted := run_attempt (unpack text) ports w
        rw [run_unpack opened] at attempted
        simp only [if_neg blank]
        rw [run_bind_ok (congrArg Run.result attempted), attempted]
        cases outcome with
        | error e => exact .inr ⟨rfl, fun _ _ found => by cases found.2⟩
        | ok m => exact .inl ⟨m, ⟨blank, rfl⟩, rfl⟩

theorem send_ok_iff (routing : Routing) (m : Message) (w : World σ)
    (answer : Option (List UInt8)) :
    let sending := (routing.send m).run ports w
    sending.result = .ok answer ↔
      ∃ request response, sending.exchanges = [(request, .ok response)] ∧
        response.content? = answer := by
  intro sending
  have once : (routing.send m).ExchangesOnce ports sent := routing.once_send m
  constructor
  · intro succeeded
    rcases once w with ⟨-, e, failed⟩ | ⟨request, reply, single, same⟩
    · cases succeeded.symm.trans failed
    · have came : sent reply = .ok answer := same.symm.trans succeeded
      cases reply with
      | error e => cases came
      | ok response => exact ⟨request, response, single, Except.ok.inj came⟩
  · rintro ⟨request, response, exchanged, rfl⟩
    rcases once w with ⟨none, -⟩ | ⟨_, reply, single, same⟩
    · cases none.symm.trans exchanged
    · cases single.symm.trans exchanged
      exact same

theorem sendAndParse_eq (routing : Routing) (m : Message) :
    routing.sendAndParse m = routing.send m >>= Agent.answered m :=
  rfl

theorem answered_unresolving (m : Message) (answer : Option (List UInt8)) :
    (Agent.answered m answer).Asks fun effect => effect.isResolution = false := by
  have orderly : (Agent.answered m answer).Orderly {} (fun _ => False) (fun _ => True) _ :=
    Agent.orderly_answered (fun _ _ => trivial) m answer
  exact orderly.asks (fun _ simple _ => Effect.unresolving_of_simple simple) (fun _ _ => rfl)
    (fun _ => rfl) fun _ none => none.elim

theorem reads_answered (ports : Ports σ) (m : Message) (response : Response) (w : World σ) :
    ports.Reads w response.body
      ((Agent.answered m response.content?).run ports w).result := by
  obtain ⟨status, body⟩ := response
  cases body with
  | nil => exact .nothing fun _ => Ports.not_yields_nil
  | cons byte bytes =>
      change ports.Reads w _ ((readResponse m.id (byte :: bytes)).run ports w).result
      rcases run_readResponse ports m.id (byte :: bytes) w with ⟨found, opened, read⟩ | ⟨read, none⟩
      · rw [read]
        exact .found _ (Ports.yields_iff_opens.2 ⟨found, _, opened, rfl⟩)
      · rw [read]
        refine .nothing fun r yields => ?_
        obtain ⟨found, later, opened, -⟩ := Ports.yields_iff_opens.1 yields
        exact none found later opened

theorem reads_sendAndParse {routing : Routing} {m : Message} {request : Request}
    {response : Response}
    (came : ((routing.send m).run ports w).exchanges = [(request, .ok response)]) :
    ports.Reads ((routing.send m).run ports w).world response.body
      ((routing.sendAndParse m).run ports w).result := by
  have sent : ((routing.send m).run ports w).result = .ok response.content? :=
    (routing.send_ok_iff m w _).2 ⟨request, response, came, rfl⟩
  rw [sendAndParse_eq, run_bind_ok sent]
  exact reads_answered ports m response _

theorem sendAndParse_eq_error {routing : Routing} {m : Message} {e : AgentError} :
    ((routing.sendAndParse m).run ports w).result = .error e ↔
      ((routing.send m).run ports w).result = .error e := by
  cases sent : ((routing.send m).run ports w).result with
  | error failure =>
      rw [sendAndParse_eq, run_bind_error sent]
      simp only [Except.error.injEq]
  | ok answer =>
      obtain ⟨request, response, came, -⟩ := (routing.send_ok_iff m w answer).1 sent
      obtain ⟨parsed, succeeded⟩ := (reads_sendAndParse came).succeeds
      rw [succeeded]
      exact iff_of_false nofun nofun

theorem sendAndParse_succeeds_iff {routing : Routing} {m : Message} :
    (∃ parsed, ((routing.sendAndParse m).run ports w).result = .ok parsed) ↔
      ∃ request response,
        ((routing.send m).run ports w).exchanges = [(request, .ok response)] := by
  constructor
  · rintro ⟨parsed, succeeded⟩
    cases sent : ((routing.send m).run ports w).result with
    | error e => cases succeeded.symm.trans (sendAndParse_eq_error.2 sent)
    | ok answer =>
        obtain ⟨request, response, came, -⟩ := (routing.send_ok_iff m w answer).1 sent
        exact ⟨request, response, came⟩
  · rintro ⟨request, response, came⟩
    exact (reads_sendAndParse came).succeeds

/-- To send a message and parse the answer is to send it and to make the best of the response.
Nothing is resolved or requested but what is resolved and requested in sending, all of which comes
first. It fails exactly as sending fails, and comes to an outcome whenever there is a response. If
the body of that is a text, neither empty nor `null`, which can be unpacked, the outcome is the
message that is unpacked; of any other body it is that there is no message. -/
theorem parses_what_sending_answers (routing : Routing) (m : Message) (ports : Ports σ)
    (w : World σ) :
    let sending := (routing.send m).run ports w
    let run := (routing.sendAndParse m).run ports w
    sending.steps <+: run.steps ∧ run.resolved = sending.resolved ∧
    run.exchanges = sending.exchanges ∧ run.requests = sending.requests ∧
    (∀ e, run.result = .error e ↔ sending.result = .error e) ∧
    ((∃ parsed, run.result = .ok parsed) ↔
      ∃ request response, sending.exchanges = [(request, .ok response)]) ∧
    ∀ request response, sending.exchanges = [(request, .ok response)] →
      (∀ r, run.result = .ok (some r) ↔ ports.Yields sending.world response.body r) ∧
      (run.result = .ok none ↔ ∀ r, ¬ports.Yields sending.world response.body r) := by
  intro sending run
  have resolved : run.resolved = sending.resolved := by
    refine picks_bind fun answer w => picks_nothing (answered_unresolving m answer) ?_ ports w
    intro effect _ elsewhere
    cases effect <;> first | rfl | cases elsewhere
  have exchanges : run.exchanges = sending.exchanges :=
    picks_bind fun answer _ => exchanges_of_local (Agent.answered_local m answer)
  have requests : run.requests = sending.requests :=
    calc
      run.requests = run.exchanges.map Prod.fst := run.requests_eq_map
      _ = sending.exchanges.map Prod.fst := by rw [exchanges]
      _ = sending.requests := sending.requests_eq_map.symm
  refine ⟨steps_prefix_bind _ _ ports w, resolved, exchanges, requests,
    fun _ => sendAndParse_eq_error, sendAndParse_succeeds_iff, fun request response came => ?_⟩
  have reads : ports.Reads sending.world response.body run.result := reads_sendAndParse came
  exact ⟨fun _ => reads.eq_some_iff, reads.eq_none_iff⟩

end Routing

def refusedWith (body : List UInt8) : World SandboxState :=
  ⟨{ replies := [.response ⟨500, body⟩] }, none⟩

def briefMessage : Message := Message.make "ack" "" ⟨"2", "now"⟩

theorem relayed_parses_what_sending_answers :
    let run (body : List UInt8) :=
      (Routing.sendAndParse {} relayedMessage).run (relayedSandbox.ports "id" "now")
        (refusedWith body)
    let envelope := Message.shape.render briefMessage
    (run (Text.utf8 envelope)).resolved = ["did:ex:b", "did:ex:m"] ∧
      (run (Text.utf8 envelope)).result =
        .ok (some { briefMessage with direction := .received }) ∧
      (run (Text.utf8 "null")).result = .ok none ∧ (run [0xC3]).result = .ok none := by
  intro run envelope
  let ports := relayedSandbox.ports "id" "now"
  let sending (body : List UInt8) := (Routing.send {} relayedMessage).run ports (refusedWith body)
  have general (body : List UInt8) :=
    Routing.parses_what_sending_answers {} relayedMessage ports (refusedWith body)
  have reads (body : List UInt8) :
      (∀ r, (run body).result = .ok (some r) ↔ ports.Yields (sending body).world body r) ∧
        ((run body).result = .ok none ↔ ∀ r, ¬ports.Yields (sending body).world body r) := by
    have answered : (sending body).exchanges.map Prod.snd = [.ok ⟨500, body⟩] := rfl
    obtain ⟨⟨request, _⟩, came, rfl⟩ := List.map_eq_singleton_iff.1 answered
    obtain ⟨-, -, -, -, -, -, reads⟩ := general body
    exact reads request ⟨500, body⟩ came
  obtain ⟨-, resolved, -⟩ := general (Text.utf8 envelope)
  refine ⟨resolved.trans (by decide +kernel), ?_, ?_, ?_⟩
  · have enough : 6 ≤ Json.Shape.maxLevels := by decide
    have lawful := Json.Shape.lawful_mono Message.lawful_shape enough
    have opened : Codec.plain.unpack envelope = .ok briefMessage := by
      rw [Codec.isPlain_plain.unpack, Json.Shape.parse_render lawful]
      rfl
    obtain ⟨filled, other⟩ :=
      not_or.1 (Codec.notBlank_of_unpack (Codec.refusesBlank_of_isPlain Codec.isPlain_plain) opened)
    have answer (s : SandboxState) : ports.unpack envelope s = (.ok briefMessage, s) := by
      change (Codec.plain.unpack envelope, s) = _
      rw [opened]
    refine ((reads _).1 _).2 ⟨envelope, rfl, filled, other, ?_⟩
    exact Program.result_unpack_eq_ok.2 ⟨briefMessage, _, answer _, rfl⟩
  · refine (reads _).2.2 ?_
    rintro r ⟨text, same, -, other, -⟩
    exact other (Text.utf8_injective same.symm)
  · refine (reads _).2.2 ?_
    rintro r ⟨text, same, -⟩
    have decoded : Text.ofUtf8 [0xC3] = .ok text := Text.ofUtf8_eq_ok_iff.2 same
    have broken : Text.ofUtf8 [0xC3] = .error (.incomplete 0) := by decide +kernel
    cases broken.symm.trans decoded

end DidMessaging
