import DidMessaging.Agent.Sandbox
import DidMessaging.Proofs.Agent.Delivery

namespace DidMessaging

open Program

def Effect.IsMarked (effect : Effect) : Prop :=
  ∀ id m, effect = .deliver id m → m.direction = .received

theorem Effect.marked_of_simple {effect : Effect} (simple : effect.isSimple = true) :
    effect.IsMarked := by
  rintro id m rfl
  cases simple

theorem Effect.marked_of_sends {m : Message} {effect : Effect} (sends : effect.Sends m) :
    effect.IsMarked := by
  rintro id m rfl
  cases sends

theorem Routing.admits_marked (routing : Routing) :
    routing.Admits (fun _ => True) (fun _ => True) fun _ effect => effect.IsMarked where
  perform _ _ simple _ := Effect.marked_of_simple simple
  deliver _ _ m received _ _ same := by cases same; exact received
  unpack _ _ := nofun
  pack _ _ _ := nofun
  send past m _ := keeps_of_asks past (routing.send_asks m) fun _ _ => Effect.marked_of_sends

/-- The messages that a deed has given out: those that it returned, and those that it delivered. -/
def Deed.obtained (deed : Deed σ) : List Message :=
  ((deed.run.result.toOption.map deed.operation.returned).getD []) ++
    deed.run.delivered.map Prod.snd

/-- What the system has given out was received. -/
theorem Agent.obtained_received (agent : Agent) (ports : Ports σ) (w : World σ)
    (operation : Operation) :
    ∀ m ∈ (agent.perform ports w operation).obtained, m.direction = .received := by
  obtain ⟨steps, returned⟩ := operation.steps_program agent agent.routing.admits_marked ports w
  intro m member
  rcases List.mem_append.1 member with given | passed
  · cases result : ((operation.program agent).run ports w).result with
    | error e =>
        have none : (agent.perform ports w operation).run.result = .error e := result
        rw [none] at given
        cases given
    | ok a =>
        have some : (agent.perform ports w operation).run.result = .ok a := result
        rw [some] at given
        exact returned a result m given
  · obtain ⟨entry, present, rfl⟩ := List.mem_map.1 passed
    obtain ⟨⟨effect, answer⟩, taken, same⟩ := List.mem_filterMap.1 present
    obtain ⟨before, after, split⟩ := List.append_of_mem taken
    have marked := steps before _ after split
    cases effect with
    | deliver id m =>
        cases same
        exact marked id m rfl
    | _ => cases same

inductive Message.Refused (m : Message) : AgentError → Prop where
  | noRecipient (missing : m.recipient = none) : Refused m (.core .noRecipient)
  | noSender (recipient : String) (present : m.recipient = some recipient)
      (missing : m.sender = none) : Refused m (.core .noSender)
  | alreadyReceived (sender recipient : String) (fromSet : m.sender = some sender)
      (toSet : m.recipient = some recipient) : Refused m (.alreadyReceived m.id)

theorem Routing.send_received (routing : Routing) {m : Message}
    (received : m.direction = .received) :
    ∃ e, m.Refused e ∧ routing.send m = .fail e ∧ routing.sendAndParse m = .fail e := by
  have refused : ∃ e, m.Refused e ∧ routing.send m = .fail e := by
    unfold send Message.parties
    cases toSet : m.recipient with
    | none => exact ⟨_, .noRecipient toSet, rfl⟩
    | some recipient =>
        cases fromSet : m.sender with
        | none => exact ⟨_, .noSender recipient toSet fromSet, rfl⟩
        | some sender =>
            refine ⟨_, .alreadyReceived sender recipient fromSet toSet, ?_⟩
            exact if_pos received
  obtain ⟨e, reason, fails⟩ := refused
  refine ⟨e, reason, fails, ?_⟩
  rw [sendAndParse, fails]
  rfl

/-- No message is echoed: whatever an agent gives out in the course of a run, whatever its envelope
has said of it, was received, and sending it at any later point fails for that reason or for a
missing party, before anything is asked of the world, so that nothing is resolved or posted. -/
theorem Agent.received_never_sent (agent : Agent) (ports : Ports σ) (operations : List Operation)
    (w : World σ) (before after : List (Deed σ)) (deed : Deed σ)
    (split : agent.performAll ports operations w = before ++ deed :: after) (m : Message)
    (member : m ∈ deed.obtained) :
    m.direction = .received ∧ ∀ later ∈ after,
      later.operation = .send m ∨ later.operation = .sendAndParse m →
        later.run.steps = [] ∧ ∃ e, m.Refused e ∧ later.run.result = .error e := by
  have ran (d : Deed σ) (present : d ∈ before ++ deed :: after) :
      ∃ there, d = agent.perform ports there d.operation :=
    agent.performAll_runs ports operations w d (split ▸ present)
  have received : m.direction = .received := by
    obtain ⟨there, same⟩ := ran deed (by simp)
    rw [same] at member
    exact agent.obtained_received ports there deed.operation m member
  refine ⟨received, fun later present => ?_⟩
  obtain ⟨there, same⟩ := ran later (by simp [present])
  obtain ⟨e, reason, fails, failsToo⟩ := agent.routing.send_received received
  rw [same]
  generalize later.operation = operation
  rintro (rfl | rfl)
  · have run : (agent.perform ports there (.send m)).run = (Program.fail e).run ports there :=
      congrArg (Program.run ports · there) fails
    rw [run]
    exact ⟨rfl, e, reason, rfl⟩
  · have run : (agent.perform ports there (.sendAndParse m)).run =
        (Program.fail e).run ports there :=
      congrArg (Program.run ports · there) failsToo
    rw [run]
    exact ⟨rfl, e, reason, rfl⟩

def boastingSandbox : Sandbox where
  codec.pack _ := .ok "sealed"
  codec.unpack _ := .ok { relayedMessage with direction := .sent }

theorem boasting_never_sent :
    let agent : Agent := { mediator := "did:ex:m" }
    let ports := { boastingSandbox with documents := relayedSandbox.documents }.ports "id" "now"
    let m := { relayedMessage with direction := .received }
    let opened := agent.perform ports ⟨{}, none⟩ (.unpack "sealed")
    let sent := agent.perform ports opened.run.world (.send m)
    agent.performAll ports [.unpack "sealed", .send m] ⟨{}, none⟩ = [] ++ opened :: [sent] ∧
      m ∈ opened.obtained ∧ m.direction = .received ∧ sent.run.steps = [] ∧
      ∃ e, m.Refused e ∧ sent.run.result = .error e := by
  intro agent ports m opened sent
  have split : agent.performAll ports [.unpack "sealed", .send m] ⟨{}, none⟩ =
      [] ++ opened :: [sent] := rfl
  have member : m ∈ opened.obtained := by
    have all : opened.obtained = [m] := rfl
    rw [all]
    exact List.mem_singleton_self m
  obtain ⟨received, later⟩ :=
    agent.received_never_sent ports _ _ [] [sent] opened split m member
  obtain ⟨quiet, refused⟩ := later sent List.mem_cons_self (.inl rfl)
  exact ⟨split, member, received, quiet, refused⟩

end DidMessaging
