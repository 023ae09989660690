import DidMessaging.Agent.Sandbox
import DidMessaging.Proofs.Agent.Operations

namespace DidMessaging

open Program

/-- Only addressed requests are posted; all else is free. -/
def Routing.permits (routing : Routing) (past : List Step) (effect : Effect) : Prop :=
  ∀ request, effect = .exchange request → Addressed routing past request

namespace Routing

variable {routing : Routing} {past : List Step}

theorem permits_local {effect : Effect} (here : effect.isLocal = true) :
    routing.permits past effect := by
  rintro request rfl
  cases here

theorem keeps_post {uri envelope : String}
    (addressed : Addressed routing past (routing.request uri envelope)) :
    (routing.post uri envelope).Keeps routing.permits (fun _ _ => True) past := by
  obtain ⟨rest, split, asks⟩ := routing.post_eq_exchange uri envelope
  rw [split]
  refine keeps_perform_bind (fun _ same => ?_) fun outcome =>
    keeps_of_asks _ (asks (fun _ => rfl) outcome) fun _ _ => permits_local
  cases same
  exact addressed

theorem keeps_send (m : Message) (past : List Step) :
    (routing.send m).Keeps routing.permits (fun _ _ => True) past := by
  rw [send_eq_prepare]
  have free (past : List Step) (effect : Effect) (prepares : effect.Prepares m) :
      routing.permits past effect :=
    permits_local (Effect.local_of_prepares prepares)
  exact keeps_bind (keeps_prepare past free) fun later prepared => keeps_post

theorem admits_addressed (routing : Routing) :
    routing.Admits (fun _ => True) (fun _ => True) routing.permits where
  perform _ _ simple _ := permits_local (Effect.local_of_simple simple)
  deliver _ _ _ _ := permits_local rfl
  unpack _ _ := permits_local rfl
  pack _ _ _ := permits_local rfl
  send past m _ := keeps_send m past

end Routing

namespace Agent

theorem performAll_runs (agent : Agent) (ports : Ports σ) (operations : List Operation)
    (w : World σ) : ∀ deed ∈ agent.performAll ports operations w,
      ∃ before, deed = agent.perform ports before deed.operation := by
  induction operations generalizing w with
  | nil => intro deed member; cases member
  | cons operation operations ih =>
      intro deed member
      rcases List.mem_cons.1 member with rfl | later
      · exact ⟨w, rfl⟩
      · exact ih _ deed later

/-- Nothing is misdelivered: whatever is asked of an agent, however often and in whatever order, and
whatever the world answers, every request it posts is addressed by what the world has answered. -/
theorem requests_addressed (agent : Agent) (ports : Ports σ) (operations : List Operation)
    (w : World σ) (deed : Deed σ) (member : deed ∈ agent.performAll ports operations w)
    (before after : List Step) (request : Request) (answer : Except Error Response)
    (split : deed.run.steps = before ++ ⟨.exchange request, answer⟩ :: after) :
    Addressed agent.routing before request ∧
      ∀ step ∈ before, ∃ there, step.answer = (ports.answer there step.effect).1 := by
  obtain ⟨start, same⟩ := performAll_runs agent ports operations w deed member
  rw [same] at split
  obtain ⟨steps, -⟩ := deed.operation.steps_program agent agent.routing.admits_addressed ports start
  refine ⟨steps before _ after split request rfl, fun step asked => ?_⟩
  exact steps_answered _ ports start step (split ▸ List.mem_append_left _ asked)

end Agent

def relayedSandbox : Sandbox where
  documents := [
    ⟨"did:ex:b", [⟨"#1", ["Other"], ⟨"https://o", [], []⟩⟩,
      ⟨"#2", ["DIDCommMessaging"], ⟨"did:ex:m", [], []⟩⟩]⟩,
    ⟨"did:ex:m", [⟨"#1", ["DIDCommMessaging"], ⟨"https://m", [], []⟩⟩]⟩]

def relayedMessage : Message where
  id := "1"
  type := "greeting"
  sender := some "did:ex:a"
  recipient := some "did:ex:b"
  body := "hello"

theorem relayed_request_addressed :
    let agent : Agent := { mediator := "did:ex:m" }
    let deed := agent.perform (relayedSandbox.ports "id" "now") ⟨{}, none⟩ (.send relayedMessage)
    ∃ before request answer after, deed.run.steps = before ++ ⟨.exchange request, answer⟩ :: after ∧
      request.url = "https://m" ∧ Addressed agent.routing before request := by
  intro agent deed
  have posted : deed.run.requests.map Request.url = ["https://m"] := by decide +kernel
  obtain ⟨request, member, url⟩ : ∃ request ∈ deed.run.requests, request.url = "https://m" :=
    List.mem_map.1 (posted ▸ List.mem_cons_self)
  obtain ⟨before, answer, after, split⟩ := deed.run.exchange_of_mem_requests member
  have addressed := agent.requests_addressed (relayedSandbox.ports "id" "now")
    [.send relayedMessage] ⟨{}, none⟩ deed List.mem_cons_self before after request answer split
  exact ⟨before, request, answer, after, split, url, addressed.1⟩

end DidMessaging
