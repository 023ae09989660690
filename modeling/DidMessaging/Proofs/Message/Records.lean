import DidMessaging.Did.Document
import DidMessaging.Proofs.Message.Requests

namespace DidMessaging

open Json

theorem Endpoint.lawful_shape : Endpoint.shape.Lawful 2 := by
  apply Shape.lawful_record _ _ (by decide) fun _ => rfl
  exact ⟨Member.lawful_required _ Shape.lawful_text, Member.lawful_whenFilled _ Shape.lawful_text,
    Member.lawful_whenFilled _ Shape.lawful_text, trivial⟩

theorem Service.lawful_shape : Service.shape.Lawful 3 := by
  apply Shape.lawful_record _ _ (by decide) fun _ => rfl
  exact ⟨Member.lawful_required _ Shape.lawful_text,
    Member.lawful_required _ (Shape.lawful_list Shape.lawful_text),
    Member.lawful_required _ Endpoint.lawful_shape, trivial⟩

theorem Document.lawful_shape : Document.shape.Lawful 5 := by
  apply Shape.lawful_record _ _ (by decide) fun _ => rfl
  exact ⟨Member.lawful_required _ Shape.lawful_text,
    Member.lawful_withDefault _ _ (Shape.lawful_list Service.lawful_shape), trivial⟩

theorem Mediator.lawful_shape : Mediator.shape.Lawful 1 := by
  apply Shape.lawful_record _ _ (by decide) fun _ => rfl
  have did (name : String) : (Member.required name .text).Lawful 0 :=
    Member.lawful_required name Shape.lawful_text
  exact ⟨did _, did _, did _, did _, trivial⟩

theorem Grant.lawful_shape : Grant.shape.Lawful 1 := by
  apply Shape.lawful_record _ _ (by decide) fun _ => rfl
  exact ⟨Member.lawful_required _ Shape.lawful_text, trivial⟩

theorem MailboxStatus.lawful_shape : MailboxStatus.shape.Lawful 1 := by
  apply Shape.lawful_record _ _ (by decide) fun _ => rfl
  have counter (name : String) : (Member.withDefault name Shape.count.optional none).Lawful 0 :=
    Member.lawful_withDefault name _ (Shape.lawful_optional Shape.lawful_count nofun)
  exact ⟨Member.lawful_withDefault _ _ (Shape.lawful_optional Shape.lawful_text nofun),
    Member.lawful_withDefault _ _ Shape.lawful_count, counter _, counter _, counter _, counter _,
    Member.lawful_withDefault _ _ (Shape.lawful_optional Shape.lawful_flag nofun), trivial⟩

/-- Every DID document, every record of a mediator and every body of a status, a registration and a
grant is read back from its text: with empty lists, which may not be written at all, with counters
of any size and with any of them missing. The order of members in the text does not matter. -/
theorem records_read_back :
    Document.shape.ReadsBack ∧ Mediator.shape.ReadsBack ∧ MailboxStatus.shape.ReadsBack ∧
      KeyListUpdate.shape.ReadsBack ∧ Grant.shape.ReadsBack :=
  ⟨Shape.readsBack_of_lawful Document.lawful_shape (by decide),
    Shape.readsBack_of_lawful Mediator.lawful_shape (by decide),
    Shape.readsBack_of_lawful MailboxStatus.lawful_shape (by decide),
    Shape.readsBack_of_lawful KeyListUpdate.lawful_shape (by decide),
    Shape.readsBack_of_lawful Grant.lawful_shape (by decide)⟩

example : Document.shape.render ⟨"did:ex:b", [⟨"#1", [], ⟨"https://b", [], ["k"]⟩⟩]⟩ =
    "\x7b\"id\":\"did:ex:b\",\"service\":[\x7b\"id\":\"#1\",\"type\":[]," ++
      "\"serviceEndpoint\":\x7b\"uri\":\"https://b\",\"routingKeys\":[\"k\"]\x7d\x7d]\x7d" := by
  decide +kernel

end DidMessaging
