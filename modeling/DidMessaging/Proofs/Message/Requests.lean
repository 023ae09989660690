import DidMessaging.Proofs.Message.Shapes

namespace DidMessaging

open Json

theorem KeyUpdate.lawful_shape : KeyUpdate.shape.Lawful 1 := by
  apply Shape.lawful_record _ _ (by decide) fun _ => rfl
  exact ⟨Member.lawful_required _ Shape.lawful_text, Member.lawful_required _ Shape.lawful_text,
    trivial⟩

theorem KeyListUpdate.lawful_shape : KeyListUpdate.shape.Lawful 3 := by
  apply Shape.lawful_record _ _ (by decide) fun _ => rfl
  exact ⟨Member.lawful_required _ (Shape.lawful_list KeyUpdate.lawful_shape), trivial⟩

namespace HostRequest

theorem readable_body (request : HostRequest) (host : String) : Readable 3 (request.body host) := by
  cases request with
  | mediation => simp [body, Readable]
  | registration dids => exact KeyListUpdate.lawful_shape.readable _
  | delivery limit =>
      have small : limit.toNat < wordLimit := by
        have := limit.toNat_lt
        unfold wordLimit
        omega
      simp [body, Readable, small]
  | received ids => simp [body, Readable]
  | liveDelivery on => simp [body, Readable]

theorem isText_message (request : HostRequest) (host mediator : String) (stamp : Stamp) :
    (request.body host).IsText (request.message host mediator stamp).body :=
  isText_render (readable_mono (by decide) (request.readable_body host))

theorem parse_registration (dids : List String) (host mediator : String) (stamp : Stamp) :
    KeyListUpdate.shape.parse ((registration dids).message host mediator stamp).body =
      .ok ⟨dids.map fun did => ⟨did, "add"⟩⟩ := by
  have lawful := Shape.lawful_mono KeyListUpdate.lawful_shape (by decide : 3 ≤ Shape.maxLevels)
  exact Shape.parse_render lawful _

theorem body_registration (dids : List String) (host : String) :
    (registration dids).body host =
      .object [("updates", .list (dids.map fun did =>
        .object [("recipient_did", .text did), ("action", .text "add")]))] := by
  change Json.object [("updates", .list ((dids.map _).map _))] = _
  rw [List.map_map]
  rfl

end HostRequest

end DidMessaging
