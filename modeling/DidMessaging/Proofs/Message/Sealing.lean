import DidMessaging.Proofs.Message.Shapes

namespace DidMessaging

open Json

namespace Codec

def Faithful (codec : Codec) : Prop :=
  ∀ m envelope, codec.pack m = .ok envelope → codec.unpack envelope = .ok m

/-- No message is found in an empty text, nor in the text `null`. -/
def RefusesBlank (codec : Codec) : Prop :=
  (∃ e, codec.unpack "" = .error e) ∧ ∃ e, codec.unpack "null" = .error e

/-- Envelopes are JSON texts of their messages, with the members of objects in any order. -/
structure IsPlain (codec : Codec) : Prop where
  pack (m : Message) : ∃ order, Rearranges order ∧
    codec.pack m = .ok ((Message.shape.write m).arranged order).render
  unpack (envelope : String) :
    codec.unpack envelope = (Message.shape.parse envelope).mapError .json

theorem isPlain_plain : plain.IsPlain where
  pack m := ⟨sortMembers, rearranges_sortMembers, by rw [← sorted_eq_arranged]; rfl⟩
  unpack _ := rfl

theorem faithful_of_isPlain {codec : Codec} (isPlain : codec.IsPlain) : codec.Faithful := by
  intro m envelope packed
  obtain ⟨order, rearranges, text⟩ := isPlain.pack m
  have lawful := Shape.lawful_mono Message.lawful_shape (by decide : 6 ≤ Shape.maxLevels)
  cases text.symm.trans packed
  rw [isPlain.unpack, Shape.parse_arranged lawful rearranges]
  rfl

theorem refusesBlank_of_isPlain {codec : Codec} (isPlain : codec.IsPlain) :
    codec.RefusesBlank := by
  rw [RefusesBlank, isPlain.unpack, isPlain.unpack]
  exact ⟨⟨_, rfl⟩, _, rfl⟩

theorem notBlank_of_unpack {codec : Codec} (refuses : codec.RefusesBlank) {envelope : String}
    {m : Message} (opened : codec.unpack envelope = .ok m) :
    ¬(envelope = "" ∨ envelope = "null") := by
  obtain ⟨⟨_, empty⟩, _, null⟩ := refuses
  rintro (rfl | rfl)
  · cases empty.symm.trans opened
  · cases null.symm.trans opened

theorem wrap_eq_ok {codec : Codec} {m : Message} {envelope : String} :
    codec.wrap m = .ok envelope ↔
      (m.sender.isSome ∧ m.recipient.isSome) ∧ codec.pack m = .ok envelope := by
  unfold wrap Message.parties
  cases m.recipient with
  | none => exact ⟨nofun, nofun⟩
  | some recipient =>
      cases m.sender with
      | none => exact ⟨nofun, nofun⟩
      | some sender => exact ⟨fun packed => ⟨⟨rfl, rfl⟩, packed⟩, And.right⟩

theorem unwrap_eq_ok {codec : Codec} {m : Message} {envelope : String} :
    codec.unwrap envelope = .ok m ↔
      ∃ opened, codec.unpack envelope = .ok opened ∧
        m = { opened with direction := .received } := by
  unfold unwrap
  cases codec.unpack envelope with
  | error e => exact ⟨nofun, nofun⟩
  | ok opened =>
      constructor
      · intro same
        cases same
        exact ⟨opened, rfl, rfl⟩
      · rintro ⟨_, same, rfl⟩
        cases same
        rfl

end Codec

/-- A message is read back from each of its JSON texts: as it is written, in canonical form, or with
the members of its objects in any other order. So an envelope that holds such a text can be sealed
whenever both parties are set, and what comes out is the message, as received. -/
theorem Message.survives_envelope {codec : Codec} (isPlain : codec.IsPlain) (m : Message) :
    shape.parse (shape.render m) = .ok m ∧ shape.parse (shape.write m).canonical = .ok m ∧
    (∀ order, Rearranges order → shape.parse ((shape.write m).arranged order).render = .ok m) ∧
    ((∃ envelope, codec.wrap m = .ok envelope) ↔ m.sender.isSome ∧ m.recipient.isSome) ∧
    ∀ envelope, codec.wrap m = .ok envelope →
      codec.unwrap envelope = .ok { m with direction := .received } := by
  have lawful := Shape.lawful_mono lawful_shape (by decide : 6 ≤ Shape.maxLevels)
  refine ⟨Shape.parse_render lawful m, Shape.parse_canonical lawful m, fun order rearranges =>
    Shape.parse_arranged lawful rearranges m, ⟨?_, fun set => ?_⟩, fun envelope sealed => ?_⟩
  · rintro ⟨envelope, sealed⟩
    exact (Codec.wrap_eq_ok.1 sealed).1
  · obtain ⟨order, -, packed⟩ := isPlain.pack m
    exact ⟨_, Codec.wrap_eq_ok.2 ⟨set, packed⟩⟩
  · have packed := (Codec.wrap_eq_ok.1 sealed).2
    exact Codec.unwrap_eq_ok.2 ⟨m, Codec.faithful_of_isPlain isPlain m envelope packed, rfl⟩

def variedMessage : Message where
  id := "1"
  type := "note"
  sender := some "did:ex:a"
  recipient := some "did:ex:b"
  body := "\"quoted\"\n\x01"
  headers := Headers.empty.insert "z" "é" |>.insert "a" ""
  attachments := [
    ⟨"a", some "text/plain", .signed "AA" ⟨⟨"b"⟩, "p", "s"⟩, some ["f", ""], some "g", some "0",
      some 18446744073709551615, some "d"⟩,
    { id := "b", data := .links [] "h" },
    { id := "b", data := .base64 "AA", byteCount := some 0 },
    { id := "c", data := .json "\x7b\"base64\":\"AA\"\x7d" },
    { id := "", data := .children ⟨"a"⟩, filenames := some [] }]
  acknowledged := ["1", "1"]

theorem varied_survives_envelope :
    Codec.plain.IsPlain ∧ Message.shape.parse (Message.shape.render variedMessage) =
        .ok variedMessage ∧
      ∃ envelope, Codec.plain.wrap variedMessage = .ok envelope ∧
        Codec.plain.unwrap envelope = .ok { variedMessage with direction := .received } := by
  obtain ⟨read, -, -, wraps, opens⟩ :=
    Message.survives_envelope Codec.isPlain_plain variedMessage
  obtain ⟨envelope, sealed⟩ := wraps.2 ⟨rfl, rfl⟩
  exact ⟨Codec.isPlain_plain, read, envelope, sealed, opens envelope sealed⟩

end DidMessaging
