import DidMessaging.Proofs.Agent.Opening
import DidMessaging.Proofs.Message.Shapes

namespace DidMessaging

open Json

namespace AttachmentData

variable {given : List (String × Json)}

def IsSigned (given : List (String × Json)) : Prop :=
  ∃ value signature, Sole given "jws" value ∧ DetachedSignature.shape.fit value = some signature

def IsLinked (given : List (String × Json)) : Prop :=
  ∃ value targets hash, Sole given "links" value ∧ Shape.text.list.fit value = some targets ∧
    Sole given "hash" (.text hash)

theorem parse_eq_ok {value : Json} {text : String} (isText : value.IsText text)
    {data : AttachmentData} : shape.parse text = .ok data ↔ shape.fit value = some data := by
  obtain ⟨rest, tree, blank⟩ := isText
  simp only [Shape.parse, shape, Shape.union, tree, bind, Except.bind]
  cases variants.findSome? fun variant => variant value with
  | none => simp
  | some found => simp [blank, pure, Except.pure]

theorem signedShape_fit_eq_none {content : String} (sole : Sole given "base64" (.text content)) :
    signedShape.fit (.object given) = none ↔ ¬IsSigned given := by
  rw [Option.eq_none_iff_forall_ne_some]
  constructor
  · rintro nothing ⟨value, signature, jws, complete⟩
    exact nothing _ (signedShape_fit_object.2 ⟨sole, value, jws, complete⟩)
  · rintro unsigned ⟨found, signature⟩ fits
    obtain ⟨-, value, jws, complete⟩ := signedShape_fit_object.1 fits
    exact unsigned ⟨value, signature, jws, complete⟩

theorem linksShape_fit_eq_none : linksShape.fit (.object given) = none ↔ ¬IsLinked given := by
  rw [Option.eq_none_iff_forall_ne_some]
  constructor
  · rintro nothing ⟨value, targets, hash, members, listed, sole⟩
    exact nothing _ (linksShape_fit_object.2 ⟨⟨value, members, listed⟩, sole⟩)
  · rintro unlinked ⟨targets, hash⟩ fits
    obtain ⟨⟨value, members, listed⟩, sole⟩ := linksShape_fit_object.1 fits
    exact unlinked ⟨value, targets, hash, members, listed, sole⟩

theorem fit_object_signed {content : String} (sole : Sole given "base64" (.text content))
    (signed : IsSigned given) :
    ∃ signature, shape.fit (.object given) = some (.signed content signature) := by
  obtain ⟨value, signature, jws, complete⟩ := signed
  have fits := signedShape_fit_object.2 ⟨sole, value, jws, complete⟩
  refine ⟨signature, ?_⟩
  simp only [shape, Shape.union, variants, List.findSome?_cons, fits, Option.map_some]

theorem fit_object_linked {content : String} (sole : Sole given "base64" (.text content))
    (unsigned : ¬IsSigned given) (linked : IsLinked given) :
    ∃ targets hash, shape.fit (.object given) = some (.links targets hash) := by
  have signed := (signedShape_fit_eq_none sole).2 unsigned
  obtain ⟨value, targets, hash, members, listed, beside⟩ := linked
  have fits := linksShape_fit_object.2 ⟨⟨value, members, listed⟩, beside⟩
  refine ⟨targets, hash, ?_⟩
  simp only [shape, Shape.union, variants, List.findSome?_cons, signed, fits, Option.map_none,
    Option.map_some]

theorem fit_eq_base64 {value : Json} {content : String} :
    shape.fit value = some (.base64 content) ↔
      base64Shape.fit value = some content ∧ signedShape.fit value = none ∧
        linksShape.fit value = none := by
  simp only [shape, Shape.union, variants, List.findSome?_cons, List.findSome?_nil]
  cases signedShape.fit value with
  | some pair => simp
  | none =>
      cases linksShape.fit value with
      | some pair => simp
      | none =>
          cases base64Shape.fit value with
          | some found => simp
          | none => cases jsonShape.fit value <;> cases ChildReference.shape.fit value <;> simp

/-- Content is taken for unsigned exactly if it stands alone in its member, with neither a complete
signature nor complete links beside it. -/
theorem fit_object_base64 {content : String} :
    shape.fit (.object given) = some (.base64 content) ↔
      Sole given "base64" (.text content) ∧ ¬IsSigned given ∧ ¬IsLinked given := by
  rw [fit_eq_base64, linksShape_fit_eq_none]
  refine (and_congr_left' textShape_fit_object).trans ?_
  exact and_congr_right fun sole => and_congr_left' (signedShape_fit_eq_none sole)

end AttachmentData

def Run.unpacked (run : Run σ α) : List String :=
  run.steps.filterMap fun step =>
    match step.effect with
    | .unpack envelope => some envelope
    | _ => none

def Attachment.carried? (attachment : Attachment) : Option String :=
  (MailboxAnswer.envelope? attachment.data).bind Except.toOption

theorem Attachment.carried?_eq_some {attachment : Attachment} {envelope : String} :
    attachment.carried? = some envelope ↔
      attachment.data = .json envelope ∨ ∃ content, attachment.data = .base64 content ∧
        MailboxAnswer.decodeBase64 content = .ok envelope := by
  rw [← envelope?_eq_some, carried?]
  cases MailboxAnswer.envelope? attachment.data with
  | none => simp
  | some carried => cases carried <;> simp [Except.toOption]

open AttachmentData in
theorem Attachment.carried?_of_fit {given : List (String × Json)} {content : String}
    (sole : Sole given "base64" (.text content)) {attachment : Attachment}
    (fits : AttachmentData.shape.fit (.object given) = some attachment.data) {envelope : String} :
    attachment.carried? = some envelope ↔
      ¬IsSigned given ∧ ¬IsLinked given ∧ MailboxAnswer.decodeBase64 content = .ok envelope := by
  rw [carried?_eq_some]
  by_cases signed : IsSigned given
  · obtain ⟨signature, other⟩ := fit_object_signed sole signed
    simp [Option.some.inj (fits.symm.trans other), signed]
  by_cases linked : IsLinked given
  · obtain ⟨targets, hash, other⟩ := fit_object_linked sole signed linked
    simp [Option.some.inj (fits.symm.trans other), linked]
  · have base64 := fit_object_base64.2 ⟨sole, signed, linked⟩
    simp [Option.some.inj (fits.symm.trans base64), signed, linked]

namespace Program

variable {ports : Ports σ}

/-- Whatever is answered, the program succeeds, and what it unpacks is `envelopes`. -/
def Unpacks (ports : Ports σ) (envelopes : List String) (p : Program α) : Prop :=
  ∀ w, (∃ a, (p.run ports w).result = .ok a) ∧ (p.run ports w).unpacked = envelopes

theorem unpacks_done (a : α) : (Program.done a).Unpacks ports [] := fun _ => ⟨⟨a, rfl⟩, rfl⟩

theorem unpacks_bind {p : Program α} {f : α → Program β} {early late : List String}
    (first : p.Unpacks ports early) (rest : ∀ a, (f a).Unpacks ports late) :
    (p >>= f).Unpacks ports (early ++ late) := by
  intro w
  obtain ⟨⟨a, reached⟩, before⟩ := first w
  obtain ⟨succeeds, after⟩ := rest a (p.run ports w).world
  rw [run_bind_ok reached]
  refine ⟨succeeds, ?_⟩
  rw [← before, ← after]
  exact List.filterMap_append

theorem unpacks_bind_quiet {p : Program α} {f : α → Program β} {envelopes : List String}
    (first : p.Unpacks ports envelopes) (rest : ∀ a, (f a).Unpacks ports []) :
    (p >>= f).Unpacks ports envelopes := by
  have unpacks := unpacks_bind first rest
  rwa [List.append_nil] at unpacks

theorem unpacks_attempt_unpack (envelope : String) :
    (unpack envelope).attempt.Unpacks ports [envelope] := by
  intro w
  rw [run_attempt]
  refine ⟨⟨_, rfl⟩, ?_⟩
  change ((core (ports.unpack envelope w.outside).1 >>= _ : Program Message).run ports _ |>.after
    ⟨.unpack envelope, (ports.unpack envelope w.outside).1⟩).unpacked = _
  cases (ports.unpack envelope w.outside).1 <;> rfl

end Program

namespace MailboxAnswer

open Program

variable {ports : Ports σ}

theorem unpacks_unpackAttachment (attachment : Attachment) :
    (unpackAttachment attachment).Unpacks ports attachment.carried?.toList := by
  unfold unpackAttachment Attachment.carried?
  cases envelope? attachment.data with
  | none => exact unpacks_done none
  | some carried =>
      cases carried with
      | error e => exact fun _ => ⟨⟨none, rfl⟩, rfl⟩
      | ok envelope =>
          refine unpacks_bind_quiet (unpacks_attempt_unpack envelope) fun outcome => ?_
          cases outcome with
          | error e => exact fun _ => ⟨⟨none, rfl⟩, rfl⟩
          | ok m => exact unpacks_done _

theorem unpacks_unpackAll (attachments : List Attachment) :
    (unpackAll attachments).Unpacks ports (attachments.filterMap Attachment.carried?) := by
  induction attachments with
  | nil => exact unpacks_done []
  | cons attachment attachments ih =>
      have unpacks : (unpackAll (attachment :: attachments)).Unpacks ports
          (attachment.carried?.toList ++ attachments.filterMap Attachment.carried?) :=
        unpacks_bind (unpacks_unpackAttachment attachment) fun _ =>
          unpacks_bind_quiet ih fun _ => unpacks_done _
      rw [List.filterMap_cons]
      cases carried : attachment.carried? with
      | none => rwa [carried] at unpacks
      | some envelope => rwa [carried] at unpacks

end MailboxAnswer

/-- An object is taken for unsigned content exactly if a text stands alone in its member `base64`
and there are neither a complete signature nor complete links beside it, whatever else there is. A
complete signature makes signed content, and complete links without one make links. A delivery gives
the codec what its attachments carry, in order and nothing else; what was read from an object with
content carries that content only where it was taken for unsigned. -/
theorem AttachmentData.unsigned_iff {given : List (String × Json)} {text : String}
    (isText : (Json.object given).IsText text) (ports : Ports σ) (w : World σ) (content : String) :
    (shape.parse text = .ok (.base64 content) ↔
      Sole given "base64" (.text content) ∧ ¬IsSigned given ∧ ¬IsLinked given) ∧
    (Sole given "base64" (.text content) → IsSigned given → ∃ signature,
      shape.parse text = .ok (.signed content signature)) ∧
    (Sole given "base64" (.text content) → ¬IsSigned given → IsLinked given → ∃ targets hash,
      shape.parse text = .ok (.links targets hash)) ∧
    ∀ delivery : Message,
      let run := (MailboxAnswer.delivery delivery).messages.run ports w
      (∃ opened, run.result = .ok opened) ∧
      run.unpacked = delivery.attachments.filterMap Attachment.carried? ∧
      ∀ attachment ∈ delivery.attachments, shape.parse text = .ok attachment.data →
        Sole given "base64" (.text content) → ∀ envelope, attachment.carried? = some envelope ↔
          ¬IsSigned given ∧ ¬IsLinked given ∧
            MailboxAnswer.decodeBase64 content = .ok envelope := by
  simp only [parse_eq_ok isText]
  refine ⟨fit_object_base64, fit_object_signed, fit_object_linked, fun delivery => ?_⟩
  have unpacks : (MailboxAnswer.delivery delivery).messages.Unpacks ports
      (delivery.attachments.filterMap Attachment.carried?) := MailboxAnswer.unpacks_unpackAll _
  obtain ⟨succeeds, unpacked⟩ := unpacks w
  refine ⟨succeeds, unpacked, fun attachment _ fits sole envelope => ?_⟩
  exact Attachment.carried?_of_fit sole fits

def halfSigned : List (String × Json) :=
  [("base64", .text "QQ"), ("jws", .object
    [("header", .object [("children", .text "kid")]), ("protected", .text "e30")])]

theorem halfSigned_unsigned_iff :
    (Json.object halfSigned).IsText (Json.object halfSigned).render ∧
      Sole halfSigned "base64" (.text "QQ") ∧ ¬AttachmentData.IsSigned halfSigned ∧
      ¬AttachmentData.IsLinked halfSigned := by
  have isText : (Json.object halfSigned).IsText (Json.object halfSigned).render :=
    Json.isText_render (by simp [halfSigned, Readable, Shape.maxLevels])
  obtain ⟨unsigned, -, -, -⟩ :=
    AttachmentData.unsigned_iff isText (({} : Sandbox).ports "id" "now") ⟨{}, none⟩ "QQ"
  exact ⟨isText, unsigned.1 ((AttachmentData.parse_eq_ok isText).2 rfl)⟩

def halfSignedDelivery : Message where
  id := "1"
  type := MessageType.delivery.uri
  body := ""
  attachments := [{ id := "a", data := .base64 "QQ" }]

/-- A member `jws` stands beside the content, which is opened all the same. -/
theorem halfSigned_opened :
    let text := "\x7b\"base64\":\"QQ\",\"jws\":\x7b\"header\":\x7b\"children\":\"kid\"\x7d," ++
      "\"protected\":\"e30\"\x7d\x7d"
    let run := (MailboxAnswer.delivery halfSignedDelivery).messages.run
      (({} : Sandbox).ports "id" "now") ⟨{}, none⟩
    (Json.object halfSigned).IsText text ∧ "jws" ∈ halfSigned.map Prod.fst ∧
      AttachmentData.shape.parse text = .ok (.base64 "QQ") ∧
      (∀ attachment ∈ halfSignedDelivery.attachments, attachment.data = .base64 "QQ") ∧
      run.unpacked = ["A"] := by
  intro text run
  have same : (Json.object halfSigned).render = text := by decide +kernel
  have isText : (Json.object halfSigned).IsText text :=
    same ▸ Json.isText_render (by simp [halfSigned, Readable, Shape.maxLevels])
  exact ⟨isText, by decide +kernel, (AttachmentData.parse_eq_ok isText).2 rfl, by decide +kernel,
    by decide +kernel⟩

end DidMessaging
