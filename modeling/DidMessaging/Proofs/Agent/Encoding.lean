import DidMessaging.Agent.Mailbox
import DidMessaging.Proofs.Agent.Conduct
import DidMessaging.Proofs.Text.Base64

namespace DidMessaging.MailboxAnswer

open Program

theorem decodeBase64_eq_ok {content envelope : String} :
    decodeBase64 content = .ok envelope ↔ Text.Base64.Encodes content envelope := by
  rw [Text.Base64.encodes_iff, ← Text.Base64.decode_eq_ok, decodeBase64]
  constructor
  · intro decoded
    cases read : Text.Base64.decode (Text.utf8 content) with
    | error fault => rw [read] at decoded; cases decoded
    | ok bytes =>
        rw [read] at decoded
        dsimp only at decoded
        cases isText : Text.ofUtf8 bytes with
        | error fault => rw [isText] at decoded; cases decoded
        | ok text =>
            rw [isText] at decoded
            cases decoded
            rw [Text.ofUtf8_eq_ok_iff.1 isText]
  · intro read
    rw [read]
    dsimp only
    rw [Text.ofUtf8_eq_ok_iff.2 rfl]

theorem decodeBase64_eq_error {content : String}
    (foreign : ∀ envelope, ¬Text.Base64.Encodes content envelope) :
    ∃ e, decodeBase64 content = .error e := by
  cases decoded : decodeBase64 content with
  | ok envelope => exact absurd (decodeBase64_eq_ok.1 decoded) (foreign envelope)
  | error e => exact ⟨e, rfl⟩

theorem unpackAll_append (early late : List Attachment) :
    unpackAll (early ++ late) = do
      let found ← unpackAll early
      let others ← unpackAll late
      return found ++ others := by
  induction early with
  | nil => exact (bind_done (unpackAll late)).symm
  | cons attachment early ih =>
      rw [List.cons_append, unpackAll, unpackAll, ih]
      simp only [LawfulMonad.bind_assoc, pure_bind, List.append_assoc]

theorem unpackAttachment_congr {attachment other : Attachment} (id : attachment.id = other.id)
    (carried : envelope? attachment.data = envelope? other.data) :
    unpackAttachment attachment = unpackAttachment other := by
  unfold unpackAttachment
  rw [id, carried]

theorem unpackAttachment_refused {attachment : Attachment} {e : Error}
    (refused : envelope? attachment.data = some (.error e)) :
    unpackAttachment attachment = do
      log (.attachmentSkipped attachment.id (.core e))
      return none := by
  unfold unpackAttachment
  rw [refused]
  rfl

theorem unpackAll_succeeds (attachments : List Attachment) (ports : Ports σ) (w : World σ) :
    ∃ messages, ((unpackAll attachments).run ports w).result = .ok messages := by
  induction attachments generalizing w with
  | nil => exact ⟨[], rfl⟩
  | cons attachment attachments ih =>
      have first : ∃ found, ((unpackAttachment attachment).run ports w).result = .ok found := by
        unfold unpackAttachment
        cases envelope? attachment.data with
        | none => exact ⟨none, rfl⟩
        | some envelope =>
            have attempted := congrArg Run.result (run_attempt (core envelope >>= unpack) ports w)
            dsimp only at attempted ⊢
            rw [run_bind_ok attempted]
            cases ((core envelope >>= unpack).run ports w).result <;> exact ⟨_, rfl⟩
      obtain ⟨found, reached⟩ := first
      obtain ⟨others, rest⟩ := ih ((unpackAttachment attachment).run ports w).world
      refine ⟨found.toList ++ others, ?_⟩
      rw [unpackAll, run_bind_ok reached, run_bind_ok rest]
      rfl

theorem run_reporting {p : Program α} {f : α → Program β} {a : α} {ports : Ports σ} {w : World σ}
    (reached : (p.run ports w).result = .ok a) (event : LogEvent) :
    let plain := (p >>= f).run ports w
    let reporting := (p >>= fun a => log event >>= fun _ => f a).run ports w
    reporting.result = plain.result ∧ reporting.world = plain.world ∧
      ∃ early late, plain.steps = early ++ late ∧
        reporting.steps = early ++ ⟨.log event, ()⟩ :: late := by
  intro plain reporting
  simp only [plain, reporting, run_bind_ok reached]
  exact ⟨rfl, rfl, _, _, rfl, rfl⟩

/-- An attachment that is refused is reported and left out; the batch around it is as it would have
been without it. -/
theorem run_unpackAll_refused {attachment : Attachment} {e : Error}
    (refused : envelope? attachment.data = some (.error e)) (before after : List Attachment)
    (ports : Ports σ) (w : World σ) :
    let without := (unpackAll (before ++ after)).run ports w
    let whole := (unpackAll (before ++ attachment :: after)).run ports w
    whole.result = without.result ∧ whole.world = without.world ∧
      ∃ early late, without.steps = early ++ late ∧
        whole.steps = early ++ ⟨.log (.attachmentSkipped attachment.id (.core e)), ()⟩ :: late := by
  obtain ⟨found, reached⟩ := unpackAll_succeeds before ports w
  have whole : unpackAll (before ++ attachment :: after) = unpackAll before >>= fun found =>
      log (.attachmentSkipped attachment.id (.core e)) >>= fun _ =>
        unpackAll after >>= fun others => return found ++ others := by
    rw [unpackAll_append, unpackAll, unpackAttachment_refused refused]
    simp only [LawfulMonad.bind_assoc, pure_bind, Option.toList_none, List.nil_append]
  rw [whole, unpackAll_append]
  exact run_reporting reached _

/-- Base64 is another spelling of JSON content, and a faithful one. Exactly the encodings of a text
are decoded to it: its symbols, none of which is padding, and then all, some or none of the padding.
So whether a text is attached as JSON or in one of its encodings makes no difference to what is done
with a delivery. Content that encodes no text is refused; it is reported, and otherwise the delivery
is handled as if it were not attached. -/
theorem base64_as_json :
    (∀ content envelope,
      decodeBase64 content = .ok envelope ↔ Text.Base64.Encodes content envelope) ∧
    (∀ envelope, '=' ∉ (Text.Base64.text envelope 0).toList) ∧
    (∀ envelope pads, pads ≤ Text.Base64.room (Text.utf8 envelope) →
      decodeBase64 (Text.Base64.text envelope pads) = .ok envelope) ∧
    (∀ (d : Message) before (a : Attachment) after envelope content,
      Text.Base64.Encodes content envelope →
      (delivery { d with
          attachments := before ++ { a with data := .base64 content } :: after }).messages =
        (delivery { d with
          attachments := before ++ { a with data := .json envelope } :: after }).messages) ∧
    ∀ content, (∀ envelope, ¬Text.Base64.Encodes content envelope) →
      ∃ e, decodeBase64 content = .error e ∧
        ∀ (d : Message) before (a : Attachment) after, a.data = .base64 content →
          ∀ {σ : Type} (ports : Ports σ) (w : World σ),
            let without := (delivery { d with attachments := before ++ after }).messages.run ports w
            let whole :=
              (delivery { d with attachments := before ++ a :: after }).messages.run ports w
            whole.result = without.result ∧ whole.world = without.world ∧
              ∃ early late, without.steps = early ++ late ∧
                whole.steps = early ++ ⟨.log (.attachmentSkipped a.id (.core e)), ()⟩ :: late := by
  refine ⟨fun _ _ => decodeBase64_eq_ok, Text.Base64.padding_notMem_text, ?_, ?_, ?_⟩
  · intro envelope pads within
    exact decodeBase64_eq_ok.2 ⟨pads, within, Text.Base64.text_toList envelope pads⟩
  · intro d before a after envelope content encodes
    have same : unpackAttachment { a with data := .base64 content } =
        unpackAttachment { a with data := .json envelope } :=
      unpackAttachment_congr rfl (congrArg some (decodeBase64_eq_ok.2 encodes))
    simp only [messages, unpackAll_append, unpackAll, same]
  · intro content foreign
    obtain ⟨e, refused⟩ := decodeBase64_eq_error foreign
    refine ⟨e, refused, fun d before a after data σ ports w => ?_⟩
    have carried : envelope? a.data = some (.error e) := by rw [data, envelope?, refused]
    exact run_unpackAll_refused carried before after ports w

def unfaithful : List String := ["w6l", "w6k==", "w=6k", "w6+_", "_w"]

theorem accented_base64_as_json :
    let attached (data : AttachmentData) : MailboxAnswer :=
      .delivery { Message.make MessageType.delivery.uri "" ⟨"1", "now"⟩ with
        attachments := [{ id := "a", data := .json "before" }, { id := "b", data }] }
    Text.Base64.Encodes "w6k=" "é" ∧
    (attached (.base64 "w6k=")).messages = (attached (.json "é")).messages ∧
    ∀ content ∈ unfaithful, (∀ envelope, ¬Text.Base64.Encodes content envelope) ∧
      ∃ e, decodeBase64 content = .error e := by
  intro attached
  obtain ⟨decodes, -, -, replaces, refuses⟩ := base64_as_json
  have encodes : Text.Base64.Encodes "w6k=" "é" := ⟨1, by decide +kernel, by decide +kernel⟩
  refine ⟨encodes, replaces _ [_] ⟨"b", none, .json "", none, none, none, none, none⟩ [] _ _
    encodes, fun content member => ?_⟩
  have nothing : ∀ content ∈ unfaithful, (decodeBase64 content).toOption = none := by
    decide +kernel
  have foreign (envelope : String) : ¬Text.Base64.Encodes content envelope := by
    intro encodes
    have none := nothing content member
    rw [(decodes content envelope).2 encodes] at none
    cases none
  obtain ⟨e, refused, -⟩ := refuses content foreign
  exact ⟨foreign, e, refused⟩

end DidMessaging.MailboxAnswer
