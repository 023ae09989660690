import DidMessaging.Agent.Sandbox
import DidMessaging.Agent.LiveDelivery
import DidMessaging.Message.Envelope
import DidMessaging.Proofs.Agent.Conduct
import Mathlib.Data.List.Basic

/-! What a codec finds in envelopes, attachments and answers. Programs that only open envelopes come
to the same outcome wherever they are run. -/

namespace DidMessaging

/-- What is packed and unpacked depends on the codec alone. -/
structure Ports.Uses (ports : Ports σ) (codec : Codec) : Prop where
  pack : ∀ m s, (ports.pack m s).1 = codec.pack m
  unpack : ∀ envelope s, (ports.unpack envelope s).1 = codec.unpack envelope

theorem Sandbox.uses_codec (sandbox : Sandbox) (id time : String) :
    (sandbox.ports id time).Uses sandbox.codec :=
  ⟨fun _ _ => rfl, fun _ _ => rfl⟩

namespace Program

/-- In every world the program comes to `outcome`, and delivers `messages` on the way. -/
def Steady (ports : Ports σ) (outcome : Except AgentError α) (messages : List (String × Message))
    (p : Program α) : Prop :=
  ∀ w, (p.run ports w).result = outcome ∧ (p.run ports w).delivered = messages

variable {ports : Ports σ}

theorem steady_bind {p : Program α} {f : α → Program β} {a : α} {outcome : Except AgentError β}
    {early late : List (String × Message)} (first : p.Steady ports (.ok a) early)
    (rest : (f a).Steady ports outcome late) :
    (p >>= f).Steady ports outcome (early ++ late) := by
  intro w
  obtain ⟨reached, before⟩ := first w
  obtain ⟨result, after⟩ := rest (p.run ports w).world
  rw [run_bind_ok reached]
  refine ⟨result, ?_⟩
  rw [← before, ← after]
  exact List.filterMap_append

theorem steady_bind_quiet {p : Program α} {f : α → Program β} {a : α}
    {outcome : Except AgentError β} {messages : List (String × Message)}
    (first : p.Steady ports (.ok a) []) (rest : (f a).Steady ports outcome messages) :
    (p >>= f).Steady ports outcome messages :=
  steady_bind first rest

theorem steady_bind_error {p : Program α} {f : α → Program β} {e : AgentError}
    {messages : List (String × Message)} (first : p.Steady ports (.error e) messages) :
    (p >>= f).Steady ports (.error e) messages := by
  intro w
  obtain ⟨failed, delivered⟩ := first w
  rw [run_bind_error failed]
  exact ⟨rfl, delivered⟩

theorem steady_attempt {p : Program α} {outcome : Except AgentError α}
    {messages : List (String × Message)} (steady : p.Steady ports outcome messages) :
    p.attempt.Steady ports (.ok outcome) messages := by
  intro w
  obtain ⟨result, delivered⟩ := steady w
  rw [run_attempt, result]
  exact ⟨rfl, delivered⟩

theorem steady_done (a : α) : (Program.done a).Steady ports (.ok a) [] := fun _ => ⟨rfl, rfl⟩

theorem steady_core (outcome : Except Error α) :
    (core outcome).Steady ports (outcome.mapError .core) [] := by
  cases outcome <;> exact fun _ => ⟨rfl, rfl⟩

theorem steady_log (event : LogEvent) : (log event).Steady ports (.ok ()) [] :=
  fun _ => ⟨rfl, rfl⟩

theorem steady_unpack {codec : Codec} (uses : ports.Uses codec) (envelope : String) :
    (unpack envelope).Steady ports ((codec.unwrap envelope).mapError .core) [] := by
  have answered : (perform (.unpack envelope)).Steady ports (.ok (codec.unpack envelope)) [] :=
    fun w => ⟨congrArg Except.ok (uses.unpack envelope w.outside), rfl⟩
  unfold unpack Codec.unwrap
  refine steady_bind_quiet answered ?_
  cases codec.unpack envelope with
  | error e => exact steady_bind_error (steady_core (.error e))
  | ok m => exact steady_bind_quiet (steady_core (.ok m)) (steady_done _)

end Program

namespace Attachment

/-- The attachment carries an envelope, as JSON or in base64, in which `codec` finds `m`. -/
def Holds (codec : Codec) (attachment : Attachment) (m : Message) : Prop :=
  ∃ envelope, codec.unwrap envelope = .ok m ∧
    (attachment.data = .json envelope ∨ ∃ content, attachment.data = .base64 content ∧
      MailboxAnswer.decodeBase64 content = .ok envelope)

def opened? (codec : Codec) (attachment : Attachment) : Option (String × Message) :=
  match MailboxAnswer.envelope? attachment.data with
  | some (.ok envelope) => (codec.unwrap envelope).toOption.map fun m => (attachment.id, m)
  | _ => none

variable {codec : Codec} {attachment : Attachment}

theorem envelope?_eq_some {data : AttachmentData} {envelope : String} :
    MailboxAnswer.envelope? data = some (.ok envelope) ↔
      data = .json envelope ∨ ∃ content, data = .base64 content ∧
        MailboxAnswer.decodeBase64 content = .ok envelope := by
  cases data <;> simp [MailboxAnswer.envelope?]

theorem opened?_eq_some {entry : String × Message} :
    attachment.opened? codec = some entry ↔
      entry.1 = attachment.id ∧ attachment.Holds codec entry.2 := by
  obtain ⟨id, m⟩ := entry
  constructor
  · intro opened
    unfold opened? at opened
    split at opened
    · rename_i envelope carried
      obtain ⟨found, unwrapped, same⟩ := Option.map_eq_some_iff.1 opened
      cases same
      cases outcome : codec.unwrap envelope with
      | error e => rw [outcome] at unwrapped; cases unwrapped
      | ok m =>
          rw [outcome] at unwrapped
          cases unwrapped
          exact ⟨rfl, envelope, outcome, envelope?_eq_some.1 carried⟩
    · cases opened
  · rintro ⟨rfl, envelope, unwrapped, carried⟩
    rw [opened?, envelope?_eq_some.2 carried]
    exact congrArg (Option.map fun m => (attachment.id, m)) (congrArg Except.toOption unwrapped)

theorem opened?_eq_none :
    attachment.opened? codec = none ↔ ∀ m, ¬attachment.Holds codec m := by
  rw [Option.eq_none_iff_forall_ne_some]
  constructor
  · exact fun nothing m holds => nothing (attachment.id, m) (opened?_eq_some.2 ⟨rfl, holds⟩)
  · exact fun nothing entry opened => nothing entry.2 (opened?_eq_some.1 opened).2

end Attachment

namespace MailboxAnswer

open Program

variable {ports : Ports σ} {codec : Codec}

def opened (codec : Codec) : MailboxAnswer → List (String × Message)
  | .status _ => []
  | .delivery m => m.attachments.filterMap (Attachment.opened? codec)

theorem steady_unpackAttachment (uses : ports.Uses codec) (attachment : Attachment) :
    (unpackAttachment attachment).Steady ports (.ok (attachment.opened? codec)) [] := by
  unfold unpackAttachment Attachment.opened?
  cases envelope? attachment.data with
  | none => exact steady_done none
  | some envelope =>
      cases envelope with
      | error e =>
          refine steady_bind_quiet (steady_attempt (steady_bind_error (steady_core (.error e)))) ?_
          exact steady_bind_quiet (steady_log _) (steady_done _)
      | ok envelope =>
          have opens := steady_bind_quiet (steady_core (.ok envelope)) (steady_unpack uses envelope)
          refine steady_bind_quiet (steady_attempt opens) ?_
          dsimp only
          cases codec.unwrap envelope with
          | error e => exact steady_bind_quiet (steady_log _) (steady_done _)
          | ok m => exact steady_done _

theorem steady_unpackAll (uses : ports.Uses codec) (attachments : List Attachment) :
    (unpackAll attachments).Steady ports
      (.ok (attachments.filterMap (Attachment.opened? codec))) [] := by
  induction attachments with
  | nil => exact steady_done []
  | cons attachment attachments ih =>
      unfold unpackAll
      refine steady_bind_quiet (steady_unpackAttachment uses attachment) ?_
      refine steady_bind_quiet ih ?_
      rw [List.filterMap_cons]
      cases attachment.opened? codec <;> exact steady_done _

theorem steady_messages (uses : ports.Uses codec) (answer : MailboxAnswer) :
    answer.messages.Steady ports (.ok (answer.opened codec)) [] := by
  cases answer with
  | status m => exact steady_done []
  | delivery m => exact steady_unpackAll uses m.attachments

end MailboxAnswer

def Codec.response? (codec : Codec) (body : List UInt8) : Option Message :=
  match Text.ofUtf8 body with
  | .error _ => none
  | .ok text => if text = "" ∨ text = "null" then none else (codec.unwrap text).toOption

open Program in
theorem Routing.steady_readResponse {ports : Ports σ} {codec : Codec} (uses : ports.Uses codec)
    (id : String) (body : List UInt8) :
    (readResponse id body).Steady ports (.ok (codec.response? body)) [] := by
  unfold readResponse Codec.response?
  cases Text.ofUtf8 body with
  | error fault => exact steady_bind_quiet (steady_log _) (steady_done _)
  | ok text =>
      dsimp only
      split
      · exact steady_done none
      · refine steady_bind_quiet (steady_attempt (steady_unpack uses text)) ?_
        cases codec.unwrap text with
        | error e => exact steady_bind_quiet (steady_log _) (steady_done _)
        | ok response => exact steady_done _

end DidMessaging
