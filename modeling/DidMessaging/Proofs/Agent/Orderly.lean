import DidMessaging.Proofs.Agent.Sending

/-! A judgment on programs that send and open messages. A program that is put together by its rules
keeps to all that its parts keep to. -/

namespace DidMessaging

def Effect.isSimple : Effect → Bool
  | .resolve _ | .pack _ | .unpack _ | .exchange _ | .deliver _ _ => false
  | _ => true

def Effect.isReading : Effect → Bool
  | .hold _ | .storeMediator _ => false
  | _ => true

def Effect.isLocking : Effect → Bool
  | .lock | .unlock => true
  | _ => false

def Effect.isIdle (effect : Effect) : Bool :=
  effect.isSimple && effect.isReading && !effect.isLocking

theorem Effect.local_of_simple {effect : Effect} (simple : effect.isSimple = true) :
    effect.isLocal = true := by
  cases effect <;> first | rfl | cases simple

theorem Effect.reading_of_sends {m : Message} {effect : Effect} (sends : effect.Sends m) :
    effect.isReading = true := by
  cases effect <;> first | rfl | cases sends

theorem Effect.unlocking_of_sends {m : Message} {effect : Effect} (sends : effect.Sends m) :
    effect.isLocking = false := by
  cases effect <;> first | rfl | cases sends

theorem Effect.reading_of_idle {effect : Effect} (idle : effect.isIdle = true) :
    effect.isReading = true := by
  simp only [isIdle, Bool.and_eq_true] at idle
  exact idle.1.2

theorem Effect.unlocking_of_idle {effect : Effect} (idle : effect.isIdle = true) :
    effect.isLocking = false := by
  simpa [isIdle] using (Bool.and_eq_true_iff.1 idle).2

namespace Program

/-- The program packs and sends only messages that are `proper`, delivers only messages that were
received, and has no other effects but to unpack and what is simple and `allowed`; and `post` holds
of what it gives. -/
inductive Orderly (routing : Routing) (proper : Message → Prop) (allowed : Effect → Prop) :
    {α : Type} → Program α → (α → Prop) → Prop where
  | done {post : α → Prop} (a : α) (holds : post a) : Orderly routing proper allowed (.done a) post
  | fail {post : α → Prop} (error : AgentError) :
      Orderly routing proper allowed (.fail error) post
  | perform {effect : Effect} (simple : effect.isSimple = true) (present : allowed effect) :
      Orderly routing proper allowed (perform effect) fun _ => True
  | deliver (attachmentId : String) {m : Message} (received : m.direction = .received) :
      Orderly routing proper allowed (Program.perform (.deliver attachmentId m)) fun _ => True
  | unpack (envelope : String) :
      Orderly routing proper allowed (unpack envelope) fun m => m.direction = .received
  | pack {m : Message} (isProper : proper m) :
      Orderly routing proper allowed (pack m) fun _ => True
  | send {m : Message} (isProper : proper m) :
      Orderly routing proper allowed (routing.send m) fun _ => True
  | bind {p : Program α} {f : α → Program β} {Q : α → Prop} {R : β → Prop}
      (first : Orderly routing proper allowed p Q)
      (rest : ∀ a, Q a → Orderly routing proper allowed (f a) R) :
      Orderly routing proper allowed (p >>= f) R
  | attempt {p : Program α} {Q : α → Prop} (orderly : Orderly routing proper allowed p Q) :
      Orderly routing proper allowed p.attempt fun outcome => ∀ a, outcome = .ok a → Q a
  | weaken {p : Program α} {Q R : α → Prop} (orderly : Orderly routing proper allowed p Q)
      (implied : ∀ a, Q a → R a) : Orderly routing proper allowed p R

end Program

/-- What the rules of `Orderly` allow is permitted. -/
structure Routing.Admits (routing : Routing) (proper : Message → Prop) (allowed : Effect → Prop)
    (permits : List Step → Effect → Prop) : Prop where
  perform : ∀ past effect, effect.isSimple = true → allowed effect → permits past effect
  deliver : ∀ past attachmentId m, m.direction = .received →
    permits past (.deliver attachmentId m)
  unpack : ∀ past envelope, permits past (.unpack envelope)
  pack : ∀ past m, proper m → permits past (.pack m)
  send : ∀ past m, proper m → (routing.send m).Keeps permits (fun _ _ => True) past

namespace Program

variable {routing : Routing} {proper : Message → Prop} {allowed : Effect → Prop}
  {p : Program α} {post : α → Prop}

theorem Orderly.keeps (orderly : p.Orderly routing proper allowed post)
    {permits : List Step → Effect → Prop} (admits : routing.Admits proper allowed permits)
    (past : List Step) : p.Keeps permits (fun _ => post) past := by
  induction orderly generalizing past with
  | done a holds => exact keeps_done holds
  | fail error => exact keeps_fail error _
  | perform simple present => exact ⟨admits.perform past _ simple present, fun _ _ _ => trivial⟩
  | deliver attachmentId received =>
      exact ⟨admits.deliver past attachmentId _ received, fun _ _ _ => trivial⟩
  | unpack envelope => exact keeps_unpack past (admits.unpack past envelope)
  | pack isProper =>
      exact keeps_mono (keeps_pack (admits.pack past _ isProper)) fun _ _ _ => trivial
  | send isProper => exact admits.send past _ isProper
  | bind _ _ first rest => exact keeps_bind (first past) fun later a holds => rest a holds later
  | attempt _ ih => exact keeps_attempt (ih past)
  | weaken _ implied ih => exact keeps_mono (ih past) fun _ => implied

theorem Orderly.asks (orderly : p.Orderly routing proper allowed post) {permitted : Effect → Prop}
    (performs : ∀ effect, effect.isSimple = true → allowed effect → permitted effect)
    (delivers : ∀ attachmentId m, permitted (.deliver attachmentId m))
    (unpacks : ∀ envelope, permitted (.unpack envelope))
    (sends : ∀ m, proper m → ∀ effect, effect.Sends m → permitted effect) : p.Asks permitted := by
  refine asks_of_keeps (orderly.keeps ?_ [])
  constructor
  · exact fun _ => performs
  · exact fun _ attachmentId m _ => delivers attachmentId m
  · exact fun _ => unpacks
  · exact fun _ m isProper => sends m isProper _ (.inl rfl)
  · intro past m isProper
    exact keeps_of_asks past (asks_mono (routing.send_asks m) (sends m isProper)) fun _ _ h => h

theorem Orderly.stays_local (orderly : p.Orderly {} (fun _ => False) (fun _ => True) post) :
    p.Local :=
  orderly.asks (fun _ simple _ => Effect.local_of_simple simple) (fun _ _ => rfl) (fun _ => rfl)
    fun _ none => none.elim

abbrev Reading (p : Program α) : Prop := p.Asks fun effect => effect.isReading = true

theorem Orderly.reading
    (orderly : p.Orderly routing proper (fun effect => effect.isReading = true) post) :
    p.Reading :=
  orderly.asks (fun _ _ reading => reading) (fun _ _ => rfl) (fun _ => rfl)
    fun _ _ _ => Effect.reading_of_sends

abbrev Unlocking (p : Program α) : Prop := p.Asks fun effect => effect.isLocking = false

theorem Orderly.unlocking
    (orderly : p.Orderly routing proper (fun effect => effect.isLocking = false) post) :
    p.Unlocking :=
  orderly.asks (fun _ _ free => free) (fun _ _ => rfl) (fun _ => rfl)
    fun _ _ _ => Effect.unlocking_of_sends

theorem orderly_of_asks
    (within : p.Asks fun effect => effect.isSimple = true ∧ allowed effect) :
    p.Orderly routing proper allowed fun _ => True := by
  induction p with
  | done a => exact .done a trivial
  | fail e => exact .fail e
  | ask effect next ih =>
      show (perform effect >>= next).Orderly routing proper allowed fun _ => True
      exact .bind (.perform within.1.1 within.1.2) fun answer _ => ih answer (within.2 answer)

theorem orderly_core (outcome : Except Error α) :
    (core outcome).Orderly routing proper allowed fun _ => True :=
  orderly_of_asks (asks_core outcome)

theorem orderly_ofExcept {outcome : Except AgentError α} {Q : α → Prop}
    (holds : ∀ a, outcome = .ok a → Q a) :
    (ofExcept outcome).Orderly routing proper allowed Q := by
  cases outcome with
  | ok a => exact .done a (holds a rfl)
  | error e => exact .fail e

theorem Orderly.exclusively (orderly : p.Orderly routing proper allowed post)
    (locks : allowed .lock) (unlocks : allowed .unlock) :
    (exclusively p).Orderly routing proper allowed post := by
  refine .bind (.perform rfl locks) fun _ _ => .bind (.attempt orderly) fun outcome holds => ?_
  exact .bind (.perform rfl unlocks) fun _ _ => orderly_ofExcept holds

end Program

end DidMessaging
