import DidMessaging.Agent.Ports

/-! What programs may ask, what they keep to step by step, and what their runs lead to. -/

namespace DidMessaging

namespace Program

/-- Every effect that the program may come to is allowed, whatever the answers are. -/
def Asks (allowed : Effect → Prop) : Program α → Prop
  | .done _ => True
  | .fail _ => True
  | .ask effect next => allowed effect ∧ ∀ answer, (next answer).Asks allowed

/-- Each effect is permitted by the steps before it, of which `past` are the first, and `post` holds
of all steps and the outcome. -/
def Obeys (permits : List Step → Effect → Prop)
    (post : List Step → Except AgentError α → Prop) : Program α → List Step → Prop
  | .done a, past => post past (.ok a)
  | .fail e, past => post past (.error e)
  | .ask effect next, past =>
    permits past effect ∧ ∀ answer, (next answer).Obeys permits post (past ++ [⟨effect, answer⟩])

def Leads (ports : Ports σ) (post : Except AgentError α → World σ → Prop) (p : Program α)
    (w : World σ) : Prop :=
  post (p.run ports w).result (p.run ports w).world

section Asks

variable {allowed : Effect → Prop}

theorem asks_bind {p : Program α} {f : α → Program β} (first : p.Asks allowed)
    (rest : ∀ a, (f a).Asks allowed) : (p >>= f).Asks allowed := by
  induction p with
  | done a => exact rest a
  | fail => trivial
  | ask effect next ih => exact ⟨first.1, fun answer => ih answer (first.2 answer)⟩

theorem asks_perform {effect : Effect} (present : allowed effect) :
    (perform effect).Asks allowed :=
  ⟨present, fun _ => trivial⟩

theorem asks_core (outcome : Except Error α) : (core outcome).Asks allowed := by
  cases outcome <;> trivial

theorem asks_ofExcept (outcome : Except AgentError α) : (ofExcept outcome).Asks allowed := by
  cases outcome <;> trivial

theorem asks_mono {wider : Effect → Prop} {p : Program α} (within : p.Asks allowed)
    (included : ∀ effect, allowed effect → wider effect) : p.Asks wider := by
  induction p with
  | done => trivial
  | fail => trivial
  | ask effect next ih =>
      exact ⟨included effect within.1, fun answer => ih answer (within.2 answer)⟩

theorem steps_allowed {p : Program α} (within : p.Asks allowed) (ports : Ports σ) (w : World σ) :
    ∀ step ∈ (p.run ports w).steps, allowed step.effect := by
  induction p generalizing w with
  | done => intro step member; cases member
  | fail => intro step member; cases member
  | ask effect next ih =>
      intro step member
      rcases List.mem_cons.1 member with rfl | later
      · exact within.1
      · exact ih _ (within.2 _) _ step later

theorem picks_nothing {p : Program α} {pick : Step → Option β} (within : p.Asks allowed)
    (skips : ∀ effect answer, allowed effect → pick ⟨effect, answer⟩ = none) (ports : Ports σ)
    (w : World σ) : (p.run ports w).steps.filterMap pick = [] :=
  List.filterMap_eq_nil_iff.2 fun step member =>
    skips step.effect step.answer (steps_allowed within ports w step member)

end Asks

section Obeys

variable {permits : List Step → Effect → Prop} {past : List Step}

theorem obeys_bind {p : Program α} {f : α → Program β}
    {post : List Step → Except AgentError β → Prop} :
    (p >>= f).Obeys permits post past ↔ p.Obeys permits (fun past outcome =>
      match outcome with
      | .ok a => (f a).Obeys permits post past
      | .error e => post past (.error e)) past := by
  induction p generalizing past with
  | done => rfl
  | fail => rfl
  | ask effect next ih => exact and_congr_right fun _ => forall_congr' fun answer => ih answer

theorem obeys_attempt {p : Program α}
    {post : List Step → Except AgentError (Except AgentError α) → Prop} :
    p.attempt.Obeys permits post past ↔
      p.Obeys permits (fun past outcome => post past (.ok outcome)) past := by
  induction p generalizing past with
  | done => rfl
  | fail => rfl
  | ask effect next ih => exact and_congr_right fun _ => forall_congr' fun answer => ih answer

theorem obeys_mono {p : Program α} {post weaker : List Step → Except AgentError α → Prop}
    (kept : p.Obeys permits post past)
    (implied : ∀ past outcome, post past outcome → weaker past outcome) :
    p.Obeys permits weaker past := by
  induction p generalizing past with
  | done => exact implied _ _ kept
  | fail => exact implied _ _ kept
  | ask effect next ih => exact ⟨kept.1, fun answer => ih answer (kept.2 answer)⟩

/-- The program keeps to the rules, and `post` holds where it succeeds. -/
def Keeps (permits : List Step → Effect → Prop) (post : List Step → α → Prop) (p : Program α)
    (past : List Step) : Prop :=
  p.Obeys permits (fun past outcome => ∀ a, outcome = .ok a → post past a) past

theorem keeps_bind {p : Program α} {f : α → Program β} {Q : List Step → α → Prop}
    {R : List Step → β → Prop} (first : p.Keeps permits Q past)
    (rest : ∀ past a, Q past a → (f a).Keeps permits R past) :
    (p >>= f).Keeps permits R past := by
  refine obeys_bind.2 (obeys_mono first fun later outcome holds => ?_)
  cases outcome with
  | ok a => exact rest later a (holds a rfl)
  | error e => exact fun _ failed => by cases failed

theorem keeps_core {outcome : Except Error α} {Q : List Step → α → Prop}
    (holds : ∀ a, outcome = .ok a → Q past a) : (core outcome).Keeps permits Q past := by
  cases outcome with
  | ok a => exact fun _ same => by cases same; exact holds a rfl
  | error e => exact fun _ failed => by cases failed

theorem keeps_done {a : α} {Q : List Step → α → Prop} (holds : Q past a) :
    (Program.done a).Keeps permits Q past :=
  fun _ same => by cases same; exact holds

theorem keeps_fail (e : AgentError) (Q : List Step → α → Prop) :
    (Program.fail e).Keeps permits Q past :=
  fun _ failed => by cases failed

theorem keeps_perform_bind {effect : Effect} {f : effect.Answer → Program α}
    {Q : List Step → α → Prop} (permitted : permits past effect)
    (rest : ∀ answer, (f answer).Keeps permits Q (past ++ [⟨effect, answer⟩])) :
    (perform effect >>= f).Keeps permits Q past :=
  ⟨permitted, rest⟩

theorem keeps_attempt {p : Program α} {Q : α → Prop}
    (kept : p.Keeps permits (fun _ => Q) past) :
    p.attempt.Keeps permits (fun _ outcome => ∀ a, outcome = .ok a → Q a) past := by
  refine obeys_attempt.2 (obeys_mono kept fun _ outcome holds => ?_)
  rintro _ same
  cases same
  exact holds

theorem keeps_mono {p : Program α} {Q R : List Step → α → Prop} (kept : p.Keeps permits Q past)
    (implied : ∀ past a, Q past a → R past a) : p.Keeps permits R past :=
  obeys_mono kept fun past _ holds a same => implied past a (holds a same)

theorem obeys_of_asks {allowed : Effect → Prop} {p : Program α} (within : p.Asks allowed)
    (always : ∀ past effect, allowed effect → permits past effect) :
    p.Obeys permits (fun _ _ => True) past := by
  induction p generalizing past with
  | done => trivial
  | fail => trivial
  | ask effect next ih =>
      exact ⟨always _ _ within.1, fun answer => ih answer (within.2 answer)⟩

theorem keeps_of_asks {allowed : Effect → Prop} {p : Program α} (past : List Step)
    (within : p.Asks allowed)
    (always : ∀ past effect, allowed effect → permits past effect) :
    p.Keeps permits (fun _ _ => True) past :=
  obeys_mono (obeys_of_asks within always) fun _ _ _ _ _ => trivial

theorem asks_of_keeps {allowed : Effect → Prop} {p : Program α} {Q : List Step → α → Prop}
    (kept : p.Keeps (fun _ => allowed) Q past) : p.Asks allowed := by
  unfold Keeps at kept
  induction p generalizing past with
  | done => trivial
  | fail => trivial
  | ask effect next ih => exact ⟨kept.1, fun answer => ih answer (kept.2 answer)⟩

/-- Along a run every step was permitted by those before it. -/
theorem run_obeys {p : Program α} {post : List Step → Except AgentError α → Prop}
    (kept : p.Obeys permits post past) (ports : Ports σ) (w : World σ) :
    (∀ before step after, (p.run ports w).steps = before ++ step :: after →
      permits (past ++ before) step.effect) ∧
    post (past ++ (p.run ports w).steps) (p.run ports w).result := by
  induction p generalizing past w with
  | done a => exact ⟨by simp [run], by simpa [run, Obeys] using kept⟩
  | fail e => exact ⟨by simp [run], by simpa [run, Obeys] using kept⟩
  | ask effect next ih =>
      obtain ⟨steps, outcome⟩ := ih _ (kept.2 _) (ports.answer w effect).2
      refine ⟨fun before step after split => ?_, by simpa [run, Run.after] using outcome⟩
      cases before with
      | nil =>
          obtain ⟨rfl, -⟩ := List.cons.inj split
          simpa using kept.1
      | cons first before =>
          obtain ⟨rfl, rest⟩ := List.cons.inj split
          have permitted := steps before step after rest
          rwa [List.append_assoc] at permitted

end Obeys

section Leads

variable {ports : Ports σ} {w : World σ}

theorem leads_bind {p : Program α} {f : α → Program β}
    {post : Except AgentError β → World σ → Prop} :
    (p >>= f).Leads ports post w ↔ p.Leads ports (fun outcome w =>
      match outcome with
      | .ok a => (f a).Leads ports post w
      | .error e => post (.error e) w) w := by
  show Leads ports post (p.bind f) w ↔ _
  simp only [Leads, run_bind, Run.andThen]
  cases (p.run ports w).result <;> rfl

end Leads

section Runs

variable {ports : Ports σ} {w : World σ} {p : Program α} {f : α → Program β}

theorem run_bind_ok {a : α} (reached : (p.run ports w).result = .ok a) :
    (p >>= f).run ports w =
      ⟨((f a).run ports (p.run ports w).world).result,
        ((f a).run ports (p.run ports w).world).world,
        (p.run ports w).steps ++ ((f a).run ports (p.run ports w).world).steps⟩ := by
  show (p.bind f).run ports w = _
  simp only [run_bind, Run.andThen, reached]

theorem run_bind_error {e : AgentError} (failed : (p.run ports w).result = .error e) :
    (p >>= f).run ports w = ⟨.error e, (p.run ports w).world, (p.run ports w).steps⟩ := by
  show (p.bind f).run ports w = _
  simp only [run_bind, Run.andThen, failed]

theorem steps_prefix_bind (p : Program α) (f : α → Program β) (ports : Ports σ) (w : World σ) :
    (p.run ports w).steps <+: ((p >>= f).run ports w).steps := by
  cases result : (p.run ports w).result with
  | error e => simp [run_bind_error result]
  | ok a => simp [run_bind_ok result]

theorem picks_bind {pick : Step → Option γ}
    (nothing : ∀ a w, ((f a).run ports w).steps.filterMap pick = []) :
    ((p >>= f).run ports w).steps.filterMap pick = (p.run ports w).steps.filterMap pick := by
  cases result : (p.run ports w).result with
  | error e => rw [run_bind_error result]
  | ok a => rw [run_bind_ok result, List.filterMap_append, nothing, List.append_nil]

theorem picks_bind_ok {pick : Step → Option γ} {a : α}
    (nothing : (p.run ports w).steps.filterMap pick = [])
    (reached : (p.run ports w).result = .ok a) :
    ((p >>= f).run ports w).steps.filterMap pick =
      ((f a).run ports (p.run ports w).world).steps.filterMap pick := by
  rw [run_bind_ok reached, List.filterMap_append, nothing, List.nil_append]

theorem run_attempt (p : Program α) (ports : Ports σ) (w : World σ) :
    p.attempt.run ports w =
      ⟨.ok (p.run ports w).result, (p.run ports w).world, (p.run ports w).steps⟩ := by
  induction p generalizing w with
  | done => rfl
  | fail => rfl
  | ask effect next ih => simp only [attempt, run, ih, Run.after]

end Runs

section Exclusively

variable {ports : Ports σ} {w : World σ}

/-- With the lock a program does what it does without, between taking the lock and dropping it. -/
theorem run_exclusively (p : Program α) (ports : Ports σ) (w : World σ) :
    (exclusively p).run ports w =
      ⟨(p.run ports w).result, (p.run ports w).world,
        ⟨.lock, ()⟩ :: ((p.run ports w).steps ++ [⟨.unlock, ()⟩])⟩ := by
  have attempted := run_attempt p ports w
  change ((p.attempt >>= fun outcome => perform .unlock >>= fun _ => ofExcept outcome).run ports
    w).after ⟨.lock, ()⟩ = _
  rw [run_bind_ok (congrArg Run.result attempted), attempted]
  cases (p.run ports w).result <;> rfl

theorem leads_exclusively {p : Program α} {post : Except AgentError α → World σ → Prop} :
    (exclusively p).Leads ports post w ↔ p.Leads ports post w := by
  simp only [Leads, run_exclusively]

theorem picks_exclusively {p : Program α} {pick : Step → Option β}
    (locks : pick ⟨.lock, ()⟩ = none) (unlocks : pick ⟨.unlock, ()⟩ = none) :
    ((exclusively p).run ports w).steps.filterMap pick =
      (p.run ports w).steps.filterMap pick := by
  rw [run_exclusively, List.filterMap_cons_none locks, List.filterMap_append,
    List.filterMap_cons_none unlocks, List.filterMap_nil, List.append_nil]

end Exclusively

theorem steps_answered (p : Program α) (ports : Ports σ) (w : World σ) :
    ∀ step ∈ (p.run ports w).steps, ∃ there, step.answer = (ports.answer there step.effect).1 := by
  induction p generalizing w with
  | done => intro step member; cases member
  | fail => intro step member; cases member
  | ask effect next ih =>
      intro step member
      rcases List.mem_cons.1 member with rfl | later
      · exact ⟨w, rfl⟩
      · exact ih _ _ step later

end Program

theorem Run.exchange_of_mem_requests (run : Run σ α) {request : Request}
    (member : request ∈ run.requests) :
    ∃ before answer after, run.steps = before ++ ⟨.exchange request, answer⟩ :: after := by
  obtain ⟨⟨effect, answer⟩, present, same⟩ := List.mem_filterMap.1 member
  obtain ⟨before, after, split⟩ := List.append_of_mem present
  cases effect with
  | exchange =>
      cases same
      exact ⟨before, answer, after, split⟩
  | _ => cases same

end DidMessaging
