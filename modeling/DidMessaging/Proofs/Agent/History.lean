import DidMessaging.Proofs.Agent.Relationship
import Mathlib.Data.List.Induction

/-! What the relationship of an agent tells of its history: it follows from the results of all that
was done, and the reported state counts the DIDs registered since a mediator was last adopted. -/

namespace DidMessaging

namespace Deed

def found? : Deed σ → Option Mediator
  | ⟨.recover, run⟩ => run.result.toOption.join
  | _ => none

def registered : Deed σ → Nat
  | ⟨.register dids, run⟩ => if run.result.toOption.isSome then dids.length else 0
  | _ => 0

def Finds (deed : Deed σ) : Prop := deed.granted? ≠ none ∨ deed.found? ≠ none

/-- After the deeds `earlier`, a mediator is taken up anew: one that has granted mediation, or one
that was stored and has come up while none was known. -/
def Adopts (earlier : List (Deed σ)) (deed : Deed σ) : Prop :=
  deed.granted? ≠ none ∨ deed.found? ≠ none ∧ ∀ other ∈ earlier, ¬other.Finds

/-- The relationship that a deed leaves, by the one it has found and its result. -/
def leaves (deed : Deed σ) (held : Option Relationship) : Option Relationship :=
  match deed.granted?, held with
  | some mediator, _ => some ⟨mediator, 0⟩
  | none, some relationship =>
    some { relationship with registered := relationship.registered + deed.registered }
  | none, none => deed.found?.map fun mediator => ⟨mediator, 0⟩

theorem leaves_idle {deed : Deed σ} (ungranted : deed.granted? = none)
    (unfound : deed.found? = none) (unregistered : deed.registered = 0)
    (held : Option Relationship) : deed.leaves held = held := by
  cases held with
  | none => simp [leaves, ungranted, unfound]
  | some relationship => simp [leaves, ungranted, unregistered]

theorem leaves_kept {deed : Deed σ} (ungranted : deed.granted? = none)
    (relationship : Relationship) :
    deed.leaves (some relationship) =
      some { relationship with registered := relationship.registered + deed.registered } := by
  simp [leaves, ungranted]

theorem leaves_granted {deed : Deed σ} (granted : deed.granted? ≠ none)
    (held : Option Relationship) : ∃ mediator, deed.leaves held = some ⟨mediator, 0⟩ := by
  obtain ⟨mediator, same⟩ := Option.ne_none_iff_exists'.1 granted
  exact ⟨mediator, by simp [leaves, same]⟩

theorem leaves_none {deed : Deed σ} : deed.leaves none = none ↔ ¬deed.Finds := by
  unfold leaves Finds
  cases deed.granted? <;> simp

theorem leaves_some (deed : Deed σ) (relationship : Relationship) :
    deed.leaves (some relationship) ≠ none := by
  unfold leaves
  cases deed.granted? <;> simp

end Deed

/-- What becomes of the relationship follows from the result of the deed alone. -/
theorem Agent.perform_leaves (agent : Agent) (ports : Ports σ) (w : World σ)
    (operation : Operation) :
    (agent.perform ports w operation).run.world.held =
      (agent.perform ports w operation).leaves w.held := by
  have moved := agent.perform_moved (storeKept_unseen ports) w operation
  generalize agent.perform ports w operation = deed at moved
  cases moved with
  | read _ reading unmoved =>
      have ungranted := Deed.granted?_of_reading reading
      obtain ⟨operation, run⟩ := deed
      have idle : Deed.found? ⟨operation, run⟩ = none ∧ Deed.registered ⟨operation, run⟩ = 0 := by
        cases operation <;> first | exact ⟨rfl, rfl⟩ | cases reading
      rw [Deed.leaves_idle ungranted idle.1 idle.2, unmoved.held]
  | failed _ e result unmoved =>
      have ungranted := Deed.granted?_of_error result
      obtain ⟨operation, run⟩ := deed
      have idle : Deed.found? ⟨operation, run⟩ = none ∧ Deed.registered ⟨operation, run⟩ = 0 := by
        cases operation <;> simp_all [Deed.found?, Deed.registered, Except.toOption]
      rw [Deed.leaves_idle ungranted idle.1 idle.2, unmoved.held]
  | recalled run relationship held result unmoved =>
      rw [unmoved.held, held]
      rfl
  | unknown run free loaded result unmoved =>
      rw [unmoved.held, free]
      simp [Deed.leaves, Deed.granted?, Deed.found?, result, Except.toOption]
  | adopted run mediator free loaded result held =>
      rw [held, free]
      simp [Deed.leaves, Deed.granted?, Deed.found?, result, Except.toOption]
  | granted host run mediator s did sameHost accepted written result held =>
      rw [held]
      simp [Deed.leaves, Deed.granted?, result, Except.toOption]
  | registered dids run relationship held result extended =>
      rw [extended, held]
      simp [Deed.leaves, Deed.granted?, Deed.registered, result, Except.toOption]

def registeredIn : List (Deed σ) → Nat
  | [] => 0
  | deed :: deeds => deed.registered + registeredIn deeds

def relationshipAfter (deeds : List (Deed σ)) (held : Option Relationship) : Option Relationship :=
  deeds.foldl (fun held deed => deed.leaves held) held

theorem relationshipAfter_append (earlier later : List (Deed σ)) (held : Option Relationship) :
    relationshipAfter (earlier ++ later) held =
      relationshipAfter later (relationshipAfter earlier held) :=
  List.foldl_append

theorem relationshipAfter_kept {deeds : List (Deed σ)}
    (ungranted : ∀ deed ∈ deeds, deed.granted? = none) (relationship : Relationship) :
    relationshipAfter deeds (some relationship) =
      some { relationship with
        registered := relationship.registered + registeredIn deeds } := by
  induction deeds generalizing relationship with
  | nil => rfl
  | cons deed deeds ih =>
      have here := Deed.leaves_kept (ungranted deed List.mem_cons_self) relationship
      have later (other : Deed σ) (member : other ∈ deeds) : other.granted? = none :=
        ungranted other (List.mem_cons_of_mem _ member)
      rw [relationshipAfter, List.foldl_cons, here]
      refine (ih later _).trans ?_
      simp [registeredIn, Nat.add_assoc]

theorem relationshipAfter_some (deeds : List (Deed σ)) (relationship : Relationship) :
    relationshipAfter deeds (some relationship) ≠ none := by
  induction deeds generalizing relationship with
  | nil => simp [relationshipAfter]
  | cons deed deeds ih =>
      obtain ⟨next, same⟩ := Option.ne_none_iff_exists'.1 (deed.leaves_some relationship)
      rw [relationshipAfter, List.foldl_cons, same]
      exact ih next

theorem relationshipAfter_none {deeds : List (Deed σ)} :
    relationshipAfter deeds none = none ↔ ∀ deed ∈ deeds, ¬deed.Finds := by
  induction deeds with
  | nil => simp [relationshipAfter]
  | cons deed deeds ih =>
      rw [relationshipAfter, List.foldl_cons, List.forall_mem_cons]
      cases left : deed.leaves none with
      | none =>
          have unfound := Deed.leaves_none.1 left
          exact ih.trans (and_iff_right unfound).symm
      | some relationship =>
          constructor
          · intro same
            exact absurd same (relationshipAfter_some deeds relationship)
          · intro unfound
            cases left.symm.trans (Deed.leaves_none.2 unfound.1)

/-- Of the deeds, `adoption` is the last that has adopted a mediator. -/
structure LastAdoption (deeds earlier : List (Deed σ)) (adoption : Deed σ)
    (since : List (Deed σ)) : Prop where
  split : deeds = earlier ++ adoption :: since
  adopts : adoption.Adopts earlier
  last : ∀ before deed after, since = before ++ deed :: after →
    ¬deed.Adopts (earlier ++ adoption :: before)

section Adoption

variable {deeds earlier since : List (Deed σ)} {adoption deed : Deed σ}

theorem Deed.finds_of_adopts (adopts : adoption.Adopts earlier) : adoption.Finds := by
  rcases adopts with granted | ⟨found, -⟩
  · exact .inl granted
  · exact .inr found

theorem Deed.adopts_of_finds (finds : deed.Finds) (none : ∀ other ∈ earlier, ¬other.Finds) :
    deed.Adopts earlier := by
  rcases finds with granted | found
  · exact .inl granted
  · exact .inr ⟨found, none⟩

theorem relationshipAfter_adopts (adopts : adoption.Adopts earlier) :
    ∃ mediator, relationshipAfter (earlier ++ [adoption]) none = some ⟨mediator, 0⟩ := by
  rw [relationshipAfter_append]
  show ∃ mediator, adoption.leaves (relationshipAfter earlier none) = some ⟨mediator, 0⟩
  rcases adopts with granted | ⟨found, unknown⟩
  · exact Deed.leaves_granted granted _
  · rw [relationshipAfter_none.2 unknown]
    by_cases granted : adoption.granted? = none
    · obtain ⟨mediator, same⟩ := Option.ne_none_iff_exists'.1 found
      exact ⟨mediator, by simp [Deed.leaves, granted, same]⟩
    · exact Deed.leaves_granted granted _

theorem LastAdoption.ungranted (adopted : LastAdoption deeds earlier adoption since) :
    ∀ deed ∈ since, deed.granted? = none := by
  intro deed member
  obtain ⟨before, after, split⟩ := List.append_of_mem member
  by_cases granted : deed.granted? = none
  · exact granted
  · exact absurd (.inl granted) (adopted.last before deed after split)

theorem lastAdoption_of_ungranted (split : deeds = earlier ++ adoption :: since)
    (adopts : adoption.Adopts earlier) (ungranted : ∀ deed ∈ since, deed.granted? = none) :
    LastAdoption deeds earlier adoption since := by
  refine ⟨split, adopts, ?_⟩
  intro before deed after same again
  rcases again with granted | ⟨-, unknown⟩
  · exact granted (ungranted deed (by simp [same]))
  · exact unknown adoption (by simp) (Deed.finds_of_adopts adopts)

theorem relationshipAfter_adoption (adopted : LastAdoption deeds earlier adoption since) :
    ∃ mediator, relationshipAfter deeds none =
      some ⟨mediator, registeredIn since⟩ := by
  obtain ⟨mediator, first⟩ := relationshipAfter_adopts adopted.adopts
  have split : deeds = (earlier ++ [adoption]) ++ since := by simp [adopted.split]
  refine ⟨mediator, ?_⟩
  calc
    relationshipAfter deeds none
        = relationshipAfter since (relationshipAfter (earlier ++ [adoption]) none) := by
      rw [split, relationshipAfter_append]
    _ = relationshipAfter since (some ⟨mediator, 0⟩) := by rw [first]
    _ = some ⟨mediator, registeredIn since⟩ := by
      rw [relationshipAfter_kept adopted.ungranted]
      simp

theorem exists_lastAdoption (found : ∃ deed ∈ deeds, deed.Finds) :
    ∃ earlier adoption since, LastAdoption deeds earlier adoption since := by
  induction deeds using List.reverseRecOn with
  | nil =>
      obtain ⟨deed, member, -⟩ := found
      cases member
  | append_singleton deeds deed ih =>
      by_cases adopts : deed.Adopts deeds
      · exact ⟨deeds, deed, [], rfl, adopts, by simp⟩
      -- If the last deed adopts nothing, some earlier one has come upon a mediator.
      have before : ∃ other ∈ deeds, other.Finds := by
        obtain ⟨other, member, finds⟩ := found
        rcases List.mem_append.1 member with early | last
        · exact ⟨other, early, finds⟩
        · obtain rfl := List.mem_singleton.1 last
          by_cases none : ∀ other ∈ deeds, ¬other.Finds
          · exact absurd (Deed.adopts_of_finds finds none) adopts
          · simpa using none
      obtain ⟨earlier, adoption, since, split, adopted, last⟩ := ih before
      refine ⟨earlier, adoption, since ++ [deed], by simp [split], adopted, ?_⟩
      intro before other after same
      rcases List.eq_nil_or_concat after with rfl | ⟨after, final, rfl⟩
      · obtain ⟨rfl, rfl⟩ : since = before ∧ deed = other := by
          simpa using List.append_inj' same rfl
        rwa [← split]
      · have shorter : since = before ++ other :: after := by
          have ends : since ++ [deed] = (before ++ other :: after) ++ [final] := by simp [same]
          exact (List.append_inj' ends rfl).1
        exact last before other after shorter

end Adoption

theorem RelationshipState.ofHeld_unknown {held : Option Relationship} :
    ofHeld held = .unknown ↔ held = none := by
  cases held with
  | none => simp [ofHeld]
  | some relationship =>
      by_cases fresh : relationship.registered = 0 <;> simp [ofHeld, fresh]

namespace Agent

def worldAfter (agent : Agent) (ports : Ports σ) (operations : List Operation) (w : World σ) :
    World σ :=
  operations.foldl (fun w operation => (agent.perform ports w operation).run.world) w

theorem held_worldAfter (agent : Agent) (ports : Ports σ) (operations : List Operation)
    (w : World σ) :
    (agent.worldAfter ports operations w).held =
      relationshipAfter (agent.performAll ports operations w) w.held := by
  induction operations generalizing w with
  | nil => rfl
  | cons operation operations ih =>
      have here := agent.perform_leaves ports w operation
      rw [worldAfter, List.foldl_cons]
      refine (ih _).trans ?_
      rw [here]
      rfl

/-- The state that is reported always tells the number of registered DIDs. A new agent knows no
mediator as long as none was found in the store and none has granted mediation. From then on, a
mediator was adopted last, and the state counts the DIDs whose registration has succeeded since.
To recover once more never resets the count; to be granted mediation once more always does. -/
theorem state_counts_registered (agent : Agent) (ports : Ports σ) (s : σ)
    (operations : List Operation) :
    let deeds := agent.performAll ports operations ⟨s, none⟩
    let world (operations : List Operation) := agent.worldAfter ports operations ⟨s, none⟩
    let state (operations : List Operation) := RelationshipState.ofHeld (world operations).held
    (state operations = .unknown ↔ ∀ deed ∈ deeds, ¬deed.Finds) ∧
    (state operations ≠ .unknown →
      ∃ earlier adoption since, LastAdoption deeds earlier adoption since) ∧
    (∀ earlier adoption since, LastAdoption deeds earlier adoption since →
      let count := registeredIn since
      state operations = if count = 0 then .granted else .active count) ∧
    (state operations ≠ .unknown → state (operations ++ [.recover]) = state operations) ∧
    ∀ host mediator,
      ((agent.requestMediation host).run ports (world operations)).result = .ok mediator →
        state (operations ++ [.requestMediation host]) = .granted := by
  intro deeds world state
  -- The state is that of the relationship, and this follows from the results of the deeds.
  have held : (world operations).held = relationshipAfter deeds none :=
    agent.held_worldAfter ports operations ⟨s, none⟩
  have next (operation : Operation) : (world (operations ++ [operation])).held =
      (agent.perform ports (world operations) operation).leaves (world operations).held := by
    rw [← agent.perform_leaves]
    simp [world, worldAfter]
  have known : state operations ≠ .unknown ↔ ∃ deed ∈ deeds, deed.Finds := by
    rw [Ne, RelationshipState.ofHeld_unknown, held, relationshipAfter_none]
    simp
  refine ⟨?_, ?_, ?_, ?_, ?_⟩
  · rw [RelationshipState.ofHeld_unknown, held, relationshipAfter_none]
  · intro current
    exact exists_lastAdoption (known.1 current)
  · intro earlier adoption since adopted count
    obtain ⟨mediator, same⟩ := relationshipAfter_adoption adopted
    show RelationshipState.ofHeld (world operations).held = _
    rw [held, same]
    rfl
  · intro current
    obtain ⟨relationship, same⟩ :=
      Option.ne_none_iff_exists'.1 (mt RelationshipState.ofHeld_unknown.2 current)
    show RelationshipState.ofHeld (world (operations ++ [.recover])).held =
      RelationshipState.ofHeld (world operations).held
    rw [next, same]
    rfl
  · intro host mediator granted
    show RelationshipState.ofHeld (world (operations ++ [.requestMediation host])).held = .granted
    have grants : (agent.perform ports (world operations) (.requestMediation host)).granted? =
        some mediator := congrArg Except.toOption granted
    have present : (agent.perform ports (world operations) (.requestMediation host)).granted? ≠
        none := by simp [grants]
    obtain ⟨_, same⟩ := Deed.leaves_granted present (world operations).held
    rw [next, same]
    rfl

end Agent

theorem regranted_counts_registered :
    let agent : Agent := { mediator := "did:ex:m" }
    let ports := grantingSandbox.ports "id" "now"
    let s := { refusingOnce with replies := List.replicate 3 (.response ⟨200, [65]⟩) }
    let operations : List Operation := [.register ["a"], .recover, .register ["a", "b"],
      .requestMediation "did:ex:h", .recover]
    let state (operations : List Operation) :=
      RelationshipState.ofHeld (agent.worldAfter ports operations ⟨s, none⟩).held
    state operations = .active 2 ∧
      state (operations ++ [.requestMediation "did:ex:h"]) = .granted := by
  intro agent ports s operations state
  let unknown := agent.perform ports ⟨s, none⟩ (.register ["a"])
  let recovered := agent.perform ports unknown.run.world .recover
  let registered := agent.perform ports recovered.run.world (.register ["a", "b"])
  let refused := agent.perform ports registered.run.world (.requestMediation "did:ex:h")
  let again := agent.perform ports refused.run.world .recover
  have split : agent.performAll ports operations ⟨s, none⟩ =
      [unknown] ++ recovered :: [registered, refused, again] := rfl
  have found : recovered.found? ≠ none := by decide +kernel
  have early : ∀ deed ∈ [unknown], deed.granted? = none ∧ deed.found? = none := by
    decide +kernel
  have late : ∀ deed ∈ [registered, refused, again], deed.granted? = none := by decide +kernel
  have adopted := lastAdoption_of_ungranted split
    (.inr ⟨found, fun deed member finds => by simp [Deed.Finds, early deed member] at finds⟩) late
  obtain ⟨-, -, counts, -, resets⟩ := agent.state_counts_registered ports s operations
  have count : registeredIn [registered, refused, again] = 2 := by decide +kernel
  have granted : ((agent.requestMediation "did:ex:h").run ports again.run.world).result.toOption =
      some ⟨"id", "did:ex:m", "did:ex:h", "did:ex:r"⟩ := by decide +kernel
  constructor
  · have same := counts _ _ _ adopted
    rwa [count] at same
  · refine resets "did:ex:h" ⟨"id", "did:ex:m", "did:ex:h", "did:ex:r"⟩ ?_
    change ((agent.requestMediation "did:ex:h").run ports again.run.world).result = _
    cases result : ((agent.requestMediation "did:ex:h").run ports again.run.world).result with
    | ok mediator => rw [result] at granted; exact congrArg _ (Option.some.inj granted)
    | error e => rw [result] at granted; cases granted

end DidMessaging
