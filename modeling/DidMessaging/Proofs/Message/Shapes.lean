import DidMessaging.Message.Envelope
import DidMessaging.Message.Forward
import DidMessaging.Proofs.Json.Fitting
import Mathlib.Data.List.Perm.Basic

namespace DidMessaging

open Json

variable {order : List (String × Json) → List (String × Json)} {levels : Nat}

namespace Headers

theorem put_perm {name : String} (value : String) {entries : List (String × String)}
    (fresh : name ∉ entries.map Prod.fst) :
    (put name value entries).Perm ((name, value) :: entries) := by
  induction entries with
  | nil => exact List.Perm.refl _
  | cons entry entries ih =>
      obtain ⟨key, old⟩ := entry
      rw [List.map_cons, List.mem_cons, not_or] at fresh
      rw [put]
      split
      · exact List.Perm.refl _
      · rw [if_neg fresh.1]
        exact ((ih fresh.2).cons _).trans (List.Perm.swap _ _ _)

def entryMember (entry : String × String) : String × Json := (entry.1, .text entry.2)

theorem entryMember_injective : Function.Injective entryMember := by
  rintro ⟨name, value⟩ ⟨other, found⟩ same
  cases same
  rfl

theorem rounds_of_texts {P : List (String × Json) → Headers → Headers → Prop}
    (nil : ∀ headers, P [] headers headers)
    (cons : ∀ {name value later} {headers final : Headers},
      P later (headers.insert name value) final → P ((name, .text value) :: later) headers final)
    {given : List (String × Json)} (texts : ∀ entry ∈ given, ∃ value, entry.2 = .text value)
    {headers : Headers}
    (once : ((given ++ headers.entries.map entryMember).map Prod.fst).Nodup) :
    ∃ final, P given headers final ∧
      (final.entries.map entryMember).Perm (given ++ headers.entries.map entryMember) := by
  induction given generalizing headers with
  | nil => exact ⟨headers, nil headers, List.Perm.refl _⟩
  | cons entry given ih =>
      obtain ⟨name, value⟩ := entry
      obtain ⟨value, rfl⟩ : ∃ text, value = .text text := texts _ List.mem_cons_self
      have fresh : name ∉ headers.entries.map Prod.fst := by
        intro again
        have named : name ∈ (headers.entries.map entryMember).map Prod.fst := by
          rwa [List.map_map]
        rw [List.cons_append, List.map_cons, List.map_append, List.nodup_cons] at once
        exact once.1 (List.mem_append_right _ named)
      have put := (put_perm value fresh).map entryMember
      have moved : (given ++ (headers.insert name value).entries.map entryMember).Perm
          ((name, .text value) :: given ++ headers.entries.map entryMember) :=
        (put.append_left given).trans List.perm_middle
      obtain ⟨final, rounds, perm⟩ := ih (fun e member => texts e (List.mem_cons_of_mem _ member))
        ((moved.map Prod.fst).nodup_iff.2 once)
      exact ⟨final, cons rounds, perm.trans moved⟩

theorem rounds_of_entries {P : List (String × Json) → Headers → Headers → Prop}
    (nil : ∀ headers, P [] headers headers)
    (cons : ∀ {name value later} {headers final : Headers},
      P later (headers.insert name value) final → P ((name, .text value) :: later) headers final)
    (headers : Headers) {given : List (String × Json)}
    (perm : given.Perm (headers.entries.map entryMember)) : P given empty headers := by
  have texts : ∀ entry ∈ given, ∃ value, entry.2 = .text value := by
    intro entry member
    obtain ⟨original, -, rfl⟩ := List.mem_map.1 (perm.mem_iff.1 member)
    exact ⟨original.2, rfl⟩
  have distinct : ((headers.entries.map entryMember).map Prod.fst).Nodup := by
    rw [List.map_map]
    refine List.pairwise_map.2 (headers.ascending.imp fun {a b} less same => ?_)
    have names : a.1 = b.1 := same
    exact String.lt_irrefl b.1 (names ▸ less)
  have once : ((given ++ empty.entries.map entryMember).map Prod.fst).Nodup := by
    rw [empty, List.map_nil, List.append_nil]
    exact (perm.map Prod.fst).nodup_iff.2 distinct
  obtain ⟨final, rounds, all⟩ := rounds_of_texts nil cons texts once
  rw [empty, List.map_nil, List.append_nil] at all
  have entries : final.entries.Perm headers.entries :=
    (List.map_perm_map_iff entryMember_injective).1 (all.trans perm)
  have same : final.entries = headers.entries :=
    List.Perm.eq_of_pairwise (fun a b _ _ less more => absurd more (String.lt_asymm less))
      final.ascending headers.ascending entries
  obtain rfl : final = headers := by
    cases final
    cases headers
    cases same
    rfl
  exact rounds

theorem entries_folded (headers : Headers) {given : List (String × Json)}
    (perm : given.Perm (headers.entries.map entryMember)) (levels : Nat) :
    Folded (shape.readMember levels) given empty headers := by
  refine rounds_of_entries .nil (fun {name value _ slots _} later => ?_) headers perm
  refine .cons (fun rest ends => ?_) later
  have read : Shape.text.read levels ((Json.text value).chars ++ rest) = .ok (value, rest) :=
    Shape.lawful_text.read_write rearranges_id (Nat.le_refl levels) value ends
  simp only [shape.readMember, readColon_cons, bind, Except.bind, read]
  rfl

theorem entries_fit (headers : Headers) {given : List (String × Json)}
    (perm : given.Perm (headers.entries.map entryMember)) :
    given.foldlM shape.fitMember empty = some headers := by
  refine rounds_of_entries (P := fun given slots final =>
    given.foldlM shape.fitMember slots = some final) (fun _ => rfl) (fun later => ?_) headers perm
  rw [List.foldlM_cons]
  exact later

theorem written_perm (rearranges : Rearranges order) (headers : Headers) :
    ∃ given, (Headers.shape.write headers).arranged order = .object given ∧
      given.Perm (headers.entries.map entryMember) := by
  refine ⟨_, rfl, (rearranges _).trans ?_⟩
  rw [arrangedMembers_eq_map, List.map_map]
  exact List.Perm.refl _

theorem lawful_shape : Headers.shape.Lawful 1 where
  readable headers := by
    intro entry member
    obtain ⟨original, -, rfl⟩ := List.mem_map.1 member
    trivial
  read_write rearranges more enough headers rest ends := by
    obtain ⟨given, written, perm⟩ := written_perm rearranges headers
    cases more with
    | zero => cases enough
    | succ more =>
        have read := readObject_written (entries_folded headers perm more) rest
        rw [written, objectChars_append]
        exact read
  fit_write rearranges headers := by
    obtain ⟨given, written, perm⟩ := written_perm rearranges headers
    rw [written]
    exact entries_fit headers perm

end Headers

theorem ChildReference.lawful_shape : ChildReference.shape.Lawful 1 := by
  apply Shape.lawful_record _ _ (by decide) fun _ => rfl
  exact ⟨Member.lawful_required _ Shape.lawful_text, trivial⟩

theorem DetachedSignature.lawful_shape : DetachedSignature.shape.Lawful 2 := by
  apply Shape.lawful_record _ _ (by decide) fun _ => rfl
  exact ⟨Member.lawful_required _ ChildReference.lawful_shape,
    Member.lawful_required _ Shape.lawful_text, Member.lawful_required _ Shape.lawful_text, trivial⟩

namespace AttachmentData

theorem lawful_signedShape : signedShape.Lawful 3 := by
  apply Shape.lawful_record _ _ (by decide) fun _ => rfl
  exact ⟨Member.lawful_required _ Shape.lawful_text,
    Member.lawful_required _ DetachedSignature.lawful_shape, trivial⟩

theorem lawful_linksShape : linksShape.Lawful 2 := by
  apply Shape.lawful_record _ _ (by decide) fun _ => rfl
  exact ⟨Member.lawful_required _ (Shape.lawful_list Shape.lawful_text),
    Member.lawful_required _ Shape.lawful_text, trivial⟩

theorem lawful_textShape (record name : String) : (textShape record name).Lawful 1 := by
  apply Shape.lawful_record _ _ _ fun _ => rfl
  · exact ⟨Member.lawful_required _ Shape.lawful_text, trivial⟩
  · exact List.nodup_cons.2 ⟨List.not_mem_nil, List.nodup_nil⟩

theorem readable_write (data : AttachmentData) : Readable 3 data.write := by
  cases data with
  | signed content signature => exact lawful_signedShape.readable (content, signature)
  | links targets hash =>
      exact readable_mono (by decide) (lawful_linksShape.readable (targets, hash))
  | base64 content => exact readable_mono (by decide) ((lawful_textShape _ _).readable content)
  | json content => exact readable_mono (by decide) ((lawful_textShape _ _).readable content)
  | children reference =>
      exact readable_mono (by decide) (ChildReference.lawful_shape.readable reference)

variable {given : List (String × Json)}

theorem textShape_fit_object {record name content : String} :
    (textShape record name).fit (.object given) = some content ↔
      Sole given name (.text content) := by
  have distinct : [name].Nodup := List.nodup_cons.2 ⟨List.not_mem_nil, List.nodup_nil⟩
  refine (Shape.fit_object_eq_some (by exact distinct)).trans ⟨?_, fun sole => ?_⟩
  · rintro ⟨b, ⟨takes, -⟩, rfl⟩
    exact Member.takes_text.1 takes
  · exact ⟨(content, ()), ⟨Member.takes_text.2 sole, trivial⟩, rfl⟩

theorem signedShape_fit_object {content : String} {signature : DetachedSignature} :
    signedShape.fit (.object given) = some (content, signature) ↔
      Sole given "base64" (.text content) ∧
        ∃ value, Sole given "jws" value ∧ DetachedSignature.shape.fit value = some signature := by
  refine (Shape.fit_object_eq_some (by decide)).trans ⟨?_, fun ⟨sole, complete⟩ => ?_⟩
  · rintro ⟨b, ⟨takesContent, takesSignature, -⟩, same⟩
    cases same
    exact ⟨Member.takes_text.1 takesContent, Member.takes_required.1 takesSignature⟩
  · exact ⟨(content, signature, ()),
      ⟨Member.takes_text.2 sole, Member.takes_required.2 complete, trivial⟩, rfl⟩

theorem linksShape_fit_object {targets : List String} {hash : String} :
    linksShape.fit (.object given) = some (targets, hash) ↔
      (∃ value, Sole given "links" value ∧ Shape.text.list.fit value = some targets) ∧
        Sole given "hash" (.text hash) := by
  refine (Shape.fit_object_eq_some (by decide)).trans ⟨?_, fun ⟨listed, sole⟩ => ?_⟩
  · rintro ⟨b, ⟨takesLinks, takesHash, -⟩, same⟩
    cases same
    exact ⟨Member.takes_required.1 takesLinks, Member.takes_text.1 takesHash⟩
  · exact ⟨(targets, hash, ()),
      ⟨Member.takes_required.2 listed, Member.takes_text.2 sole, trivial⟩, rfl⟩

theorem signedShape_fit_lacking {value : Json} (lacks : Lacks value "jws") :
    signedShape.fit value = none := by
  obtain ⟨given, rfl, absent⟩ := lacks
  refine Option.eq_none_iff_forall_ne_some.2 fun (content, signature) fits => absent ?_
  obtain ⟨-, value, sole, -⟩ := signedShape_fit_object.1 fits
  exact List.mem_map_of_mem (mem_of_sole sole)

theorem linksShape_fit_lacking {value : Json} (lacks : Lacks value "links") :
    linksShape.fit value = none := by
  obtain ⟨given, rfl, absent⟩ := lacks
  refine Option.eq_none_iff_forall_ne_some.2 fun (targets, hash) fits => absent ?_
  obtain ⟨⟨value, sole, -⟩, -⟩ := linksShape_fit_object.1 fits
  exact List.mem_map_of_mem (mem_of_sole sole)

theorem textShape_fit_lacking {record name : String} {value : Json} (lacks : Lacks value name) :
    (textShape record name).fit value = none := by
  obtain ⟨given, rfl, absent⟩ := lacks
  refine Option.eq_none_iff_forall_ne_some.2 fun content fits => absent ?_
  exact List.mem_map_of_mem (mem_of_sole (textShape_fit_object.1 fits))

theorem textShape_lacks {record name missing : String} (other : missing ≠ name)
    (rearranges : Rearranges order) (content : String) :
    Lacks (((textShape record name).write content).arranged order) missing :=
  Shape.lacks_written (by simpa [Members.names, Member.required] using other) rearranges content

/-- Every variant before the right one needs a member that the data does not have. -/
theorem found_write (rearranges : Rearranges order) (data : AttachmentData) :
    (variants.findSome? fun variant => variant (data.write.arranged order)) = some data := by
  cases data with
  | signed content signature =>
      have fits := lawful_signedShape.fit_write rearranges (content, signature)
      simp only [variants, write, List.findSome?_cons, fits, Option.map_some]
  | links targets hash =>
      have lacks : Lacks ((linksShape.write (targets, hash)).arranged order) "jws" :=
        Shape.lacks_written (by decide) rearranges (targets, hash)
      have fits := lawful_linksShape.fit_write rearranges (targets, hash)
      simp only [variants, write, List.findSome?_cons, signedShape_fit_lacking lacks, fits,
        Option.map_some, Option.map_none]
  | base64 content =>
      have lacks (missing : String) (other : missing ≠ "base64") :
          Lacks ((base64Shape.write content).arranged order) missing :=
        textShape_lacks other rearranges content
      have signed := signedShape_fit_lacking (lacks "jws" (by decide))
      have links := linksShape_fit_lacking (lacks "links" (by decide))
      have fits : base64Shape.fit ((base64Shape.write content).arranged order) = some content :=
        (lawful_textShape _ _).fit_write rearranges content
      simp only [variants, write, List.findSome?_cons, signed, links, fits, Option.map_some,
        Option.map_none]
  | json content =>
      have lacks (missing : String) (other : missing ≠ "json") :
          Lacks ((jsonShape.write content).arranged order) missing :=
        textShape_lacks other rearranges content
      have signed := signedShape_fit_lacking (lacks "jws" (by decide))
      have links := linksShape_fit_lacking (lacks "links" (by decide))
      have base64 : base64Shape.fit ((jsonShape.write content).arranged order) = none :=
        textShape_fit_lacking (lacks "base64" (by decide))
      have fits : jsonShape.fit ((jsonShape.write content).arranged order) = some content :=
        (lawful_textShape _ _).fit_write rearranges content
      simp only [variants, write, List.findSome?_cons, signed, links, base64, fits,
        Option.map_some, Option.map_none]
  | children reference =>
      have lacks (missing : String) (other : missing ∉ ["children"]) :
          Lacks ((ChildReference.shape.write reference).arranged order) missing :=
        Shape.lacks_written other rearranges reference
      have signed := signedShape_fit_lacking (lacks "jws" (by decide))
      have links := linksShape_fit_lacking (lacks "links" (by decide))
      have base64 :
          base64Shape.fit ((ChildReference.shape.write reference).arranged order) = none :=
        textShape_fit_lacking (lacks "base64" (by decide))
      have json : jsonShape.fit ((ChildReference.shape.write reference).arranged order) = none :=
        textShape_fit_lacking (lacks "json" (by decide))
      have fits := ChildReference.lawful_shape.fit_write rearranges reference
      simp only [variants, write, List.findSome?_cons, signed, links, base64, json, fits,
        Option.map_some, Option.map_none]

theorem lawful_shape : AttachmentData.shape.Lawful 3 :=
  Shape.lawful_union _ readable_write found_write

end AttachmentData

theorem Attachment.lawful_shape : Attachment.shape.Lawful 4 := by
  apply Shape.lawful_record _ _ (by decide) fun _ => rfl
  exact ⟨Member.lawful_required _ Shape.lawful_text,
    Member.lawful_whenSet _ Shape.lawful_text nofun,
    Member.lawful_required _ AttachmentData.lawful_shape,
    Member.lawful_whenSet _ (Shape.lawful_list Shape.lawful_text) nofun,
    Member.lawful_whenSet _ Shape.lawful_text nofun,
    Member.lawful_whenSet _ Shape.lawful_text nofun,
    Member.lawful_whenSet _ Shape.lawful_count nofun,
    Member.lawful_whenSet _ Shape.lawful_text nofun, trivial⟩

theorem Direction.lawful_shape : Direction.shape.Lawful levels :=
  Shape.lawful_choice fun a => by cases a <;> decide

theorem Message.lawful_shape : Message.shape.Lawful 6 := by
  apply Shape.lawful_record _ _ (by decide) fun _ => rfl
  have headers : Headers.shape.Lawful 5 := Shape.lawful_mono Headers.lawful_shape (by decide)
  have optional (name : String) : (Member.whenSet name .text).Lawful 5 :=
    Member.lawful_whenSet name Shape.lawful_text nofun
  exact ⟨Member.lawful_required _ Shape.lawful_text, Member.lawful_required _ Shape.lawful_text,
    optional _, optional _, optional _, Member.lawful_required _ Shape.lawful_text,
    Member.lawful_withDefault _ _ headers, Member.lawful_withDefault _ _ Shape.lawful_text,
    Member.lawful_withDefault _ _ Shape.lawful_text,
    Member.lawful_withDefault _ _ (Shape.lawful_list Attachment.lawful_shape), optional _,
    optional _, Member.lawful_withDefault _ _ (Shape.lawful_list Shape.lawful_text),
    Member.lawful_withDefault _ _ Direction.lawful_shape, trivial⟩

theorem Codec.unpack_plain (m : Message) :
    Codec.plain.unpack (Message.shape.write m).canonical = .ok m := by
  have lawful := Shape.lawful_mono Message.lawful_shape (by decide : 6 ≤ Shape.maxLevels)
  change (Message.shape.parse _).mapError Error.json = _
  rw [Shape.parse_canonical lawful]
  rfl

theorem Forward.lawful_bodyShape : bodyShape.Lawful 1 := by
  apply Shape.lawful_record _ _ (by decide) fun _ => rfl
  exact ⟨Member.lawful_required _ Shape.lawful_text, trivial⟩

theorem Forward.ofMessage_message (forward : Forward) (attachmentId created : String)
    (direction : Direction) :
    ofMessage { forward.message attachmentId created with direction := direction } =
      .ok forward := by
  have lawful := Shape.lawful_mono lawful_bodyShape (by decide : 1 ≤ Shape.maxLevels)
  have next : bodyShape.parse (bodyShape.render forward.next) = .ok forward.next :=
    Shape.parse_render lawful forward.next
  simp [ofMessage, message, Message.make, Message.hasType, next, attachment, envelope?,
    Except.mapError]

end DidMessaging
