/-
This file proves which address a registration sends. An address is checked without the
blanks around it, while the applicant is made of the texts as they stand in the form. So what
is sent is an address with the very blanks around it that stood in the form, and an address
itself when there were none.
-/

import Onboarding.Proofs.Exchange.Bodies
import Onboarding.Proofs.Form.Addresses
import Onboarding.Proofs.Registration.Completeness

namespace Onboarding

/-! ### An address has no blanks -/

namespace EmailAddress

open Text

theorem isBlank_of_mem_domain {domain : List Char} (areLabels : AreLabels (pieces '.' domain))
    {c : Char} (inside : c ∈ domain) : isBlank c = false := by
  obtain ⟨first, others, split⟩ := List.exists_cons_of_ne_nil (pieces_ne_nil '.' domain)
  have ofLabel : ∀ label ∈ pieces '.' domain, ∀ d ∈ label, isBlank d = false := by
    intro label member d among
    rcases (areLabels.each label member).2 d among with alphanum | rfl
    · exact isBlank_of_isAlphanum alphanum
    · decide
  rw [← joinPieces_pieces '.' domain, split, joinPieces_cons, List.mem_append,
    List.mem_flatMap] at inside
  rw [split] at ofLabel
  rcases inside with inFirst | ⟨label, later, behindDot⟩
  · exact ofLabel first List.mem_cons_self c inFirst
  · rcases List.mem_cons.mp behindDot with rfl | inLabel
    · decide
    · exact ofLabel label (List.mem_cons_of_mem first later) c inLabel

theorem IsAddress.isBlank_of_mem {text : List Char} (isAddress : IsAddress text) {c : Char}
    (inside : c ∈ text) : isBlank c = false := by
  obtain ⟨_, each, areLabels⟩ := isAddress
  rcases List.mem_append.mp inside with inLocal | inRest
  · rcases each c inLocal with alphanum | mark
    · exact isBlank_of_isAlphanum alphanum
    · simp only [List.mem_cons, List.not_mem_nil, or_false] at mark
      rcases mark with rfl | rfl | rfl | rfl | rfl <;> decide
  · rcases List.mem_cons.mp inRest with rfl | inDomain
    · decide
    · exact isBlank_of_mem_domain areLabels inDomain

theorem IsAddress.isTrimmed {text : List Char} (isAddress : IsAddress text) :
    IsTrimmed text text where
  around := ⟨[], [], by simp, by simp, by simp⟩
  first c first := isAddress.isBlank_of_mem (List.mem_of_mem_head? first)
  last c last := isAddress.isBlank_of_mem (List.mem_of_mem_getLast? last)

/-- A text that trimming makes an address is one itself exactly when trimming takes nothing. -/
theorem isAddress_iff_of_isTrimmed {text core : List Char} (trimmed : IsTrimmed text core)
    (isAddress : IsAddress core) : IsAddress text ↔ text = core := by
  constructor
  · intro whole
    exact (trim_eq_iff.mpr whole.isTrimmed).symm.trans (trim_eq_iff.mpr trimmed)
  · rintro rfl
    exact isAddress

end EmailAddress

/-! ### The address that is sent -/

namespace Registration

open EmailAddress Json Text

/-- Where values keep the rules, trimming makes the text for the address an address. -/
theorem isAddress_trim_of_passes {values : Entries}
    (passes : (schema.faults values).isEmpty = true) :
    IsAddress (trim (values.getText Field.email.name).toList) := by
  have faultless := (isEmpty_faults_iff values).mp passes .email
  rw [fault?_name] at faultless
  have addressRule : (⟨.address, "Must be a valid email"⟩ : Rule) ∈ rules .email :=
    List.mem_cons_of_mem _ List.mem_cons_self
  exact (accepts_iff _).mp (Schema.firstFault?_eq_none_iff.mp faultless _ addressRule)

/-- A submission of values that an applicant can be made of sends one request, whose body is read
as the mutation and the texts of the applicant. -/
theorem exists_sent_of_made {values : Entries} {applicant : Applicant}
    (made : Applicant.ofEntries values = .ok applicant) (charsets : Text.Charsets)
    (store : TokenStore) (now : Moment) (online : Online) :
    ∃ sent : Request,
      ((onlineServices charsets store now).submit values online).2.sent = online.sent ++ [sent] ∧
      Value.read? sent.body = some (.object [("query", .string mutation),
        ("variables", .object [("email", .string applicant.email),
          ("firstName", .string applicant.firstName), ("lastName", .string applicant.lastName),
          ("password", .string applicant.password)])]) := by
  refine ⟨request applicant, ?_, ?_⟩
  · simp only [Services.submit, made, Services.registerAndKeep, onlineServices, Online.send]
    cases tokenOf charsets (online.exchanges.headD unanswered) <;> cases store <;> rfl
  · have valid : ∀ parameters ∈ (request applicant).parameters, parameters.IsValid :=
      fun parameters given => Option.some.inj given ▸ applicant.parameters_isValid
    rw [Request.read?_body_eq_data valid, ← applicant.parameters_eq]
    rfl

/-- Of values that keep the rules an applicant is made with the address as it stands in the values,
and the one request that a submission sends holds it so. This text is an address between blanks,
and an address itself exactly when there are no blanks. -/
theorem sent_address_of_passes {values : Entries} (passes : (schema.faults values).isEmpty = true)
    (charsets : Text.Charsets) (store : TokenStore) (now : Moment) (online : Online) :
    ∃ applicant : Applicant, Applicant.ofEntries values = .ok applicant ∧
      values.get? Field.email.name = some applicant.email ∧
      (∃ sent : Request,
        ((onlineServices charsets store now).submit values online).2.sent =
          online.sent ++ [sent] ∧
        Value.read? sent.body = some (.object [("query", .string mutation),
          ("variables", .object [("email", .string applicant.email),
            ("firstName", .string applicant.firstName), ("lastName", .string applicant.lastName),
            ("password", .string applicant.password)])])) ∧
      ∃ core, IsTrimmed applicant.email.toList core ∧ IsAddress core ∧
        (IsAddress applicant.email.toList ↔ applicant.email.toList = core) := by
  obtain ⟨applicant, of⟩ := exists_applicant_of_passes passes
  have inForm : values.get? Field.email.name = some applicant.email := of.texts .email
  have isAddress := isAddress_trim_of_passes passes
  rw [Entries.getText, inForm, Option.getD_some] at isAddress
  have trimmed := trim_eq_iff.mp (rfl : trim applicant.email.toList = _)
  exact ⟨applicant, of.made, inForm, exists_sent_of_made of.made charsets store now online, _,
    trimmed, isAddress, isAddress_iff_of_isTrimmed trimmed isAddress⟩

/-- An address without blanks, beside a value under another name, is sent as an address. -/
theorem sent_address_of_plain :
    let values : Entries := .ofList [("email", "ada@b.co"), ("newsletter", "yes"),
      ("lastName", " L"), ("firstName", "A"), ("password", "analytical")]
    (schema.faults values).isEmpty = true ∧
      ∃ applicant : Applicant, Applicant.ofEntries values = .ok applicant ∧
        IsAddress applicant.email.toList := by
  intro values
  have passes : (schema.faults values).isEmpty = true := by decide +kernel
  obtain ⟨applicant, made, inForm, -, core, trimmed, -, iff⟩ :=
    sent_address_of_passes passes (fun _ => none) .slotOnly ⟨⟨2024, 2, 29⟩, 12, 0, 0, 0⟩
      ⟨⟨none, .empty⟩, [], []⟩
  have plain : "ada@b.co" = applicant.email := Option.some.inj inForm
  refine ⟨passes, applicant, made, iff.mpr ?_⟩
  rw [← trim_eq_iff.mpr trimmed, ← plain]
  decide

/-- An address with blanks around it keeps the rules, and is sent with its blanks, which make it
none. -/
theorem sent_address_with_blanks :
    let values : Entries := .ofList [("firstName", "A"), ("lastName", "L"),
      ("email", " a@b.com "), ("password", "password1")]
    let applicant : Applicant := ⟨"A", "L", " a@b.com ", "password1"⟩
    let services := onlineServices (fun _ => none) .slotOnly ⟨⟨2024, 2, 29⟩, 12, 0, 0, 0⟩
    (schema.faults values).isEmpty = true ∧ Applicant.ofEntries values = .ok applicant ∧
      (services.submit values ⟨⟨none, .empty⟩, [], []⟩).2.sent.map Request.parameters =
        [some applicant.parameters] ∧
      ¬ IsAddress applicant.email.toList ∧ ¬ IsTrimmed applicant.email.toList
        applicant.email.toList := by
  intro values applicant services
  have blank : isBlank ' ' = true := by decide
  have trimmed : ¬ IsTrimmed applicant.email.toList applicant.email.toList := fun whole =>
    Bool.eq_false_iff.mp (whole.first ' ' (by decide)) blank
  exact ⟨by decide +kernel, rfl, rfl, fun isAddress => trimmed isAddress.isTrimmed, trimmed⟩

end Registration

end Onboarding
