/-
This file proves that the body of a request says what was asked and nothing else. Whatever
the query and the values of the variables are, they come back as they were when the body
is read, and no member is added or lost; for a registration these are the four texts of
the applicant, whatever characters they hold.
-/

import Onboarding.Proofs.Json.Data
import Onboarding.Registration.Online

namespace Onboarding

open Json

namespace Request

/-- What the body of a request holds: the query, and the values of the variables when there are
any. -/
def data (request : Request) : Value :=
  .object (("query", .string request.query) ::
    request.parameters.toList.map fun parameters => ("variables", parameters))

theorem body_eq (request : Request) : request.body = request.data.write := by
  rw [data, Value.write, writeMembers_eq]
  unfold body
  cases request.parameters with
  | none => rfl
  | some parameters => rfl

theorem data_isValid {request : Request}
    (valid : ∀ parameters ∈ request.parameters, parameters.IsValid) : request.data.IsValid := by
  unfold data
  cases given : request.parameters with
  | none =>
    refine .object (List.pairwise_singleton _ _) fun member inside => ?_
    rw [List.mem_singleton.mp inside]
    exact .string _
  | some parameters =>
    have sorted : ["query", "variables"].Pairwise (· < ·) := by decide
    refine .object sorted fun member inside => ?_
    rcases List.mem_cons.mp inside with rfl | last
    · exact .string _
    · rw [List.mem_singleton.mp last]
      exact valid parameters given

/-- The body of a request is read as its query and the values of its variables. -/
theorem read?_body_eq_data {request : Request}
    (valid : ∀ parameters ∈ request.parameters, parameters.IsValid) :
    Value.read? request.body = some request.data := by
  rw [body_eq]
  exact (data_isValid valid).read?_write

end Request

namespace Registration

/-- The variables of a registration are the texts of the four fields, sorted by name. -/
theorem Applicant.parameters_eq (applicant : Applicant) :
    applicant.parameters = .object [("email", .string applicant.email),
      ("firstName", .string applicant.firstName), ("lastName", .string applicant.lastName),
      ("password", .string applicant.password)] := by
  -- The names are compared one with another as the members are sorted.
  simp only [parameters, Field.all, memberName, Field.name, text, List.map_cons, List.map_nil,
    sortMembers, List.foldl_cons, List.foldl_nil, insertMember, String.reduceEq, String.reduceLT,
    reduceIte]

theorem Applicant.parameters_isValid (applicant : Applicant) : applicant.parameters.IsValid := by
  have sorted : ["email", "firstName", "lastName", "password"].Pairwise (· < ·) := by decide
  rw [applicant.parameters_eq]
  refine .object sorted fun member inside => ?_
  simp only [List.mem_cons, List.not_mem_nil, or_false] at inside
  rcases inside with rfl | rfl | rfl | rfl <;> exact .string _

/-- Every body is an object that holds the query, under the variables their values when there are
any, and no other member. A registration sends one request; the query of its body is the mutation,
and the variables are the four texts of the applicant. -/
theorem read?_body :
    (∀ request : Request, (∀ parameters ∈ request.parameters, parameters.IsValid) →
      Value.read? request.body = some (.object (("query", .string request.query) ::
        request.parameters.toList.map fun parameters => ("variables", parameters)))) ∧
    ∀ (charsets : Text.Charsets) (store : TokenStore) (now : Moment) (applicant : Applicant)
      (online : Online), ∃ request : Request,
        ((onlineServices charsets store now).register applicant online).2.sent =
          online.sent ++ [request] ∧
        Value.read? request.body = some (.object [("query", .string mutation),
          ("variables", .object [("email", .string applicant.email),
            ("firstName", .string applicant.firstName), ("lastName", .string applicant.lastName),
            ("password", .string applicant.password)])]) := by
  refine ⟨fun request valid => Request.read?_body_eq_data valid, fun _ _ _ applicant _ => ?_⟩
  have valid : ∀ parameters ∈ (request applicant).parameters, parameters.IsValid :=
    fun parameters given => Option.some.inj given ▸ applicant.parameters_isValid
  refine ⟨request applicant, rfl, ?_⟩
  rw [Request.read?_body_eq_data valid, ← applicant.parameters_eq]
  rfl

/-- A query with quotes and a line in it, and variables with an array of numbers, a name that is
written with escapes, and null. -/
theorem read?_body_of_escapes :
    let parameters : Value := .object [("\u0001\"\\", .null),
      ("items", .array [.number (.integer (-1)),
        .number (.float (.finite false 7205759403792794 (-56)))])]
    parameters.IsValid ∧
      Value.read? (Request.body ⟨"say \"me\"\n", some parameters⟩) =
        some (.object [("query", .string "say \"me\"\n"), ("variables", parameters)]) := by
  intro parameters
  have tenth : Numeric.Binary64.IsFinite 7205759403792794 (-56) :=
    ⟨by decide, by decide, by decide, .inl (by decide)⟩
  have valid : parameters.IsValid := by
    refine .object (by decide) fun member inside => ?_
    simp only [List.mem_cons, List.not_mem_nil, or_false] at inside
    rcases inside with rfl | rfl
    · exact .null
    · refine .array fun item inside => ?_
      simp only [List.mem_cons, List.not_mem_nil, or_false] at inside
      rcases inside with rfl | rfl
      · exact .number (.integer (by decide) (by decide))
      · exact .number (.float tenth)
  exact ⟨valid, read?_body.1 ⟨"say \"me\"\n", some parameters⟩
    fun _ given => Option.some.inj given ▸ valid⟩

end Registration

end Onboarding
