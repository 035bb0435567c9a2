/-
This file proves which exchanges register an applicant: those that bring a token. The
answer passes through many hands, of which each may find something missing, null or
empty: a reply must come, with a status of success and its whole body; the body must
be a document, the document an answer without messages, and its data must tell of a
user with a token that is not empty.

Each of these conditions is stated by itself, without the functions that check it. How
the document is written, in which order its members stand and what else they stand
among makes no difference. When all but the last condition hold and there is data,
the registration fails for want of a token, and it fails so in no other case.
-/

import Onboarding.Proofs.Json.Documents
import Onboarding.Proofs.Json.Records
import Onboarding.Registration.Service

namespace Onboarding

open Json

/-! ### Answers -/

namespace Answer

variable {α : Type}

/-- A member for messages in which there are none: it is missing, null or empty. -/
inductive NoMessages : Option Tree → Prop
  | missing : NoMessages none
  | null : NoMessages (some .null)
  | empty : NoMessages (some (.array []))

/-- A document that is an answer with data and without messages. -/
inductive Gives (reads : Tree → α → Prop) : Tree → α → Prop
  | answer {tree data : Tree} {errors : Option Tree} {value : α} :
      tree.Holds ["data", "errors"] 2 [some data, errors] → data ≠ .null → reads data value →
      NoMessages errors → Gives reads tree value

theorem outcome_eq_ok_iff {answer : Answer α} {value : α} :
    answer.outcome = .ok value ↔
      answer.data = some value ∧ (answer.messages = none ∨ answer.messages = some []) := by
  obtain ⟨data, messages⟩ := answer
  rcases messages with _ | _ | ⟨message, rest⟩ <;> cases data <;> simp [outcome]

theorem noMessages_iff {errors : Option Tree} :
    (member? (Tree.items? message?) errors = some none ∨
      member? (Tree.items? message?) errors = some (some [])) ↔ NoMessages errors := by
  constructor
  · intro found
    rcases errors with _ | tree
    · exact .missing
    · cases tree with
      | null => exact .null
      | array items =>
        cases items with
        | nil => exact .empty
        | cons item items =>
          rcases found with found | found
          · obtain ⟨messages, _, equal⟩ := Option.map_eq_some_iff.mp found
            cases equal
          · obtain ⟨messages, read, equal⟩ := Option.map_eq_some_iff.mp found
            cases equal
            rw [Tree.items?, List.mapM_cons] at read
            obtain ⟨message, _, rest⟩ := Option.bind_eq_some_iff.mp read
            obtain ⟨others, _, impossible⟩ := Option.bind_eq_some_iff.mp rest
            cases impossible
      | _ => rcases found with found | found <;> cases found
  · rintro (_ | _ | _)
    · exact .inl rfl
    · exact .inl rfl
    · exact .inr rfl

theorem ofTree?_eq_some_iff {readData : Tree → Option α} {tree : Tree} {answer : Answer α} :
    ofTree? readData tree = some answer ↔
      ∃ data errors, tree.Holds ["data", "errors"] 2 [data, errors] ∧
        member? readData data = some answer.data ∧
        member? (Tree.items? message?) errors = some answer.messages := by
  constructor
  · intro read
    obtain ⟨found, members, rest⟩ := Option.bind_eq_some_iff.mp read
    have holds := Tree.members?_eq_some_iff.mp members
    match found, rest with
    | [data, errors], rest =>
      obtain ⟨value, foundData, rest⟩ := Option.bind_eq_some_iff.mp rest
      obtain ⟨messages, foundMessages, equal⟩ := Option.bind_eq_some_iff.mp rest
      cases equal
      exact ⟨data, errors, holds, foundData, foundMessages⟩
  · rintro ⟨data, errors, holds, foundData, foundMessages⟩
    rw [ofTree?, Tree.members?_eq_some_iff.mpr holds]
    simp [foundData, foundMessages]

/-- The answers that come out as data. -/
theorem exists_outcome_iff {readData : Tree → Option α} {reads : Tree → α → Prop}
    (reading : ∀ tree value, readData tree = some value ↔ reads tree value) {tree : Tree}
    {value : α} :
    (∃ answer, ofTree? readData tree = some answer ∧ answer.outcome = .ok value) ↔
      Gives reads tree value := by
  constructor
  · rintro ⟨answer, made, comesOut⟩
    obtain ⟨data, errors, holds, foundData, foundMessages⟩ := ofTree?_eq_some_iff.mp made
    obtain ⟨hasData, noMessages⟩ := outcome_eq_ok_iff.mp comesOut
    rw [hasData] at foundData
    have free : NoMessages errors := by
      rcases noMessages with missing | empty
      · exact noMessages_iff.mp (.inl (missing ▸ foundMessages))
      · exact noMessages_iff.mp (.inr (empty ▸ foundMessages))
    cases (member?_eq_some_iff reading).mp foundData with
    | value present isData => exact .answer holds present isData free
  · rintro ⟨holds, present, isData, free⟩
    have foundData := (member?_eq_some_iff reading).mpr (.value present isData)
    rcases noMessages_iff.mpr free with missing | empty
    · exact ⟨⟨some value, none⟩, ofTree?_eq_some_iff.mpr ⟨_, _, holds, foundData, missing⟩, rfl⟩
    · exact ⟨⟨some value, some []⟩, ofTree?_eq_some_iff.mpr ⟨_, _, holds, foundData, empty⟩, rfl⟩

/-- The data that is found in a text is that of the answer that is written in it. -/
theorem decode_eq_ok_iff {readData : Tree → Option α} {reads : Tree → α → Prop}
    (reading : ∀ tree value, readData tree = some value ↔ reads tree value) {text : String}
    {value : α} :
    decode readData text = .ok value ↔
      ∃ tree : Tree, tree.Written text.toList ∧ Gives reads tree value := by
  simp only [← exists_outcome_iff reading, ← Tree.read?_eq_some_iff]
  rw [decode]
  cases read : Tree.read? text.toList with
  | none => simp
  | some tree =>
    rw [Option.bind_some]
    cases made : ofTree? readData tree with
    | none => simp [made]
    | some answer => simp [made]

/-- Whatever the text, no failure to find data in it is one for want of a token. -/
theorem decode_ne_missingToken (readData : Tree → Option α) (text : String) :
    decode readData text ≠ .error .missingToken := by
  rw [decode]
  split
  · next answer _ =>
    obtain ⟨data, messages⟩ := answer
    rcases messages with _ | _ | ⟨message, rest⟩ <;> cases data <;> simp [outcome]
  · simp

end Answer

/-! ### Exchanges -/

section

variable {charsets : Text.Charsets}

/-- The exchange brought a reply with a status of success and a whole body, of this text. What is
made of bytes in the encodings that are not described is given. -/
inductive Exchange.BringsText (charsets : Text.Charsets) : Exchange → String → Prop
  | reply {reply : Reply} {bytes : List UInt8} :
      200 ≤ reply.status → reply.status < 300 → reply.body = .whole bytes →
      BringsText charsets (.replied reply) (Text.decoded (reply.encoding charsets) bytes)

theorem Exchange.text_eq_ok_iff {exchange : Exchange} {text : String} :
    exchange.text charsets = .ok text ↔ exchange.BringsText charsets text := by
  constructor
  · intro brought
    cases exchange with
    | failed => cases brought
    | replied reply =>
      rw [Exchange.text] at brought
      split at brought
      · next success =>
        simp only [Reply.isSuccess, Bool.and_eq_true, decide_eq_true_eq] at success
        cases body : reply.body with
        | broken => simp [Reply.text, body] at brought
        | whole bytes =>
          simp only [Reply.text, body, Except.ok.injEq] at brought
          exact brought ▸ .reply success.1 success.2 body
      · cases brought
  · rintro ⟨least, most, body⟩
    simp [Exchange.text, Reply.isSuccess, least, most, Reply.text, body]

theorem Exchange.text_ne_missingToken (exchange : Exchange) :
    exchange.text charsets ≠ .error .missingToken := by
  cases exchange with
  | failed => simp [Exchange.text]
  | replied reply =>
    rw [Exchange.text]
    split
    · cases reply.text charsets <;> simp
    · unfold Reply.statusFailure
      split <;> simp

end

namespace Registration

/-! ### Tokens -/

/-- What is told of the new user: the token, unless it is missing or null. -/
inductive TellsToken : Tree → Option String → Prop
  | user {tree : Tree} {member : Option Tree} {token : Option String} :
      tree.Holds ["token"] 1 [member] → Optionally Tree.IsText member token → TellsToken tree token

/-- What data tells of the new user, unless there is none or it is null. -/
inductive DataToken : Tree → Option String → Prop
  | data {tree : Tree} {member : Option Tree} {user : Option (Option String)} :
      tree.Holds ["registerUser"] 1 [member] → Optionally TellsToken member user →
      DataToken tree user.join

/-- The exchange brought an answer with data and without messages, and the token in it. -/
inductive Brings (charsets : Text.Charsets) : Exchange → Option String → Prop
  | token {exchange : Exchange} {text : String} {tree : Tree} {token : Option String} :
      exchange.BringsText charsets text → tree.Written text.toList →
      Answer.Gives DataToken tree token → Brings charsets exchange token

theorem payloadToken?_eq_some_iff {tree : Tree} {token : Option String} :
    payloadToken? tree = some token ↔ TellsToken tree token := by
  constructor
  · intro read
    obtain ⟨found, members, rest⟩ := Option.bind_eq_some_iff.mp read
    have holds := Tree.members?_eq_some_iff.mp members
    match found, rest with
    | [member], rest =>
      exact .user holds ((member?_eq_some_iff fun _ _ => Tree.text?_eq_some_iff).mp rest)
  · rintro ⟨holds, member⟩
    rw [payloadToken?, Tree.members?_eq_some_iff.mpr holds]
    exact (member?_eq_some_iff fun _ _ => Tree.text?_eq_some_iff).mpr member

theorem dataToken?_eq_some_iff {tree : Tree} {token : Option String} :
    dataToken? tree = some token ↔ DataToken tree token := by
  constructor
  · intro read
    obtain ⟨found, members, rest⟩ := Option.bind_eq_some_iff.mp read
    have holds := Tree.members?_eq_some_iff.mp members
    match found, rest with
    | [member], rest =>
      -- A user who is null tells as little of a token as one whose token is null.
      obtain ⟨user, tells, equal⟩ := Option.bind_eq_some_iff.mp rest
      cases equal
      exact .data holds ((member?_eq_some_iff fun _ _ => payloadToken?_eq_some_iff).mp tells)
  · rintro ⟨holds, member⟩
    rw [dataToken?, operationName, Tree.members?_eq_some_iff.mpr holds]
    have tells := (member?_eq_some_iff fun _ _ => payloadToken?_eq_some_iff).mpr member
    simp [tells]

theorem ofExchange_eq_ok_iff {charsets : Text.Charsets} {exchange : Exchange}
    {token : Option String} :
    Answer.ofExchange charsets operationName dataToken? exchange = .ok token ↔
      Brings charsets exchange token := by
  have brings : Brings charsets exchange token ↔ ∃ text, exchange.text charsets = .ok text ∧
      Answer.decode dataToken? text = .ok token := by
    simp only [Exchange.text_eq_ok_iff,
      Answer.decode_eq_ok_iff fun _ _ => dataToken?_eq_some_iff]
    constructor
    · rintro ⟨brought, written, gives⟩
      exact ⟨_, brought, _, written, gives⟩
    · rintro ⟨text, brought, tree, written, gives⟩
      exact .token brought written gives
  rw [brings, Answer.ofExchange]
  cases brought : exchange.text charsets with
  | error => simp [Except.bind]
  | ok text =>
    simp only [Except.bind, Except.ok.injEq, exists_eq_left']
    cases Answer.decode dataToken? text <;> simp

/-- No exchange that brings no data at all fails for want of a token. -/
theorem ofExchange_ne_missingToken (charsets : Text.Charsets) (exchange : Exchange) :
    Answer.ofExchange charsets operationName dataToken? exchange ≠
      .error ⟨operationName, .missingToken⟩ := by
  rw [Answer.ofExchange]
  cases brought : exchange.text charsets with
  | error cause =>
    have other : cause ≠ .missingToken := fun same =>
      exchange.text_ne_missingToken (same ▸ brought)
    simp [Except.bind, other]
  | ok text =>
    simp only [Except.bind]
    cases decoded : Answer.decode dataToken? text with
    | ok => simp
    | error cause =>
      have other : cause ≠ .missingToken := fun same =>
        Answer.decode_ne_missingToken dataToken? text (same ▸ decoded)
      simp [other]

/-- An exchange registers an applicant exactly when it brings a token that is not empty; it fails
for want of a token exactly when it brings data with no token or an empty one. This is so whatever
the encodings are that are not described. -/
theorem tokenOf_eq_iff (charsets : Text.Charsets) (exchange : Exchange) :
    (∀ token, tokenOf charsets exchange = .ok token ↔
      token ≠ "" ∧ Brings charsets exchange (some token)) ∧
      (tokenOf charsets exchange = .error ⟨operationName, .missingToken⟩ ↔
        Brings charsets exchange none ∨ Brings charsets exchange (some "")) := by
  simp only [← ofExchange_eq_ok_iff]
  have other := ofExchange_ne_missingToken charsets exchange
  rw [tokenOf]
  cases brought : Answer.ofExchange charsets operationName dataToken? exchange with
  | error failure =>
    rw [brought] at other
    simpa using other
  | ok found =>
    cases found with
    | none => simp
    | some token =>
      dsimp only
      split
      · next empty => simp [empty, eq_comm]
      · next full => simp [full]

/-- Members in another order and among others, an escape, and blanks. -/
example :
    let user := "\x7b\"id\":1, \"token\":\"\\u0054\"\x7d"
    let body := "\x7b\"extensions\":[2], \"errors\":[],\n\"data\" :\x7b\"registerUser\":" ++ user ++
      "\x7d \x7d"
    (tokenOf (fun _ => none) (.replied ⟨201, [], .whole (Text.utf8Bytes body)⟩)).toOption =
      some "T" := by
  decide +kernel

end Registration

end Onboarding
