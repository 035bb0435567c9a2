/-
This file proves what becomes of a call that fails. A reply without success is told by its
status alone, and its body is not decoded; only the words for a status without a name of
its own quote it. The seconds to wait are those of the first header for them, when it
holds a number that 64 bits hold, and else they are left open without harm.

Which failures may pass is decided later, and from the failure alone. The two agree for
every exchange: a failure may pass, and its words invite to try again, exactly when the
transport failed, the service was asked too often, or the fault was its own.
-/

import Onboarding.Proofs.Numeric.Digits
import Onboarding.Proofs.Registration.Tokens
import Onboarding.Proofs.Text.Trimming
import Onboarding.Registration.Submission

namespace Onboarding

open Json Text

namespace Reply

/-! ### The time to wait -/

/-- The characters around the value of a header that do not count. -/
def isHeaderSpace (c : Char) : Bool := c == ' ' || c == '\t'

/-- The first header with the name, in letters of any case, holds this text, with nothing but spaces
and tabs around it. -/
inductive FirstHeader (reply : Reply) (name : String) : List Char → Prop
  | header {before after : List (String × String)} {found value : String} {text : List Char}
      (headers : reply.headers = before ++ (found, value) :: after)
      (earlier : ∀ header ∈ before, header.1.toLower ≠ name.toLower)
      (named : found.toLower = name.toLower)
      (stripped : IsStripped isHeaderSpace value.toList text) :
    FirstHeader reply name text

/-- The first header for it asks to wait for this number of seconds. -/
def AsksToWait (reply : Reply) (seconds : Nat) : Prop :=
  ∃ text, reply.FirstHeader "Retry-After" text ∧ Numeric.SpellsWord text seconds

variable (charsets : Charsets) (reply : Reply)

theorem trimHeader_eq_iff {value text : List Char} :
    trimHeader value = text ↔ IsStripped isHeaderSpace value text :=
  rdropWhile_dropWhile_eq_iff

theorem header?_eq_some_iff {name text : String} :
    reply.header? name = some text ↔
      reply.FirstHeader name text.toList ∧ ∀ c ∈ text.toList, isHeaderChar c = true := by
  constructor
  · intro read
    obtain ⟨⟨found, value⟩, first, rest⟩ := Option.bind_eq_some_iff.mp read
    obtain ⟨named, before, after, headers, earlier⟩ := List.find?_eq_some_iff_append.mp first
    obtain ⟨visible, same⟩ := Option.ite_none_right_eq_some.mp rest
    obtain rfl := Option.some.inj same
    rw [String.toList_ofList]
    refine ⟨.header headers (fun header member => ?_) (eq_of_beq named)
      (trimHeader_eq_iff.mp rfl), List.all_eq_true.mp visible⟩
    simpa using earlier header member
  · rintro ⟨first, visible⟩
    obtain @⟨before, after, found, value, _, headers, earlier, named, stripped⟩ := first
    have search : reply.headers.find? (fun header => header.1.toLower == name.toLower) =
        some (found, value) := by
      refine List.find?_eq_some_iff_append.mpr
        ⟨beq_iff_eq.mpr named, before, after, headers, fun header member => ?_⟩
      simpa using earlier header member
    have kept := trimHeader_eq_iff.mpr stripped
    rw [header?, search]
    simp only [Option.bind_eq_bind, Option.bind_some, kept, List.all_eq_true.mpr visible, if_true,
      String.ofList_toList]

theorem isHeaderChar_of_isDigit {c : Char} (digit : c.isDigit = true) : isHeaderChar c = true := by
  obtain ⟨least, most⟩ := Bool.and_eq_true_iff.mp digit
  have low : ' ' ≤ c := Char.le_trans (by decide) (of_decide_eq_true least)
  have high : c ≤ '~' := Char.le_trans (of_decide_eq_true most) (by decide)
  rw [isHeaderChar, decide_eq_true low, decide_eq_true high, Bool.and_self, Bool.or_true]

theorem isHeaderChar_of_spellsWord {text : List Char} {number : Nat}
    (spells : Numeric.SpellsWord text number) : ∀ c ∈ text, isHeaderChar c = true := by
  obtain ⟨_, digits, rfl | rfl, _, all, _⟩ := spells
  · exact fun c member => isHeaderChar_of_isDigit (all c member)
  · refine List.forall_mem_cons.mpr ⟨by decide, fun c member => ?_⟩
    exact isHeaderChar_of_isDigit (all c member)

/-- The time to wait is that of the first header for it; when this holds no number that fits, no
time is known. -/
theorem waitSeconds?_eq_some_iff {seconds : Nat} :
    reply.waitSeconds? = some seconds ↔ reply.AsksToWait seconds := by
  rw [waitSeconds?, Option.bind_eq_some_iff]
  constructor
  · rintro ⟨text, read, number⟩
    exact ⟨text.toList, (reply.header?_eq_some_iff.mp read).1,
      Numeric.wordOfText?_eq_some_iff.mp number⟩
  · rintro ⟨text, first, spells⟩
    have visible := isHeaderChar_of_spellsWord spells
    refine ⟨String.ofList text, reply.header?_eq_some_iff.mpr ?_, ?_⟩
    · rw [String.toList_ofList]
      exact ⟨first, visible⟩
    · rw [String.toList_ofList]
      exact Numeric.wordOfText?_eq_some_iff.mpr spells

/-! ### What a status stands for -/

/-- What a reply without success is taken for. What is made of bytes in the encodings that are not
described is given. -/
structure StandsFor (cause : FailureCause) : Prop where
  unauthorized : reply.status = 401 → cause = .unauthorized
  forbidden : reply.status = 403 → cause = .forbidden
  rateLimited : reply.status = 429 →
    ∃ wait, cause = .rateLimited wait ∧ ∀ seconds, wait = some seconds ↔ reply.AsksToWait seconds
  whole : reply.status ∉ [401, 403, 429] → ∀ bytes, reply.body = .whole bytes →
    cause = .http reply.status (decoded (reply.encoding charsets) bytes)
  broken : reply.status ∉ [401, 403, 429] → ∀ reason, reply.body = .broken reason →
    cause = .http reply.status ""

theorem statusFailure_of_other (other : reply.status ∉ [401, 403, 429]) :
    reply.statusFailure charsets = .http reply.status (match reply.text charsets with
      | .ok text => text
      | .error _ => "") := by
  unfold statusFailure
  split
  · next same => exact absurd (by simp [same]) other
  · next same => exact absurd (by simp [same]) other
  · next same => exact absurd (by simp [same]) other
  · rfl

theorem standsFor_statusFailure : reply.StandsFor charsets (reply.statusFailure charsets) where
  unauthorized status := by simp only [statusFailure, status]
  forbidden status := by simp only [statusFailure, status]
  rateLimited status := by
    refine ⟨reply.waitSeconds?, ?_, fun _ => reply.waitSeconds?_eq_some_iff⟩
    simp only [statusFailure, status]
  whole other bytes body := by rw [statusFailure_of_other charsets reply other, text, body]
  broken other reason body := by rw [statusFailure_of_other charsets reply other, text, body]

/-- A status without success may pass when it tells of too many requests or of a fault of the
service. -/
theorem isRetryable_statusFailure :
    (reply.statusFailure charsets).isRetryable = true ↔
      reply.status = 429 ∨ 500 ≤ reply.status := by
  unfold statusFailure
  split
  · next same => simp [same, FailureCause.isRetryable]
  · next same => simp [same, FailureCause.isRetryable]
  · next same => simp [same, FailureCause.isRetryable]
  · next others => simpa [FailureCause.isRetryable] using fun same => absurd same others

end Reply

/-! ### Failures that may pass -/

/-- The exchange failed for a reason that may pass: no reply came, or one of success that broke off,
or one of too many requests or of a fault of the service. -/
inductive Exchange.MayPass : Exchange → Prop
  | failed (reason : String) : MayPass (.failed reason)
  | broken {reply : Reply} {reason : String} (least : 200 ≤ reply.status)
      (most : reply.status < 300) (body : reply.body = .broken reason) : MayPass (.replied reply)
  | busy {reply : Reply} (status : reply.status = 429) : MayPass (.replied reply)
  | faulty {reply : Reply} (status : 500 ≤ reply.status) : MayPass (.replied reply)

namespace Exchange

variable (charsets : Charsets) (exchange : Exchange)

/-- Whether the exchange brought no text for a reason that may pass. -/
theorem exists_text_isRetryable_iff :
    (∃ cause, exchange.text charsets = .error cause ∧ cause.isRetryable = true) ↔
      exchange.MayPass := by
  cases exchange with
  | failed reason => exact iff_of_true ⟨_, rfl, rfl⟩ (.failed reason)
  | replied reply =>
    rw [Exchange.text]
    split
    · next success =>
      simp only [Reply.isSuccess, Bool.and_eq_true, decide_eq_true_eq] at success
      cases body : reply.body with
      | whole bytes =>
        refine iff_of_false (by simp [Reply.text, body]) fun mayPass => ?_
        cases mayPass with
        | broken _ _ broken => cases body.symm.trans broken
        | busy status => omega
        | faulty status => omega
      | broken reason =>
        exact iff_of_true ⟨_, by rw [Reply.text, body], rfl⟩ (.broken success.1 success.2 body)
    · next refused =>
      simp only [Reply.isSuccess, Bool.and_eq_true, decide_eq_true_eq] at refused
      simp only [Except.error.injEq, exists_eq_left', Reply.isRetryable_statusFailure]
      constructor
      · rintro (status | status)
        · exact .busy status
        · exact .faulty status
      · intro mayPass
        cases mayPass with
        | broken least most => exact absurd ⟨least, most⟩ refused
        | busy status => exact .inl status
        | faulty status => exact .inr status

/-- What the outcome of a call says of the exchange: it is a failure that may pass exactly when the
exchange failed for such a reason, and exactly then the words for the failure invite to try
again. -/
structure Told {α : Type} (outcome : Except Failure α) : Prop where
  retryable : (∃ failure, outcome = .error failure ∧ failure.isRetryable = true) ↔
    exchange.MayPass
  invites : ∀ failure, outcome = .error failure →
    ((Registration.SubmissionFailure.registration failure).advice =
      failure.message ++ " (try again)" ↔ exchange.MayPass)
  plain : ∀ failure, outcome = .error failure →
    ((Registration.SubmissionFailure.registration failure).advice = failure.message ↔
      ¬ exchange.MayPass)

end Exchange

theorem Failure.advice_eq (failure : Failure) :
    (failure.advice = failure.message ++ " (try again)" ↔ failure.isRetryable = true) ∧
      (failure.advice = failure.message ↔ ¬ failure.isRetryable = true) := by
  have longer : failure.message ++ " (try again)" ≠ failure.message := fun same => by
    have lengths := congrArg String.length same
    rw [String.length_append] at lengths
    have positive : " (try again)".length = 12 := rfl
    omega
  rw [advice]
  split
  · next retryable =>
    exact ⟨iff_of_true rfl retryable, iff_of_false longer (not_not_intro retryable)⟩
  · next final => exact ⟨iff_of_false longer.symm final, iff_of_true rfl final⟩

theorem Exchange.told_of_retryable {exchange : Exchange} {α : Type} {outcome : Except Failure α}
    (retryable : (∃ failure, outcome = .error failure ∧ failure.isRetryable = true) ↔
      exchange.MayPass) : exchange.Told outcome := by
  have same (failure : Failure) (failed : outcome = .error failure) :
      failure.isRetryable = true ↔ exchange.MayPass := by
    rw [← retryable, failed]
    simp only [Except.error.injEq, exists_eq_left']
  refine ⟨retryable, fun failure failed => ?_, fun failure failed => ?_⟩
  · exact failure.advice_eq.1.trans (same failure failed)
  · exact failure.advice_eq.2.trans (not_congr (same failure failed))

namespace Answer

variable {α : Type}

/-- A failure to find data in a text never passes by itself. -/
theorem isRetryable_of_decode {readData : Tree → Option α} {text : String} {cause : FailureCause}
    (failed : decode readData text = .error cause) : cause.isRetryable = false := by
  rw [decode] at failed
  split at failed
  · next answer _ =>
    obtain ⟨data, messages⟩ := answer
    rcases messages with _ | _ | ⟨message, rest⟩ <;> cases data <;> cases failed <;> rfl
  · cases failed
    rfl

theorem ofExchange_retryable_iff (charsets : Charsets) (operation : String)
    (readData : Tree → Option α) (exchange : Exchange) :
    (∃ failure, ofExchange charsets operation readData exchange = .error failure ∧
      failure.isRetryable = true) ↔ exchange.MayPass := by
  rw [← exchange.exists_text_isRetryable_iff charsets, ofExchange]
  cases exchange.text charsets with
  | error cause => simp [Except.bind, Failure.isRetryable]
  | ok text =>
    refine iff_of_false ?_ (by simp)
    cases decoded : decode readData text with
    | ok data => simp [Except.bind, decoded]
    | error cause =>
      have final := isRetryable_of_decode decoded
      simp [Except.bind, decoded, Failure.isRetryable, final]

/-- Whatever data is asked for, a reply without success is not looked into. -/
theorem ofExchange_of_refused (charsets : Charsets) (operation : String)
    (readData : Tree → Option α) {reply : Reply}
    (refused : reply.status < 200 ∨ 300 ≤ reply.status) :
    ofExchange charsets operation readData (.replied reply) =
      .error ⟨operation, reply.statusFailure charsets⟩ := by
  have noSuccess : reply.isSuccess = false := by
    rw [Reply.isSuccess, Bool.and_eq_false_iff, decide_eq_false_iff_not, decide_eq_false_iff_not,
      Nat.not_le, Nat.not_lt]
    exact refused
  rw [ofExchange, Exchange.text, noSuccess]
  rfl

end Answer

namespace Registration

theorem tokenOf_retryable_iff (charsets : Charsets) (exchange : Exchange) :
    (∃ failure, tokenOf charsets exchange = .error failure ∧ failure.isRetryable = true) ↔
      exchange.MayPass := by
  rw [← Answer.ofExchange_retryable_iff charsets operationName dataToken? exchange, tokenOf]
  cases Answer.ofExchange charsets operationName dataToken? exchange with
  | error failure => simp only [Except.error.injEq]
  | ok found =>
    -- For want of a token a registration fails for good.
    refine iff_of_false ?_ (by simp)
    cases found with
    | none => simp [Failure.isRetryable, FailureCause.isRetryable]
    | some token =>
      dsimp only
      split <;> simp [Failure.isRetryable, FailureCause.isRetryable]

/-- A reply without success makes any call fail, for the cause that its status stands for, whatever
data is asked for. And of every exchange the outcome of a call tells whether it failed for a reason
that may pass, and then alone the invitation to try again is put behind the words for the failure;
what a service writes may end in the same words, but these are not the invitation. -/
theorem told_of_exchange (charsets : Charsets) :
    (∀ reply : Reply, reply.status < 200 ∨ 300 ≤ reply.status →
      ∃ cause, reply.StandsFor charsets cause ∧
        (∀ {α : Type} (operation : String) (readData : Tree → Option α),
          Answer.ofExchange charsets operation readData (.replied reply) =
            .error ⟨operation, cause⟩) ∧
        tokenOf charsets (.replied reply) = .error ⟨operationName, cause⟩) ∧
    ∀ exchange : Exchange,
      (∀ {α : Type} (operation : String) (readData : Tree → Option α),
        exchange.Told (Answer.ofExchange charsets operation readData exchange)) ∧
      exchange.Told (tokenOf charsets exchange) := by
  refine ⟨fun reply refused => ?_, fun exchange => ⟨fun operation readData => ?_, ?_⟩⟩
  · refine ⟨reply.statusFailure charsets, reply.standsFor_statusFailure charsets,
      fun operation readData =>
        Answer.ofExchange_of_refused charsets operation readData refused, ?_⟩
    rw [tokenOf, Answer.ofExchange_of_refused charsets operationName dataToken? refused]
  · exact Exchange.told_of_retryable
      (Answer.ofExchange_retryable_iff charsets operation readData exchange)
  · exact Exchange.told_of_retryable (tokenOf_retryable_iff charsets exchange)

/-- Too many requests: of two headers the first one counts, with a sign and zeros in front of its
number, and a body that broke off does not matter. -/
theorem told_of_exchange_of_two_waits :
    let reply : Reply :=
      ⟨429, [("Server", "s"), ("retry-after", " +007\t"), ("Retry-After", "9")], .broken "cut"⟩
    let failure : Failure := ⟨operationName, .rateLimited (some 7)⟩
    (reply.status < 200 ∨ 300 ≤ reply.status) ∧
      tokenOf (fun _ => none) (.replied reply) = .error failure ∧
      (SubmissionFailure.registration failure).advice =
        "registerUser: Rate limited" ++ " (try again)" := by
  intro reply failure
  have refused : reply.status < 200 ∨ 300 ≤ reply.status := .inr (by decide)
  obtain ⟨cause, standsFor, -, failed⟩ := (told_of_exchange fun _ => none).1 reply refused
  obtain ⟨wait, rfl, asks⟩ := standsFor.rateLimited rfl
  have stripped : IsStripped Reply.isHeaderSpace " +007\t".toList "+007".toList :=
    Reply.trimHeader_eq_iff.mp (by decide)
  have headers : reply.headers =
      [("Server", "s")] ++ ("retry-after", " +007\t") :: [("Retry-After", "9")] := rfl
  have lower (text : String) : text.toLower.toList = text.toList.map Char.toLower :=
    String.toList_map
  have first : reply.FirstHeader "Retry-After" "+007".toList := by
    refine .header headers (List.forall_mem_singleton.mpr fun same => ?_) ?_ stripped
    · have letters := congrArg String.toList same
      rw [lower, lower] at letters
      exact absurd letters (by decide)
    · rw [← String.toList_inj, lower, lower]
      decide
  have seven : Numeric.SpellsWord "+007".toList 7 := Numeric.wordOfText?_eq_some_iff.mp (by decide)
  obtain rfl : wait = some 7 := (asks 7).mpr ⟨_, first, seven⟩
  have told := ((told_of_exchange fun _ => none).2 (.replied reply)).2
  exact ⟨refused, failed, (told.invites failure failed).mpr (.busy rfl)⟩

end Registration

end Onboarding
