/-
This file proves that the wizard and the command line accept the same registrations.
The command checks all four texts at once. In the wizard they are typed character by
character, and only the texts of the page on display stand between a key and the next
page; texts at fault leave the remaining keys to a page they were not meant for. Still
the wizard hands values over exactly when the command asks for a registration, and the
applicant who is registered then is the same.
-/

import Onboarding.CommandLine.Outcome
import Onboarding.Proofs.Registration.Turning

namespace Onboarding

open Screen

namespace Registration

/-! ### The keys for an applicant -/

/-- The keys that type the texts of a page that was just displayed. -/
def pageKeys (first second : String) : List Key :=
  Wizard.typing first ++ .tab :: Wizard.typing second

/-- The keys that type the texts of an applicant, with the key for going on behind each page. -/
def Applicant.keys (applicant : Applicant) : List Key :=
  pageKeys applicant.firstName applicant.lastName ++
    .enter :: (pageKeys applicant.email applicant.password ++ [.enter])

namespace Wizard

variable {since wizard : Wizard} {page : Page}

theorem ne_of_mem_pageKeys (first second : String) :
    ∀ key ∈ pageKeys first second, key ≠ .enter ∧ key ≠ .escape := by
  intro key member
  simp only [pageKeys, typing, List.mem_append, List.mem_cons, List.mem_map] at member
  rcases member with ⟨c, _, rfl⟩ | rfl | ⟨c, _, rfl⟩ <;> simp

theorem entering_start {stream : List Location} {plan : Plan Page}
    (drawn : Plan.draw steps stream = some plan) (signedIn : Bool) :
    Entering (start plan signedIn) (start plan signedIn) .personal 0 .silent ∧
      (∀ index, (start plan signedIn).AtEnd index) ∧
      (start plan signedIn).form.handedOver = [] := by
  obtain ⟨blank, started, onPage, form⟩ := exists_blank_of_start drawn signedIn
  have visit : blank.display.visit = blank.visit := display_visit blank
  have idle : blank.isSubmitting = false := by
    rw [isSubmitting, form]
    rfl
  have values : blank.form.values = Applicant.silent.toEntries := by
    rw [form]
    rfl
  have handedOver : blank.display.form.handedOver = blank.form.handedOver := by
    rw [Wizard.form, Wizard.form, visit]
  have nothing : blank.form.handedOver = [] := by
    rw [form]
    rfl
  have displayed : Entering blank.display blank.display .personal 0 .silent ∧
      ∀ index, blank.display.AtEnd index :=
    entering_display onPage idle values handedOver.symm (by rw [visit])
  rw [started]
  exact ⟨displayed.1, displayed.2, handedOver.trans nothing⟩

/-- Typing both texts of a page whose texts are still empty. -/
theorem Entering.fill {entered : Applicant} {first second : Field}
    (entering : Entering since wizard page 0 entered) (atEnd : ∀ index, wizard.AtEnd index)
    (fields : page.fields = [first, second]) (emptyFirst : entered.text first = "")
    (emptySecond : entered.text second = "") (wanted : Applicant) :
    Entering since (wizard.pressAll (pageKeys (wanted.text first) (wanted.text second))) page 1
      (entered.takePage page wanted) := by
  have owner : page.fields[0]? = some first := by rw [fields, List.getElem?_cons_zero]
  have otherOwner : page.fields[1]? = some second := by
    rw [fields, List.getElem?_cons_succ, List.getElem?_cons_zero]
  have differs : second ≠ first := fun same =>
    Nat.one_ne_zero (Page.index_unique otherOwner (same ▸ owner))
  obtain ⟨typed, others⟩ := entering.type_text owner (atEnd 0) (wanted.text first)
  obtain ⟨moved, kept⟩ := typed.tab
  have movedAtEnd := kept 1 (others 1 Nat.one_ne_zero (atEnd 1))
  have filled := (moved.type_text otherOwner movedAtEnd (wanted.text second)).1
  rw [emptyFirst, String.empty_append, Applicant.text_enter, if_neg differs, emptySecond,
    String.empty_append] at filled
  rw [pageKeys, pressAll_append, pressAll_cons, Applicant.takePage, fields]
  exact filled

/-- With a text at fault on the first page, the keys for the second page hand nothing over. -/
theorem Entering.handedOver_of_faulty {index : Nat} {entered : Applicant} {field : Field}
    (entering : Entering since wizard .personal index entered)
    (member : field ∈ Page.personal.fields)
    (faulty : Registration.schema.fault? field.name entered.toEntries ≠ none)
    (first second : String) :
    (((wizard.press .enter).2.pressAll (pageKeys first second)).press .enter).2.form.handedOver =
      since.form.handedOver := by
  rw [← entering.values] at faulty
  obtain ⟨stayed, blocked⟩ := entering.shows.enter_of_faulty member faulty
  obtain ⟨typed, kept⟩ := stayed.pressAll_of_ne (ne_of_mem_pageKeys first second)
  rw [typed.handedOver_of_personal, kept, blocked, entering.handedOver]

/-- The wizard hands over the texts typed exactly when they keep all rules. -/
theorem handedOver_keys {stream : List Location} {plan : Plan Page}
    (drawn : Plan.draw steps stream = some plan) (signedIn : Bool) (applicant : Applicant) :
    ((start plan signedIn).pressAll applicant.keys).form.handedOver =
      if (Registration.schema.faults applicant.toEntries).isEmpty then [applicant.toEntries]
      else [] := by
  obtain ⟨entering, atEnd, nothing⟩ := entering_start drawn signedIn
  have named := entering.fill atEnd rfl rfl rfl applicant
  rw [Applicant.keys, pressAll_append, pressAll_cons, pressAll_append]
  show (((((start plan signedIn).pressAll
    (pageKeys (applicant.text .firstName) (applicant.text .lastName))).press .enter).2.pressAll
    (pageKeys (applicant.text .email) (applicant.text .password))).press
    .enter).2.form.handedOver = _
  by_cases names : ∀ field ∈ Page.personal.fields,
      Registration.schema.fault? field.name applicant.toEntries = none
  · rcases named.enter_cases (fun field member => (fault?_takePage _ member).trans
      (names field member)) with ⟨_, turned, turnedAtEnd⟩ | ⟨impossible, _⟩
    · have filled := turned.fill turnedAtEnd rfl rfl rfl applicant
      rw [Applicant.takePage_both] at filled
      cases passes : (Registration.schema.faults applicant.toEntries).isEmpty with
      | true =>
        have keeps := (isEmpty_faults_iff applicant.toEntries).mp passes
        rcases filled.enter_cases (fun field _ => keeps field) with
          ⟨impossible, _⟩ | ⟨_, _, handedOver, _⟩
        · cases impossible
        · rw [handedOver, nothing, List.nil_append, if_pos rfl]
      | false =>
        have broken : ¬ ∀ field : Field,
            Registration.schema.fault? field.name applicant.toEntries = none := by
          rw [← isEmpty_faults_iff, passes]
          exact Bool.false_ne_true
        obtain ⟨field, faulty⟩ := Classical.not_forall.mp broken
        -- The first page was passed, so the text at fault is on the second.
        have member : field ∈ Page.account.fields := by
          cases field with
          | firstName | lastName => exact absurd (names _ (by decide)) faulty
          | email | password => decide
        rw [← filled.values] at faulty
        rw [(filled.shows.enter_of_faulty member faulty).2, filled.handedOver, nothing,
          if_neg Bool.false_ne_true]
    · cases impossible
  · -- The keys for the second page land on the first one, whose last key hands nothing over.
    obtain ⟨field, broken⟩ := Classical.not_forall.mp names
    obtain ⟨member, faulty⟩ := Classical.not_imp.mp broken
    have fails : ¬ (Registration.schema.faults applicant.toEntries).isEmpty = true := fun passes =>
      faulty ((isEmpty_faults_iff applicant.toEntries).mp passes field)
    rw [← fault?_takePage .silent member] at faulty
    rw [named.handedOver_of_faulty member faulty, nothing, if_neg fails]

end Wizard

/-! ### What is asked of the services -/

variable {ω : Type}

/-- The services with a record of the applicants that they were asked to register. -/
def Services.recorded (services : Services ω) : Services (ω × List Applicant) where
  register applicant world :=
    let (outcome, next) := services.register applicant world.1
    (outcome, next, world.2 ++ [applicant])
  keep token world :=
    let (outcome, next) := services.keep token world.1
    (outcome, next, world.2)
  token? world := services.token? world.1

/-- A submission asks for one registration, and the record does not change what comes of it. -/
theorem Services.submit_recorded (services : Services ω) (applicant : Applicant) (world : ω)
    (asked : List Applicant) :
    services.recorded.submit applicant.toEntries (world, asked) =
      ((services.submit applicant.toEntries world).1,
        (services.submit applicant.toEntries world).2, asked ++ [applicant]) := by
  obtain ⟨registers, keeps, looks⟩ := services
  unfold Services.submit
  rw [Applicant.ofEntries_toEntries]
  simp only [registerAndKeep, recorded]
  rcases registers applicant world with ⟨failure | token, next⟩
  · rfl
  · dsimp only
    rcases keeps token next with ⟨failure | _, last⟩ <;> rfl

end Registration

namespace CommandLine

open Registration

variable {ω : Type}

/-- The command asks for a registration exactly when all texts keep the rules. -/
theorem register_recorded (services : Services ω) (success : String) (applicant : Applicant)
    (world : ω) (asked : List Applicant) :
    (register services.recorded success applicant (world, asked)).2.2 =
      if (schema.faults applicant.toEntries).isEmpty then asked ++ [applicant] else asked := by
  unfold register
  dsimp only
  cases passes : (schema.faults applicant.toEntries).isEmpty with
  | false => rfl
  | true =>
    rw [Services.submit_recorded]
    cases (services.submit applicant.toEntries world).1 <;> rfl

/-- The wizard and the command line accept the same registrations: the keys for an applicant hand
values over exactly when the texts keep all rules, then once and as they are; the command asks for
a registration exactly then, once, and of the very applicant whom a submission of the values
registers. -/
theorem accepts_alike {stream : List Location} {plan : Plan Page}
    (drawn : Plan.draw steps stream = some plan) (signedIn : Bool) (services : Services ω)
    (success : String) (world : ω) (applicant : Applicant) :
    let handedOver := ((Wizard.start plan signedIn).pressAll applicant.keys).form.handedOver
    let asked := (register services.recorded success applicant (world, [])).2.2
    (handedOver ≠ [] ↔ (schema.faults applicant.toEntries).isEmpty = true) ∧
    (asked ≠ [] ↔ (schema.faults applicant.toEntries).isEmpty = true) ∧
    ((schema.faults applicant.toEntries).isEmpty = true →
      handedOver = [applicant.toEntries] ∧ asked = [applicant]) ∧
    ∀ values ∈ handedOver, (services.recorded.submit values (world, [])).2.2 = asked := by
  intro handedOver asked
  have typed : handedOver = _ := Wizard.handedOver_keys drawn signedIn applicant
  have given : asked = _ := register_recorded services success applicant world []
  rw [List.nil_append] at given
  rw [typed, given]
  cases passes : (schema.faults applicant.toEntries).isEmpty with
  | false => simp
  | true =>
    refine ⟨by simp, by simp, fun _ => ⟨rfl, rfl⟩, fun values member => ?_⟩
    rw [List.mem_singleton.mp member, Services.submit_recorded]
    rfl

/-- An applicant with blanks around the address and a quote in the password. -/
theorem accepts_alike_with_blanks :
    let services : Services Unit :=
      ⟨fun _ world => (.ok "T", world), fun _ world => (.ok (), world), fun _ => none⟩
    let applicant : Applicant := ⟨"A\tB", "L", " a@b.co ", "pass\"word"⟩
    let handedOver :=
      ((Wizard.start Wizard.shortPlan false).pressAll applicant.keys).form.handedOver
    let asked := (register services.recorded "done" applicant ((), [])).2.2
    Plan.draw steps [⟨"/a"⟩, ⟨"/b"⟩] = some Wizard.shortPlan ∧
      handedOver = [applicant.toEntries] ∧ asked = [applicant] := by
  intro services applicant handedOver asked
  have alike := accepts_alike Wizard.draw_shortPlan false services "done" () applicant
  exact ⟨Wizard.draw_shortPlan, alike.2.2.1 (by decide +kernel)⟩

end CommandLine

end Onboarding
