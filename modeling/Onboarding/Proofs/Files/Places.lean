/-
This file proves what becomes of the place that a path leads to when a file is put
there or removed. The way to the place goes through directories only, and neither
change takes a directory away, so the path leads to the same place afterwards. What
stands in the way of changes there stays as well.
-/

import Onboarding.Files.Disk

namespace Onboarding.Disk

variable {disk other : Disk} {path : String} {parts : List String} {node : Node}

/-! ### What is kept under parts -/

theorem node?_put (named : parts ≠ []) (node : Node) :
    (disk.put parts node).node? parts = some node := by
  rw [node?, if_neg named, put, List.lookup_cons_self]

theorem node?_remove_of_ne {others : List String} (differ : others ≠ parts) :
    (disk.remove parts).node? others = disk.node? others := by
  unfold node?
  split
  · rfl
  · rw [remove]
    induction disk.nodes with
    | nil => rfl
    | cons entry rest inductionHypothesis =>
      by_cases removed : entry.1 = parts
      · have skipped : (others == entry.1) = false := by
          rw [removed]
          exact beq_false_of_ne differ
        rw [List.filter_cons_of_neg (by simp [removed]), inductionHypothesis, List.lookup_cons,
          skipped]
      · rw [List.filter_cons_of_pos (by simp [removed]), List.lookup_cons, List.lookup_cons,
          inductionHypothesis]

theorem node?_remove (named : parts ≠ []) : (disk.remove parts).node? parts = none := by
  rw [node?, if_neg named, remove]
  induction disk.nodes with
  | nil => rfl
  | cons entry rest inductionHypothesis =>
    by_cases removed : entry.1 = parts
    · rw [List.filter_cons_of_neg (by simp [removed]), inductionHypothesis]
    · have skipped : (parts == entry.1) = false := beq_false_of_ne (Ne.symm removed)
      rw [List.filter_cons_of_pos (by simp [removed]), List.lookup_cons, skipped,
        inductionHypothesis]

theorem node?_put_of_ne {others : List String} (differ : others ≠ parts) (node : Node) :
    (disk.put parts node).node? others = disk.node? others := by
  refine Eq.trans ?_ (node?_remove_of_ne differ)
  unfold node?
  rw [put, List.lookup_cons, beq_false_of_ne differ]

/-! ### Ways -/

/-- A disk has all directories of another one. -/
def HasDirectoriesOf (disk other : Disk) : Prop :=
  ∀ parts, other.node? parts = some .directory → disk.node? parts = some .directory

theorem hasDirectoriesOf_put (free : disk.node? parts ≠ some .directory) (node : Node) :
    (disk.put parts node).HasDirectoriesOf disk := by
  intro others directory
  have differ : others ≠ parts := by
    rintro rfl
    exact free directory
  rwa [node?_put_of_ne differ]

theorem hasDirectoriesOf_remove (free : disk.node? parts ≠ some .directory) :
    (disk.remove parts).HasDirectoriesOf disk := by
  intro others directory
  have differ : others ≠ parts := by
    rintro rfl
    exact free directory
  rwa [node?_remove_of_ne differ]

theorem HasDirectoriesOf.enter? {start into : List String} {step : String}
    (has : other.HasDirectoriesOf disk) (entered : disk.enter? start step = some into) :
    other.enter? start step = some into := by
  simp only [Disk.enter?] at entered ⊢
  split at entered
  · next back => rw [if_pos back, entered]
  · next name =>
    split at entered
    · next directory => rw [if_neg name, if_pos (has _ directory), entered]
    · cases entered

theorem HasDirectoriesOf.foldlM_enter? {start into : List String} {steps : List String}
    (has : other.HasDirectoriesOf disk) (entered : steps.foldlM disk.enter? start = some into) :
    steps.foldlM other.enter? start = some into := by
  induction steps generalizing start with
  | nil => exact entered
  | cons step steps inductionHypothesis =>
    obtain ⟨next, first, rest⟩ := Option.bind_eq_some_iff.mp entered
    exact Option.bind_eq_some_iff.mpr ⟨next, has.enter? first, inductionHypothesis rest⟩

/-- A path leads to the parts, where a file can be: there are all directories on the way, and the
path does not have the shape of one of a directory. -/
inductive Leads (disk : Disk) (path : String) : List String → Prop
  | way {last : String} {directory : List String} :
      (Path.steps path).getLast? = some last → last ≠ Path.back →
      Path.isOfDirectory path = false →
      (Path.steps path).dropLast.foldlM disk.enter? [] = some directory →
      Leads disk path (directory ++ [last])

theorem Leads.ne_nil (leads : disk.Leads path parts) : parts ≠ [] := by
  cases leads
  exact List.append_ne_nil_of_right_ne_nil _ (List.cons_ne_nil _ _)

theorem Leads.of_hasDirectories (leads : disk.Leads path parts)
    (has : other.HasDirectoriesOf disk) : other.Leads path parts := by
  cases leads with
  | way named name noDirectory entered =>
    exact .way named name noDirectory (has.foldlM_enter? entered)

theorem Leads.place_of_some (leads : disk.Leads path parts) (kept : disk.node? parts = some node) :
    disk.place path = .found parts node := by
  cases leads with
  | way named name noDirectory entered =>
    unfold place
    simp only [named, entered, name, if_false, kept, noDirectory]
    cases node <;> rfl

theorem Leads.place_of_none (leads : disk.Leads path parts) (kept : disk.node? parts = none) :
    disk.place path = .vacant parts := by
  cases leads with
  | way named name noDirectory entered =>
    unfold place
    simp only [named, entered, name, if_false, kept, noDirectory]

/-- A path leads nowhere, to a directory, or to where a file is or can be. -/
theorem place_cases (disk : Disk) (path : String) :
    disk.place path = .nowhere ∨ (∃ parts, disk.place path = .found parts .directory) ∨
      ∃ parts, disk.Leads path parts ∧ disk.node? parts ≠ some .directory := by
  cases named : (Path.steps path).getLast? with
  | none => exact .inr (.inl ⟨[], by simp [place, named]⟩)
  | some last =>
    cases entered : (Path.steps path).dropLast.foldlM disk.enter? [] with
    | none => exact .inl (by simp [place, named, entered])
    | some directory =>
      by_cases back : last = Path.back
      · exact .inr (.inl ⟨directory.dropLast, by simp [place, named, entered, back]⟩)
      · by_cases kept : disk.node? (directory ++ [last]) = some .directory
        · exact .inr (.inl ⟨directory ++ [last], by simp [place, named, entered, back, kept]⟩)
        · cases ofDirectory : Path.isOfDirectory path with
          | false => exact .inr (.inr ⟨_, .way named back ofDirectory entered, kept⟩)
          | true =>
            -- A path of the shape of a directory's does not lead to a file of that name.
            refine .inl ?_
            cases found : disk.node? (directory ++ [last]) with
            | none => simp [place, named, entered, back, found, ofDirectory]
            | some node =>
              cases node with
              | directory => exact absurd found kept
              | file => simp [place, named, entered, back, found, ofDirectory]

/-! ### Directories around a path -/

/-- Where all directories are there, none is made. -/
theorem makeOnWay_of_entered {start into : List String} {steps : List String} (made : Bool)
    (entered : steps.foldlM disk.enter? start = some into) :
    disk.makeOnWay start made steps = (disk, none) := by
  induction steps generalizing start with
  | nil => rfl
  | cons step steps inductionHypothesis =>
    obtain ⟨next, first, rest⟩ := Option.bind_eq_some_iff.mp entered
    simp only [makeOnWay, first]
    exact inductionHypothesis rest

theorem makeAround_of_place (placed : disk.place path ≠ .nowhere) :
    disk.makeAround path = disk := by
  cases named : (Path.steps path).getLast? with
  | none =>
    rw [makeAround, List.getLast?_eq_none_iff.mp named]
    rfl
  | some last =>
    cases entered : (Path.steps path).dropLast.foldlM disk.enter? [] with
    | none => exact absurd (by simp [place, named, entered]) placed
    | some directory => rw [makeAround, makeOnWay_of_entered false entered]

/-! ### Files at the end of a path -/

/-- Whether a path leads to where a file is or can be, with nothing in the way of changes there. -/
def isFree (disk : Disk) (path : String) : Bool :=
  match disk.place path with
  | .found parts (.file ..) | .vacant parts => (disk.hindrance? parts).isNone
  | _ => false

/-- A file can be written and removed under a path, whatever is written, once the directories around
it are made as far as they are missing. -/
def Writable (disk : Disk) (path : String) : Prop :=
  (disk.makeAround path).isFree path = true

/-- A text can be written in full under a path, once the directories around it are made as far as
they are missing. -/
def Takes (disk : Disk) (path text : String) : Prop :=
  (disk.makeAround path).writeOutcome path text = .complete

theorem Leads.isFree_eq (leads : disk.Leads path parts)
    (free : disk.node? parts ≠ some .directory) :
    disk.isFree path = (disk.hindrance? parts).isNone := by
  cases kept : disk.node? parts with
  | none => rw [isFree, leads.place_of_none kept]
  | some node =>
    rw [isFree, leads.place_of_some kept]
    cases node with
    | directory => exact absurd kept free
    | file => rfl

theorem Leads.writeOutcome_eq (leads : disk.Leads path parts)
    (free : disk.node? parts ≠ some .directory) (text : String) :
    disk.writeOutcome path text = outcomeOf text (disk.hindrance? parts) := by
  cases kept : disk.node? parts with
  | none => rw [writeOutcome, leads.place_of_none kept]
  | some node =>
    rw [writeOutcome, leads.place_of_some kept]
    cases node with
    | directory => exact absurd kept free
    | file => rfl

/-- A path that leads nowhere or to a directory is not free. -/
theorem exists_leads_of_isFree (free : disk.isFree path = true) :
    ∃ parts, disk.Leads path parts ∧ disk.node? parts ≠ some .directory ∧
      disk.hindrance? parts = none := by
  rcases place_cases disk path with nowhere | ⟨parts, directory⟩ | ⟨parts, leads, noDirectory⟩
  · rw [isFree, nowhere] at free
    cases free
  · rw [isFree, directory] at free
    cases free
  · rw [leads.isFree_eq noDirectory, Option.isNone_iff_eq_none] at free
    exact ⟨parts, leads, noDirectory, free⟩

theorem Leads.writable (leads : disk.Leads path parts) (free : disk.node? parts ≠ some .directory)
    (unhindered : disk.hindrance? parts = none) : disk.Writable path := by
  have isFree : disk.isFree path = true := by
    rw [leads.isFree_eq free, unhindered]
    rfl
  have there : disk.place path ≠ .nowhere := by
    intro nowhere
    rw [Disk.isFree, nowhere] at isFree
    cases isFree
  rwa [Writable, makeAround_of_place there]

theorem Writable.exists_leads (writable : disk.Writable path) :
    ∃ parts, (disk.makeAround path).Leads path parts ∧
      (disk.makeAround path).node? parts ≠ some .directory ∧
        (disk.makeAround path).hindrance? parts = none :=
  exists_leads_of_isFree writable

theorem Writable.takes (writable : disk.Writable path) (text : String) : disk.Takes path text := by
  obtain ⟨parts, leads, free, unhindered⟩ := writable.exists_leads
  rw [Takes, leads.writeOutcome_eq free, unhindered]
  rfl

/-- Without any directory made, such a path leads nowhere or to where a file is or can be. -/
theorem Writable.place_cases (writable : disk.Writable path) :
    disk.place path = .nowhere ∨
      ∃ parts, disk.Leads path parts ∧ disk.node? parts ≠ some .directory ∧
        disk.hindrance? parts = none := by
  by_cases nowhere : disk.place path = .nowhere
  · exact .inl nowhere
  · rw [Writable, makeAround_of_place nowhere] at writable
    exact .inr (exists_leads_of_isFree writable)

theorem Leads.putFile_eq (leads : disk.Leads path parts)
    (free : disk.node? parts ≠ some .directory) (bytes : List UInt8) (mode : Nat) :
    disk.putFile path bytes mode = disk.put parts (.file bytes mode) := by
  cases kept : disk.node? parts with
  | none => rw [putFile, leads.place_of_none kept]
  | some node =>
    rw [putFile, leads.place_of_some kept]
    cases node with
    | directory => exact absurd kept free
    | file => rfl

/-! ### Files put and removed -/

section

variable (leads : disk.Leads path parts) (free : disk.node? parts ≠ some .directory)

include leads free

theorem Leads.put (bytes : List UInt8) (mode : Nat) :
    (disk.put parts (.file bytes mode)).Leads path parts :=
  leads.of_hasDirectories (hasDirectoriesOf_put free _)

theorem Leads.remove : (disk.remove parts).Leads path parts :=
  leads.of_hasDirectories (hasDirectoriesOf_remove free)

theorem Leads.content_put (bytes : List UInt8) (mode : Nat) :
    (disk.put parts (.file bytes mode)).content path = .file bytes mode := by
  rw [content, find?, (leads.put free bytes mode).place_of_some (node?_put leads.ne_nil _)]

theorem Leads.content_remove : (disk.remove parts).content path = .missing := by
  rw [content, find?, (leads.remove free).place_of_none (node?_remove leads.ne_nil)]

theorem Leads.writable_put (unhindered : disk.hindrance? parts = none) (bytes : List UInt8)
    (mode : Nat) : (disk.put parts (.file bytes mode)).Writable path := by
  refine (leads.put free bytes mode).writable ?_ unhindered
  rw [node?_put leads.ne_nil]
  simp

theorem Leads.writable_remove (unhindered : disk.hindrance? parts = none) :
    (disk.remove parts).Writable path := by
  refine (leads.remove free).writable ?_ unhindered
  rw [node?_remove leads.ne_nil]
  simp

end

/-! ### Texts that are cut off -/

theorem lt_of_outcomeOf {text : String} {hindrance : Option Hindrance} {count : Nat}
    (cut : outcomeOf text hindrance = .brokenOff count) :
    count < (Text.utf8Bytes text).length := by
  unfold outcomeOf at cut
  split at cut
  · cases cut
  · cases cut
  · cases cut
  · split at cut
    · cases cut
    · next more =>
      cases cut
      exact Nat.not_le.mp more

/-- A text that is cut off is not written in full. -/
theorem lt_of_writeOutcome {text : String} {count : Nat}
    (cut : disk.writeOutcome path text = .brokenOff count) :
    count < (Text.utf8Bytes text).length := by
  unfold writeOutcome at cut
  split at cut
  · exact lt_of_outcomeOf cut
  · exact lt_of_outcomeOf cut
  · cases cut

end Onboarding.Disk
