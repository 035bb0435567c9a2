/-
This file proves that the reading of JSON documents is exact: a text is read as a
document exactly when the document's tokens are written in it.

The tokens of a document follow from its shape. The reader takes them one at a time
and keeps the containers around it on a stack; what it has read so far can be seen
from where it stands, so no other tokens can lead it to a document.
-/

import Onboarding.Json.Tree
import Onboarding.Proofs.Json.Lexing

namespace Onboarding.Json

/-! ### The tokens of a document -/

mutual

/-- The tokens of a document. -/
def Tree.tokens : Tree → List Token
  | .null => [.null]
  | .bool value => [.bool value]
  | .number numeral => [.number numeral]
  | .string pieces => [.string pieces]
  | .array [] => [.openArray, .closeArray]
  | .array (item :: rest) => .openArray :: (item.tokens ++ laterItems rest)
  | .object [] => [.openObject, .closeObject]
  | .object ((name, tree) :: rest) =>
    .openObject :: .string name :: .colon :: (tree.tokens ++ laterMembers rest)

/-- The tokens of an array behind one of its items. -/
def laterItems : List Tree → List Token
  | [] => [.closeArray]
  | item :: rest => .comma :: (item.tokens ++ laterItems rest)

/-- The tokens of an object behind one of its members. -/
def laterMembers : List (List StringPiece × Tree) → List Token
  | [] => [.closeObject]
  | (name, tree) :: rest =>
    .comma :: .string name :: .colon :: (tree.tokens ++ laterMembers rest)

end

/-- How a document is written. -/
def Tree.Written (tree : Tree) (text : List Char) : Prop :=
  TokensWritten tree.tokens text

/-- What holds of a document when it holds of what stands in it, holds of every document. -/
@[elab_as_elim]
theorem Tree.induction {motive : Tree → Prop} (null : motive .null)
    (bool : ∀ value, motive (.bool value)) (number : ∀ numeral, motive (.number numeral))
    (string : ∀ pieces, motive (.string pieces))
    (array : ∀ items, (∀ item ∈ items, motive item) → motive (.array items))
    (object : ∀ members, (∀ member ∈ members, motive member.2) → motive (.object members))
    (tree : Tree) : motive tree :=
  match tree with
  | .null => null
  | .bool value => bool value
  | .number numeral => number numeral
  | .string pieces => string pieces
  | .array items => array items fun item _ =>
    Tree.induction null bool number string array object item
  | .object members => object members fun member _ =>
    Tree.induction null bool number string array object member.2
termination_by tree
decreasing_by
  · decreasing_tactic
  · have smaller : sizeOf member < sizeOf members := List.sizeOf_lt_of_mem ‹_›
    have inside : sizeOf member.2 < sizeOf member := by
      cases member
      simp only [Prod.mk.sizeOf_spec]
      omega
    simp only [Tree.object.sizeOf_spec]
    omega

/-! ### Tokens side by side -/

/-- Tokens that may follow any other one. -/
structure Follow (tokens : List Token) : Prop where
  apart : Apart tokens
  punctuated : ∀ next ∈ tokens.head?, next.isPunctuation = true

theorem Follow.cons {token : Token} {rest : List Token} (punctuation : token.isPunctuation = true)
    (apart : Apart rest) : Follow (token :: rest) :=
  ⟨⟨.inl punctuation, apart⟩, fun _ first => Option.some.inj first ▸ punctuation⟩

theorem follow_laterItems {items : List Tree}
    (each : ∀ item ∈ items, ∀ rest, Follow rest → Apart (item.tokens ++ rest))
    {rest : List Token} (follow : Follow rest) : Follow (laterItems items ++ rest) := by
  induction items with
  | nil =>
    rw [laterItems]
    exact .cons rfl follow.apart
  | cons item items inductionHypothesis =>
    have later := inductionHypothesis fun other member => each other (List.mem_cons_of_mem _ member)
    rw [laterItems, List.cons_append, List.append_assoc]
    exact .cons rfl (each item List.mem_cons_self _ later)

theorem apart_member {name : List StringPiece} {tree : Tree} {rest : List Token}
    (each : ∀ rest, Follow rest → Apart (tree.tokens ++ rest)) (follow : Follow rest) :
    Apart (.string name :: .colon :: (tree.tokens ++ rest)) :=
  have colon : Follow (.colon :: (tree.tokens ++ rest)) := .cons rfl (each rest follow)
  ⟨.inr colon.punctuated, colon.apart⟩

theorem follow_laterMembers {members : List (List StringPiece × Tree)}
    (each : ∀ member ∈ members, ∀ rest, Follow rest → Apart (member.2.tokens ++ rest))
    {rest : List Token} (follow : Follow rest) : Follow (laterMembers members ++ rest) := by
  induction members with
  | nil =>
    rw [laterMembers]
    exact .cons rfl follow.apart
  | cons member members inductionHypothesis =>
    have later := inductionHypothesis fun other inside => each other (List.mem_cons_of_mem _ inside)
    rw [laterMembers]
    simp only [List.cons_append, List.append_assoc]
    exact .cons rfl (apart_member (each member List.mem_cons_self) later)

theorem Tree.apart_append (tree : Tree) :
    ∀ rest, Follow rest → Apart (tree.tokens ++ rest) := by
  induction tree using Tree.induction with
  | null | bool | number | string =>
    intro rest follow
    rw [Tree.tokens]
    exact ⟨.inr follow.punctuated, follow.apart⟩
  | array items each =>
    intro rest follow
    cases items with
    | nil =>
      rw [Tree.tokens]
      exact (Follow.cons rfl (Follow.cons rfl follow.apart).apart).apart
    | cons item items =>
      have later := follow_laterItems
        (fun other member => each other (List.mem_cons_of_mem _ member)) follow
      rw [Tree.tokens, List.cons_append, List.append_assoc]
      exact (Follow.cons rfl (each item List.mem_cons_self _ later)).apart
  | object members each =>
    intro rest follow
    cases members with
    | nil =>
      rw [Tree.tokens]
      exact (Follow.cons rfl (Follow.cons rfl follow.apart).apart).apart
    | cons member members =>
      have later := follow_laterMembers
        (fun other inside => each other (List.mem_cons_of_mem _ inside)) follow
      rw [Tree.tokens]
      simp only [List.cons_append, List.append_assoc]
      exact (Follow.cons rfl (apart_member (each member List.mem_cons_self) later)).apart

theorem Tree.apart (tree : Tree) : Apart tree.tokens := by
  have apart := tree.apart_append [] ⟨trivial, fun _ first => nomatch first⟩
  rwa [List.append_nil] at apart

/-! ### From tokens to a document -/

namespace Assembly

/-- The tokens are taken one after the other. -/
def run (assembly : Assembly) (tokens : List Token) : Option Assembly :=
  tokens.foldlM step assembly

theorem run_cons (assembly : Assembly) (token : Token) (tokens : List Token) :
    assembly.run (token :: tokens) = (assembly.step token).bind fun next => next.run tokens := rfl

theorem run_append (assembly : Assembly) (tokens rest : List Token) :
    assembly.run (tokens ++ rest) = (assembly.run tokens).bind fun next => next.run rest :=
  List.foldlM_append

variable {around : List Container}

theorem run_laterItems {items : List Tree}
    (each : ∀ item ∈ items, ∀ around,
      run (awaitValue around) item.tokens = some (place item around))
    (before : List Tree) :
    run (afterItem before around) (laterItems items) =
      some (place (.array (before.reverse ++ items)) around) := by
  induction items generalizing before with
  | nil =>
    rw [laterItems, List.append_nil]
    rfl
  | cons item items inductionHypothesis =>
    rw [laterItems, run_cons, show step (afterItem before around) .comma =
      some (awaitValue (.array before :: around)) from rfl, Option.bind_some, run_append,
      each item List.mem_cons_self, Option.bind_some,
      show place item (.array before :: around) = afterItem (item :: before) around from rfl,
      inductionHypothesis fun other member => each other (List.mem_cons_of_mem _ member),
      List.reverse_cons, List.append_assoc, List.singleton_append]

theorem run_laterMembers {members : List (List StringPiece × Tree)}
    (each : ∀ member ∈ members, ∀ around,
      run (awaitValue around) member.2.tokens = some (place member.2 around))
    (before : List (List StringPiece × Tree)) :
    run (afterMember before around) (laterMembers members) =
      some (place (.object (before.reverse ++ members)) around) := by
  induction members generalizing before with
  | nil =>
    rw [laterMembers, List.append_nil]
    rfl
  | cons member members inductionHypothesis =>
    rw [laterMembers]
    simp only [run_cons, step, Option.bind_some]
    rw [run_append, each member List.mem_cons_self, Option.bind_some,
      show place member.2 (.object before member.1 :: around) =
        afterMember (member :: before) around from rfl,
      inductionHypothesis fun other inside => each other (List.mem_cons_of_mem _ inside),
      List.reverse_cons, List.append_assoc, List.singleton_append]

/-- Behind the opening of an array a document is read as where a value must come. -/
theorem run_openedArray (tree : Tree) (rest : List Token) :
    run (openedArray around) (tree.tokens ++ rest) =
      run (awaitValue (.array [] :: around)) (tree.tokens ++ rest) := by
  cases tree with
  | null | bool | number | string =>
    rw [Tree.tokens]
    rfl
  | array items =>
    cases items <;> rw [Tree.tokens] <;> rfl
  | object members =>
    cases members <;> rw [Tree.tokens] <;> rfl

/-- Where a value must come, the tokens of a document put it there. -/
theorem run_tokens (tree : Tree) :
    ∀ around, run (awaitValue around) tree.tokens = some (place tree around) := by
  induction tree using Tree.induction with
  | null | bool | number | string =>
    intro around
    rw [Tree.tokens]
    rfl
  | array items each =>
    intro around
    cases items with
    | nil =>
      rw [Tree.tokens]
      rfl
    | cons item items =>
      rw [Tree.tokens, run_cons, show step (awaitValue around) .openArray =
        some (openedArray around) from rfl, Option.bind_some, run_openedArray, run_append,
        each item List.mem_cons_self, Option.bind_some]
      exact run_laterItems (fun other member => each other (List.mem_cons_of_mem _ member)) [item]
  | object members each =>
    intro around
    cases members with
    | nil =>
      rw [Tree.tokens]
      rfl
    | cons member members =>
      rw [Tree.tokens]
      simp only [run_cons, step, stepValue, Option.bind_some]
      rw [run_append, each member List.mem_cons_self, Option.bind_some]
      exact run_laterMembers (fun other inside => each other (List.mem_cons_of_mem _ inside))
        [member]

/-! ### What has been read -/

/-- The tokens of an array up to where its next item must begin; the last of its items first. -/
def openedItems : List Tree → List Token
  | [] => [.openArray]
  | item :: earlier => openedItems earlier ++ item.tokens ++ [.comma]

/-- The tokens of an object up to where its next member must begin; the last of its members
first. -/
def openedMembers : List (List StringPiece × Tree) → List Token
  | [] => [.openObject]
  | (name, tree) :: earlier =>
    openedMembers earlier ++ [.string name, .colon] ++ tree.tokens ++ [.comma]

/-- The tokens of a container up to where its next value must begin. -/
def opened : Container → List Token
  | .array items => openedItems items
  | .object members name => openedMembers members ++ [.string name, .colon]

/-- The tokens of containers, the innermost first. -/
def openedAll : List Container → List Token
  | [] => []
  | container :: around => openedAll around ++ opened container

theorem openedItems_append (before : List Tree) (item : Tree) (rest : List Tree) :
    openedItems before ++ (item.tokens ++ laterItems rest) =
      (Tree.array (before.reverse ++ item :: rest)).tokens := by
  induction before generalizing item rest with
  | nil => rw [List.reverse_nil, List.nil_append, Tree.tokens, openedItems, List.singleton_append]
  | cons last before inductionHypothesis =>
    rw [List.reverse_cons, List.append_assoc, List.singleton_append, ← inductionHypothesis,
      openedItems, laterItems]
    simp only [List.append_assoc, List.singleton_append]

theorem openedMembers_append (before : List (List StringPiece × Tree)) (name : List StringPiece)
    (tree : Tree) (rest : List (List StringPiece × Tree)) :
    openedMembers before ++ .string name :: .colon :: (tree.tokens ++ laterMembers rest) =
      (Tree.object (before.reverse ++ (name, tree) :: rest)).tokens := by
  induction before generalizing name tree rest with
  | nil =>
    rw [List.reverse_nil, List.nil_append, Tree.tokens, openedMembers, List.singleton_append]
  | cons last before inductionHypothesis =>
    rw [List.reverse_cons, List.append_assoc, List.singleton_append, ← inductionHypothesis,
      openedMembers, laterMembers]
    simp only [List.append_assoc, List.cons_append, List.nil_append]

/-- The tokens that lead to where the reading stands. -/
inductive Reads : Assembly → List Token → Prop
  | awaitValue {around : List Container} : Reads (awaitValue around) (openedAll around)
  | openedArray {around : List Container} :
      Reads (openedArray around) (openedAll around ++ [.openArray])
  | afterItem {item : Tree} {earlier : List Tree} {around : List Container} :
      Reads (afterItem (item :: earlier) around)
        (openedAll around ++ openedItems earlier ++ item.tokens)
  | openedObject {around : List Container} :
      Reads (openedObject around) (openedAll around ++ [.openObject])
  | awaitName {members : List (List StringPiece × Tree)} {around : List Container} :
      Reads (awaitName members around) (openedAll around ++ openedMembers members)
  | awaitColon {members : List (List StringPiece × Tree)} {name : List StringPiece}
      {around : List Container} :
      Reads (awaitColon members name around)
        (openedAll around ++ openedMembers members ++ [.string name])
  | afterMember {name : List StringPiece} {tree : Tree}
      {earlier : List (List StringPiece × Tree)} {around : List Container} :
      Reads (afterMember ((name, tree) :: earlier) around)
        (openedAll around ++ openedMembers earlier ++ [.string name, .colon] ++ tree.tokens)
  | complete {tree : Tree} : Reads (complete tree) tree.tokens

theorem reads_place (tree : Tree) (around : List Container) :
    Reads (place tree around) (openedAll around ++ tree.tokens) := by
  cases around with
  | nil =>
    rw [openedAll, List.nil_append]
    exact .complete
  | cons container around =>
    cases container with
    | array items => exact .afterItem
    | object members name =>
      rw [openedAll, opened, ← List.append_assoc]
      exact .afterMember

theorem reads_stepValue {token : Token} {next : Assembly}
    (stepped : stepValue around token = some next) :
    Reads next (openedAll around ++ [token]) := by
  cases token with
  | null | bool | number | string =>
    rw [← Option.some.inj stepped, ← Tree.tokens]
    exact reads_place _ around
  | openArray => exact Option.some.inj stepped ▸ .openedArray
  | openObject => exact Option.some.inj stepped ▸ .openedObject
  | _ => cases stepped

theorem step_openedArray {token : Token} (more : token ≠ .closeArray) :
    step (openedArray around) token = stepValue (.array [] :: around) token := by
  cases token with
  | closeArray => exact absurd rfl more
  | _ => rfl

theorem reads_step_openedArray {token : Token} {next : Assembly}
    (stepped : step (openedArray around) token = some next) :
    Reads next (openedAll around ++ [.openArray] ++ [token]) := by
  by_cases closes : token = .closeArray
  · have empty : openedAll around ++ [.openArray] ++ [.closeArray] =
        openedAll around ++ (Tree.array []).tokens := by
      rw [Tree.tokens, List.append_assoc]
      rfl
    subst closes
    rw [empty, ← Option.some.inj stepped]
    exact reads_place _ around
  · rw [step_openedArray closes] at stepped
    exact reads_stepValue stepped

theorem reads_step_afterItem {item : Tree} {earlier : List Tree} {token : Token} {next : Assembly}
    (stepped : step (afterItem (item :: earlier) around) token = some next) :
    Reads next (openedAll around ++ openedItems earlier ++ item.tokens ++ [token]) := by
  cases token with
  | comma =>
    have goesOn : openedAll around ++ openedItems earlier ++ item.tokens ++ [.comma] =
        openedAll (.array (item :: earlier) :: around) := by
      simp only [openedAll, opened, openedItems, List.append_assoc]
    rw [goesOn, ← Option.some.inj stepped]
    exact .awaitValue
  | closeArray =>
    have closed : openedAll around ++ openedItems earlier ++ item.tokens ++ [.closeArray] =
        openedAll around ++ (Tree.array (item :: earlier).reverse).tokens := by
      rw [List.reverse_cons, ← openedItems_append, laterItems]
      simp only [List.append_assoc]
    rw [closed, ← Option.some.inj stepped]
    exact reads_place _ around
  | _ => cases stepped

theorem reads_step_openedObject {token : Token} {next : Assembly}
    (stepped : step (openedObject around) token = some next) :
    Reads next (openedAll around ++ [.openObject] ++ [token]) := by
  cases token with
  | closeObject =>
    have empty : openedAll around ++ [.openObject] ++ [.closeObject] =
        openedAll around ++ (Tree.object []).tokens := by
      rw [Tree.tokens, List.append_assoc]
      rfl
    rw [empty, ← Option.some.inj stepped]
    exact reads_place _ around
  | string name => exact Option.some.inj stepped ▸ .awaitColon
  | _ => cases stepped

theorem reads_step_afterMember {name : List StringPiece} {tree : Tree}
    {earlier : List (List StringPiece × Tree)} {token : Token} {next : Assembly}
    (stepped : step (afterMember ((name, tree) :: earlier) around) token = some next) :
    Reads next (openedAll around ++ openedMembers earlier ++ [.string name, .colon] ++
      tree.tokens ++ [token]) := by
  cases token with
  | comma =>
    have goesOn : openedAll around ++ openedMembers earlier ++ [.string name, .colon] ++
        tree.tokens ++ [.comma] =
          openedAll around ++ openedMembers ((name, tree) :: earlier) := by
      simp only [openedMembers, List.append_assoc]
    rw [goesOn, ← Option.some.inj stepped]
    exact .awaitName
  | closeObject =>
    have closed : openedAll around ++ openedMembers earlier ++ [.string name, .colon] ++
        tree.tokens ++ [.closeObject] =
          openedAll around ++ (Tree.object ((name, tree) :: earlier).reverse).tokens := by
      rw [List.reverse_cons, ← openedMembers_append, laterMembers]
      simp only [List.append_assoc, List.cons_append, List.nil_append]
    rw [closed, ← Option.some.inj stepped]
    exact reads_place _ around
  | _ => cases stepped

/-- One more token is taken. -/
theorem Reads.step {assembly next : Assembly} {tokens : List Token} {token : Token}
    (reads : Reads assembly tokens) (stepped : assembly.step token = some next) :
    Reads next (tokens ++ [token]) := by
  cases reads with
  | awaitValue => exact reads_stepValue stepped
  | openedArray => exact reads_step_openedArray stepped
  | afterItem => exact reads_step_afterItem stepped
  | openedObject => exact reads_step_openedObject stepped
  | awaitName =>
    cases token with
    | string name => exact Option.some.inj stepped ▸ .awaitColon
    | _ => cases stepped
  | @awaitColon members name around =>
    cases token with
    | colon =>
      have goesOn : openedAll around ++ openedMembers members ++ [.string name] ++ [.colon] =
          openedAll (.object members name :: around) := by
        simp only [openedAll, opened, List.append_assoc, List.cons_append, List.nil_append]
      rw [goesOn, ← Option.some.inj stepped]
      exact .awaitValue
    | _ => cases stepped
  | afterMember => exact reads_step_afterMember stepped
  | complete => cases stepped

theorem Reads.run {assembly next : Assembly} {tokens more : List Token}
    (reads : Reads assembly tokens) (ran : assembly.run more = some next) :
    Reads next (tokens ++ more) := by
  induction more generalizing assembly tokens with
  | nil =>
    rw [List.append_nil]
    exact Option.some.inj ran ▸ reads
  | cons token rest inductionHypothesis =>
    obtain ⟨stepped, step, ran⟩ := Option.bind_eq_some_iff.mp ran
    have read := inductionHypothesis (reads.step step) ran
    rwa [List.append_assoc] at read

end Assembly

namespace Tree

/-- Tokens make up a document exactly when they are its tokens. -/
theorem ofTokens?_eq_some_iff {tokens : List Token} {tree : Tree} :
    ofTokens? tokens = some tree ↔ tokens = tree.tokens := by
  constructor
  · intro made
    obtain ⟨last, ran, finished⟩ := Option.bind_eq_some_iff.mp made
    -- Only a complete document is taken at the end, and its tokens are all that was read.
    have reads : Assembly.Reads last ([] ++ tokens) := Assembly.Reads.awaitValue.run ran
    cases reads with
    | complete => exact congrArg Tree.tokens (Option.some.inj finished)
    | _ => cases finished
  · rintro rfl
    show (Assembly.run _ _).bind _ = _
    rw [Assembly.run_tokens]
    rfl

/-- The reading of documents is exact: what is read is what is written, however it is written. -/
theorem read?_eq_some_iff {text : List Char} {tree : Tree} :
    read? text = some tree ↔ tree.Written text := by
  rw [read?, Option.bind_eq_some_iff, Written, ← tokens?_eq_some_iff tree.apart]
  constructor
  · rintro ⟨tokens, read, made⟩
    rw [read, ofTokens?_eq_some_iff.mp made]
  · intro read
    exact ⟨tree.tokens, read, ofTokens?_eq_some_iff.mpr rfl⟩

end Tree

end Onboarding.Json
