/-
This file proves that a credential is read back from the file that it was written to,
whatever characters its token has, and that a file holds no credential when the writing
of one was cut off, wherever this was.
-/

import Onboarding.Credential.Keeping
import Onboarding.Proofs.Json.Prefixes
import Onboarding.Proofs.Time.Stamps

namespace Onboarding

open Json

/-- What the bytes of a text begin with, if it is a text, is the beginning of the text. -/
theorem Text.isPrefix_of_utf8Bytes {text new : String} {count : Nat}
    (cut : (utf8Bytes new).take count = utf8Bytes text) : text.toList <+: new.toList := by
  have whole : utf8Bytes text ++ (utf8Bytes new).drop count = utf8Bytes new := by
    rw [← cut, List.take_append_drop]
  refine List.isPrefix_of_utf8Encode_append_eq_utf8Encode
    ⟨((utf8Bytes new).drop count).toArray⟩ (ByteArray.ext ?_)
  rw [ByteArray.data_append, String.utf8Encode_toList, String.utf8Encode_toList]
  exact Array.toList_inj.mp ((Array.toList_append).trans whole)

namespace Credential

theorem ofTree?_printedObject {token : String} {storedAt : Moment} (valid : storedAt.IsValid) :
    ofTree? (printedObject [("token", token), ("stored_at", storedAt.text)]) =
      some ⟨token, storedAt⟩ := by
  have members : (printedObject [("token", token), ("stored_at", storedAt.text)]).members?
      ["token", "stored_at"] 2 =
        some [some (.string (printedPieces token)),
          some (.string (printedPieces storedAt.text))] := by
    simp [printedObject, Tree.members?, Tree.namedMembers?, Tree.onlyMember?]
  simp [ofTree?, members, Tree.text?, Moment.read?_text valid]

theorem write_written (credential : Credential) :
    (printedObject [("token", credential.token),
      ("stored_at", credential.storedAt.text)]).Written credential.write.toList := by
  rw [write, String.toList_ofList]
  exact indentedObject_written [("token", credential.token),
    ("stored_at", credential.storedAt.text)]

/-- A credential is read back from the document that it was written to. -/
theorem read?_write {credential : Credential} (valid : credential.storedAt.IsValid) :
    read? credential.write = some credential := by
  rw [read?, Tree.read?_eq_some_iff.mpr credential.write_written]
  exact ofTree?_printedObject valid

/-- Only a document with parts is a credential. -/
theorem isContainer_of_ofTree? {tree : Tree} {credential : Credential}
    (made : ofTree? tree = some credential) : tree.IsContainer := by
  cases tree with
  | array | object => trivial
  | null | bool | number | string => cases made

/-- No credential is read from what is left of the document of one that was cut off. -/
theorem read?_eq_none_of_cut {credential : Credential} {text : String}
    (cut : text.toList <+: credential.write.toList) (less : text ≠ credential.write) :
    read? text = none := by
  obtain ⟨rest, whole⟩ := cut
  have ends : credential.write.toList.getLast? = some '}' := by
    rw [write, String.toList_ofList, indentedObject]
    exact List.getLast?_append_of_ne_nil _ (List.cons_ne_nil _ _)
  have missing : '}' ∈ rest := by
    have more : rest ≠ [] := by
      rintro rfl
      rw [List.append_nil, String.toList_inj] at whole
      exact less whole
    rw [← whole, List.getLast?_append_of_ne_nil _ more] at ends
    exact List.mem_of_getLast? ends
  cases found : read? text with
  | none => rfl
  | some other =>
    obtain ⟨tree, read, made⟩ := Option.bind_eq_some_iff.mp found
    have written := whole ▸ credential.write_written
    have blank := Tree.isSpace_behind (isContainer_of_ofTree? made)
      (Tree.read?_eq_some_iff.mp read) written '}' missing
    cases blank

end Credential

namespace FileContent

/-- A file to which a credential was written whole gives its token. -/
theorem token?_written (content : FileContent) (token : String) {now : Moment}
    (valid : now.IsValid) :
    (content.written (Credential.write ⟨token, now⟩) .complete).token? = some token := by
  simp [written, token?, credential, Credential.read?_write, valid]

/-- A file to which a credential was not written to its end gives no token. -/
theorem token?_of_cut (content : FileContent) (credential : Credential) {count : Nat}
    (less : count < (Text.utf8Bytes credential.write).length) :
    (content.written credential.write (.brokenOff count)).token? = none := by
  unfold written token? FileContent.credential
  dsimp only
  cases decoded : Text.ofUtf8? ((Text.utf8Bytes credential.write).take count) with
  | none => rfl
  | some text =>
    have cut := Text.ofUtf8?_eq_some_iff.mp decoded
    have shorter : text ≠ credential.write := by
      rintro rfl
      have lengths := congrArg List.length cut
      rw [List.length_take] at lengths
      omega
    dsimp only
    rw [Credential.read?_eq_none_of_cut (Text.isPrefix_of_utf8Bytes cut) shorter]

/-- After a credential was written, its token is in the file when all was written, or when nothing
was touched and the token was there before. -/
theorem token?_written_iff (content : FileContent) (token : String) {now : Moment}
    (valid : now.IsValid) {outcome : WriteOutcome}
    (cut : ∀ count, outcome = .brokenOff count →
      count < (Text.utf8Bytes (Credential.write ⟨token, now⟩)).length) :
    (content.written (Credential.write ⟨token, now⟩) outcome).token? = some token ↔
      outcome = .complete ∨ outcome = .untouched ∧ content.token? = some token := by
  cases outcome with
  | complete => simp [content.token?_written token valid]
  | untouched => simp [written]
  | emptied =>
    have nothing : (FileContent.file [] content.mode).token? = none := rfl
    simp [written, nothing]
  | brokenOff count => simp [content.token?_of_cut ⟨token, now⟩ (cut count rfl)]

end FileContent

end Onboarding
