import Mathlib
import HttpRetry.Http.Request

/-!
Copies of a request. A copy takes the body's bytes by appending them to an absent body, so its
body is absent exactly when the request has no body bytes (`Request.clone_body`), and an empty
body is lost in the copy (`empty_body_clone_absent`). Main statement, `request_clone_copies`.
-/

namespace HttpRetry

/-- Appending bytes to an absent slice gives nothing when there are none, and else just those
bytes. -/
theorem appendBytes_none (b : ByteArray) :
    appendBytes none b = if b.size = 0 then none else some b := by
  unfold appendBytes
  split <;> simp [ByteArray.empty_append]

/-- Every body that can be read is present, even one with no bytes: a text gives its bytes, bytes
are taken as they are, and a stream gives what it yields. -/
theorem bodyBytes_ne_none {src : BodySource} {b : Option ByteArray}
    (h : bodyBytes (some src) = .ok b) : b ≠ none := by
  cases src with
  | text s =>
    cases h
    simp
  | bytes bs =>
    cases h
    simp
  | stream st =>
    simp only [bodyBytes, Functor.map, Except.map] at h
    split at h
    · cases h
    · cases h
      simp
  | unsupported => cases h

namespace Request

/-- A copy is the request with its body's bytes appended to an absent body. -/
theorem clone_eq (r : Request) : r.clone = { r with body := r.body.bind (appendBytes none) } := by
  obtain ⟨method, target, header, body, stream⟩ := r
  cases body <;> rfl

/-- The body of a copy: the request's body when it has bytes, and none otherwise. -/
theorem clone_body (r : Request) :
    r.clone.body = if (r.body.getD .empty).size = 0 then none else r.body := by
  rw [clone_eq]
  cases r.body with
  | none => simp
  | some b => simp [appendBytes_none]

/-- A request built with a body has one, even an empty one. -/
theorem new_body {method target : String} {src : BodySource} {r : Request}
    (h : Request.new method target (some src) = .ok r) : r.body ≠ none := by
  simp only [Request.new, bind, Except.bind] at h
  split at h
  · cases h
  · split at h
    · cases h
    · rename_i b hb
      simp only [pure, Except.pure, Except.ok.injEq] at h
      subst h
      exact bodyBytes_ne_none hb

end Request

/-- A copy has the request's method, target, stream, headers and body bytes; its body is absent
exactly when the request has no body bytes. -/
theorem request_clone_copies (r : Request) :
    r.clone.method = r.method ∧ r.clone.target = r.target ∧ r.clone.stream = r.stream ∧
      r.clone.header = r.header ∧ r.clone.body.getD .empty = r.body.getD .empty ∧
      (r.clone.body = none ↔ (r.body.getD .empty).size = 0) := by
  have hclone := Request.clone_eq r
  refine ⟨by rw [hclone], by rw [hclone], by rw [hclone], by rw [hclone], ?_, ?_⟩
  · rw [Request.clone_body]
    split
    · -- no bytes: the missing body and the empty one read alike
      rename_i hsize
      exact (ByteArray.size_eq_zero_iff.1 hsize).symm
    · rfl
  · rw [Request.clone_body]
    split
    · exact iff_of_true rfl ‹_›
    · rename_i hsize
      refine iff_of_false (fun hnone => hsize ?_) hsize
      simp [hnone]

/-- A request built with an empty text as its body has a body, but its copy has none. -/
theorem empty_body_clone_absent :
    ∃ r, Request.new "PUT" "test" (some (.text "")) = .ok r ∧ r.body ≠ none ∧
      r.clone.body = none := by
  have hput : isHeaderName "PUT" = true := by
    simp [isHeaderName, String.all_bool_eq, isTokenChar]
  have hcheck : checkMethod "PUT" = .ok "PUT" := by
    simp [checkMethod, hput]
  have hnew : Request.new "PUT" "test" (some (.text "")) =
      .ok { method := "PUT", target := "test", body := some "".toUTF8 } := by
    rw [Request.new, hcheck]
    rfl
  refine ⟨_, hnew, Request.new_body hnew, ?_⟩
  rw [Request.clone_body]
  simp

end HttpRetry
