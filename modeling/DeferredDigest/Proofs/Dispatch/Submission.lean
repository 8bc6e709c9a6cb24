import DeferredDigest.Proofs.Dispatch.Cases

/-!
# Submissions

How a submission is answered, for every configuration of required fields, every form and every
qualifier.  The required fields (the password field, then the extra fields, in order, repeats
included) are checked one at a time, each for a value that is present, not empty and not longer
than the maximum in UTF-8 bytes; the first field that fails decides the refusal, whichever of the
two ways it fails.  Only when every field passes does a qualifier make the path malformed, and
only then does a missing executor matter.  An accepted submission schedules exactly the bytes of
the password field, which the checks have made non-empty and short enough, so the fallback to an
empty password is never taken.

Main statement: `Service.submit_follows_field_order`.
-/

namespace ByteArray

theorem length_toList_loop (bs : ByteArray) (i : Nat) (r : List UInt8) :
    (toList.loop bs i r).length = r.length + (bs.size - i) := by
  fun_induction toList.loop bs i r with
  | case1 i r hi ih =>
    simp only [ih, List.length_cons]
    omega
  | case2 i r hi =>
    simp only [List.length_reverse]
    omega

/-- Listing the bytes of an array loses none. -/
theorem length_toList (bs : ByteArray) : bs.toList.length = bs.size := by
  simp [toList, length_toList_loop]

end ByteArray

namespace DeferredDigest

/-- The UTF-8 bytes of a text number its byte size. -/
theorem length_utf8Bytes (s : String) : s.toUTF8.toList.length = s.utf8ByteSize := by
  rw [ByteArray.length_toList]
  simp

namespace Service

variable {s : Service} {c : Call} {max : Nat} {form : Form} {g : String}

/-- A required field passes its check: the form has a value for it that is not empty and has at
most `max` bytes. -/
def FieldPasses (max : Nat) (form : Form) (field : String) : Prop :=
  ∃ v, form.get? field = some v ∧ v ≠ "" ∧ v.utf8ByteSize ≤ max

/-! ## One field -/

theorem checkField_eq_ok_iff : checkField max form g = .ok () ↔ FieldPasses max form g := by
  refine ⟨checkField_eq_ok, ?_⟩
  rintro ⟨v, hv, hne, hle⟩
  simp [checkField, hv, hne, Nat.not_lt.mpr hle]

theorem checkField_of_missing (h : form.get? g = none ∨ form.get? g = some "") :
    checkField max form g = .error (.missingField g) := by
  rcases h with h | h <;> simp [checkField, h]

theorem checkField_of_tooLong {v : String} (hv : form.get? g = some v) (hne : v ≠ "")
    (hlt : max < v.utf8ByteSize) :
    checkField max form g = .error (.fieldTooLong g v.utf8ByteSize max) := by
  simp [checkField, hv, hne, hlt]

/-! ## The fields in order -/

/-- Fields that pass are checked and left behind: the check of the whole list is the check of
what follows them. -/
theorem forM_checkField_append {pre : List String} (hpre : ∀ g ∈ pre, FieldPasses max form g)
    (rest : List String) :
    (pre ++ rest).forM (checkField max form) = rest.forM (checkField max form) := by
  induction pre with
  | nil => rfl
  | cons g pre ih =>
    rw [List.cons_append, List.forM_eq_forM, List.forM_cons,
      checkField_eq_ok_iff.mpr (hpre g List.mem_cons_self)]
    rw [← List.forM_eq_forM]
    exact ih fun g' hg' => hpre g' (List.mem_cons_of_mem _ hg')

theorem forM_checkField_eq_ok {fields : List String} (h : ∀ g ∈ fields, FieldPasses max form g) :
    fields.forM (checkField max form) = .ok () := by
  simpa [pure, Except.pure] using forM_checkField_append h []

/-- Validation fails as the first field that fails its check. -/
theorem validate_of_first_failure {cf : ServiceConfig} {pre post : List String} {e : Fault}
    (hfields : cf.requiredFields = pre ++ g :: post)
    (hpre : ∀ g' ∈ pre, FieldPasses cf.maxPasswordLen form g')
    (hg : checkField cf.maxPasswordLen form g = .error e) : validate cf form = .error e := by
  rw [validate, hfields, forM_checkField_append hpre, List.forM_eq_forM, List.forM_cons, hg]
  rfl

/-- When every field passes, validation returns the password, which passed as the first field. -/
theorem validate_of_passes {cf : ServiceConfig}
    (h : ∀ g ∈ cf.requiredFields, FieldPasses cf.maxPasswordLen form g) :
    ∃ pw, form.get? cf.passwordField = some pw ∧ pw ≠ "" ∧ pw.utf8ByteSize ≤ cf.maxPasswordLen ∧
      validate cf form = .ok pw := by
  obtain ⟨pw, hpw, hne, hle⟩ := h cf.passwordField List.mem_cons_self
  refine ⟨pw, hpw, hne, hle, ?_⟩
  rw [validate, forM_checkField_eq_ok h]
  simp [hpw, bind, Except.bind, pure, Except.pure]

/-! ## The submission -/

theorem submit_of_validate_error {e : Fault} (h : validate s.config c.form = .error e) :
    s.submit c = .error e := by
  simp [submit, h, bind, Except.bind]

theorem submit_of_qualifier {pw : String} (h : validate s.config c.form = .ok pw)
    (hrest : c.rest ≠ []) :
    s.submit c = .error (.malformedPath ("`" ++ c.method ++ "` takes no qualifier")) := by
  simp [submit, h, hrest, bind, Except.bind]

theorem submit_of_no_executor {pw : String} (h : validate s.config c.form = .ok pw)
    (hrest : c.rest = []) (hex : s.executor = false) : s.submit c = .error .runtimeUnavailable := by
  simp [submit, h, hrest, hex, bind, Except.bind]

/-- How a submission is answered by `s` on a call `c`.  The required fields are the password field
followed by the extra fields, and no value may have more bytes than `s.config.maxPasswordLen`. -/
structure FollowsFieldOrder (s : Service) (c : Call) : Prop where
  /-- The first field that is absent or empty is reported missing. -/
  missing : ∀ pre g post, s.config.passwordField :: s.config.extraFields = pre ++ g :: post →
    (∀ g' ∈ pre, FieldPasses s.config.maxPasswordLen c.form g') →
    (c.form.get? g = none ∨ c.form.get? g = some "") → s.submit c = .error (.missingField g)
  /-- The first field whose value has more bytes than the maximum is reported too long. -/
  tooLong : ∀ pre g post v, s.config.passwordField :: s.config.extraFields = pre ++ g :: post →
    (∀ g' ∈ pre, FieldPasses s.config.maxPasswordLen c.form g') →
    c.form.get? g = some v → v ≠ "" → s.config.maxPasswordLen < v.utf8ByteSize →
    s.submit c = .error (.fieldTooLong g v.utf8ByteSize s.config.maxPasswordLen)
  /-- With every field passing, a qualifier makes the path malformed. -/
  qualifier : (∀ g ∈ s.config.passwordField :: s.config.extraFields,
      FieldPasses s.config.maxPasswordLen c.form g) →
    c.rest ≠ [] → s.submit c = .error (.malformedPath ("`" ++ c.method ++ "` takes no qualifier"))
  /-- With every field passing and no qualifier, a missing executor refuses the submission. -/
  noExecutor : (∀ g ∈ s.config.passwordField :: s.config.extraFields,
      FieldPasses s.config.maxPasswordLen c.form g) →
    c.rest = [] → s.executor = false → s.submit c = .error .runtimeUnavailable
  /-- Otherwise the submission is accepted under the next handle, and the payload scheduled is the
  bytes of the password field, non-empty and at most the maximum long. -/
  accepted : (∀ g ∈ s.config.passwordField :: s.config.extraFields,
      FieldPasses s.config.maxPasswordLen c.form g) →
    c.rest = [] → s.executor = true → ∃ pw, c.form.get? s.config.passwordField = some pw ∧
      pw.toUTF8.toList ≠ [] ∧ pw.toUTF8.toList.length ≤ s.config.maxPasswordLen ∧
      s.submit c = .ok (.submitted (s.lastHandle + 1),
        { s with lastHandle := s.lastHandle + 1
                 worker := s.worker.schedule (s.lastHandle + 1) pw.toUTF8.toList
                   s.config.hashDelay })

/-- Every submission is answered by the first required field that fails, in order, then by a
qualifier, then by a missing executor, and is accepted only when none of these applies, with the
password's bytes as its payload. -/
theorem submit_follows_field_order (s : Service) (c : Call) : FollowsFieldOrder s c := by
  refine ⟨?_, ?_, ?_, ?_, ?_⟩
  · intro pre g post hfields hpre hg
    exact submit_of_validate_error (validate_of_first_failure hfields hpre (checkField_of_missing hg))
  · intro pre g post v hfields hpre hv hne hlt
    exact submit_of_validate_error
      (validate_of_first_failure hfields hpre (checkField_of_tooLong hv hne hlt))
  · intro hall hrest
    obtain ⟨pw, -, -, -, hval⟩ := validate_of_passes hall
    exact submit_of_qualifier hval hrest
  · intro hall hrest hex
    obtain ⟨pw, -, -, -, hval⟩ := validate_of_passes hall
    exact submit_of_no_executor hval hrest hex
  · intro hall hrest hex
    obtain ⟨pw, hpw, hne, hle, hval⟩ := validate_of_passes hall
    -- the payload's length is the password's byte size, which the check bounded
    have hlen := length_utf8Bytes pw
    refine ⟨pw, hpw, ?_, hlen ▸ hle, submit_eq_ok.mpr ⟨pw, hval, hrest, hex, rfl, rfl⟩⟩
    intro hnil
    have hzero : pw.utf8ByteSize = 0 := by rw [← hlen, hnil, List.length_nil]
    exact hne (String.utf8ByteSize_eq_zero_iff.mp hzero)

/-- The password field required again after an extra field: a form without that extra field is
refused for it although the password passes; and a one-character password of two UTF-8 bytes is
too long for a one-byte maximum. -/
theorem submit_follows_field_order_repeated :
    let s := create { maxPasswordLen := 1, extraFields := ["user", "password"] } .lengthTag true
    let short : Form := ⟨[("password", "a")]⟩
    let wide : Form := ⟨[("password", "é"), ("user", "u")]⟩
    (s.config.passwordField :: s.config.extraFields = ["password"] ++ "user" :: ["password"] ∧
      (∀ g ∈ ["password"], FieldPasses s.config.maxPasswordLen short g) ∧
      (short.get? "user" = none ∨ short.get? "user" = some "") ∧
      s.submit ⟨.post, "hash", [], short⟩ = .error (.missingField "user")) ∧
    (s.config.passwordField :: s.config.extraFields = [] ++ "password" :: ["user", "password"] ∧
      wide.get? "password" = some "é" ∧ "é" ≠ "" ∧ s.config.maxPasswordLen < "é".utf8ByteSize ∧
      s.submit ⟨.post, "hash", [], wide⟩ = .error (.fieldTooLong "password" 2 1)) := by
  intro s short wide
  have hpass : ∀ g ∈ ["password"], FieldPasses s.config.maxPasswordLen short g := by
    intro g hg
    rw [List.mem_singleton.mp hg]
    exact ⟨"a", rfl, by decide, by decide⟩
  have hmissing : short.get? "user" = none ∨ short.get? "user" = some "" := .inl rfl
  have hwide : wide.get? "password" = some "é" := rfl
  have hlong : s.config.maxPasswordLen < "é".utf8ByteSize := by decide
  have htoo := (submit_follows_field_order s ⟨.post, "hash", [], wide⟩).tooLong [] "password"
    ["user", "password"] "é" rfl (by simp) hwide (by decide) hlong
  exact ⟨⟨rfl, hpass, hmissing, (submit_follows_field_order s _).missing ["password"] "user"
    ["password"] rfl hpass hmissing⟩, ⟨rfl, hwide, by decide, hlong, htoo⟩⟩

end Service

end DeferredDigest
