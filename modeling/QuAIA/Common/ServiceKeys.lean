import QuAIA.Common.Models

/-!
Contract: the keys that the services ask for.

Owns: the comparison of two secrets, and the check of a key that the guard and the embedding service
share.

Does not own: the check of the orchestrator's endpoints, which refuses every request where no key is
configured.
-/

set_option autoImplicit false

namespace QuAIA.Common

def isAscii (text : String) : Bool := text.toList.all fun char => char.toNat < 128

/-- `hmac.compare_digest` of two texts, which accepts ASCII only. -/
def compareDigest (given expected : String) : Except PyError Bool :=
  if isAscii given && isAscii expected then .ok (given = expected)
  else .error (.exception "comparing strings with non-ASCII characters is not supported")

theorem compareDigest_eq_ok {given expected : String} {same : Bool}
    (compared : compareDigest given expected = .ok same) : same = decide (given = expected) := by
  unfold compareDigest at compared
  split at compared
  · exact (Except.ok.inj compared).symm
  · cases compared

/-- Two texts are found equal if they are and can be compared. -/
theorem compareDigest_eq_true_iff (given expected : String) :
    compareDigest given expected = .ok true ↔ given = expected ∧ isAscii given = true := by
  unfold compareDigest
  split
  · rename_i ascii
    simp [(Bool.and_eq_true_iff.mp ascii).1]
  · rename_i notAscii
    constructor
    · intro compared
      cases compared
    · rintro ⟨rfl, ascii⟩
      exact absurd (by rw [ascii]; rfl) notAscii

/-- An absent value and an empty text are falsy. -/
def nonempty? (text : Option String) : Option String := text.filter fun text => text ≠ ""

/-- `_require_service_auth` of the two services. Without a configured key every request is let
in. -/
def requireServiceAuth (configuredKey givenKey : Option String) : Except PyError Unit :=
  match nonempty? configuredKey with
  | none => .ok ()
  | some configuredKey =>
      match nonempty? givenKey with
      | none => .error (.httpException 401 "Unauthorized")
      | some givenKey => do
          if ← compareDigest givenKey configuredKey then pure ()
          else .error (.httpException 401 "Unauthorized")

/-- The request has the configured key, which only a key of ASCII characters can be. -/
def HasKey (configuredKey givenKey : Option String) : Prop :=
  ∃ key, nonempty? configuredKey = some key ∧ nonempty? givenKey = some key ∧ isAscii key = true

theorem requireServiceAuth_eq_ok_iff (configuredKey givenKey : Option String) :
    requireServiceAuth configuredKey givenKey = .ok () ↔
      nonempty? configuredKey = none ∨ HasKey configuredKey givenKey := by
  unfold requireServiceAuth HasKey
  cases nonempty? configuredKey with
  | none => simp
  | some expected =>
      cases nonempty? givenKey with
      | none => simp
      | some given =>
          have accepted : (do
                if ← compareDigest given expected then pure ()
                else .error (.httpException 401 "Unauthorized") : Except PyError Unit) = .ok () ↔
              compareDigest given expected = .ok true := by
            cases compareDigest given expected with
            | error error => simp [bind, Except.bind]
            | ok same => cases same <;> simp [bind, Except.bind, pure, Except.pure]
          refine accepted.trans ((compareDigest_eq_true_iff given expected).trans ?_)
          constructor
          · rintro ⟨rfl, ascii⟩
            exact Or.inr ⟨given, rfl, rfl, ascii⟩
          · rintro (none | ⟨key, isExpected, isGiven, ascii⟩)
            · cases none
            · obtain rfl := Option.some.inj isExpected
              obtain rfl := Option.some.inj isGiven
              exact ⟨rfl, ascii⟩

/-- What the check of a service raises: the status of a wrong key, or the refusal of the comparison
to read the key. -/
theorem requireServiceAuth_eq_error {configuredKey givenKey : Option String} {error : PyError}
    (raised : requireServiceAuth configuredKey givenKey = .error error) :
    error = .httpException 401 "Unauthorized" ∨ ∃ message, error = .exception message := by
  unfold requireServiceAuth at raised
  split at raised
  · cases raised
  · split at raised
    · exact Or.inl (Except.error.inj raised).symm
    · rename_i expected _ _ given _
      cases compared : compareDigest given expected with
      | error reason =>
          rw [compared] at raised
          unfold compareDigest at compared
          split at compared
          · cases compared
          · cases compared
            exact Or.inr ⟨_, (Except.error.inj raised).symm⟩
      | ok same =>
          rw [compared] at raised
          cases same with
          | true => cases raised
          | false => exact Or.inl (Except.error.inj raised).symm

end QuAIA.Common
