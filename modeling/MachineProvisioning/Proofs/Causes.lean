import MachineProvisioning.Failure

/-! # Causes of errors

An error can be caused by another one, and so on to a first cause. Whether another try can help is
decided by the outermost failure on the way, and the errors around it make no difference.
-/

namespace MachineProvisioning

/-- Errors of unknown type with these texts, each caused by the next. -/
def AnyError.unknown : List String → Option AnyError
  | [] => none
  | text :: texts => some (.foreign text (unknown texts))

/-- The error that this one was caused by. -/
def AnyError.cause : AnyError → Option AnyError
  | .failure inner => inner.cause
  | .provisioning inner => inner.cause
  | .maasCausedBy _ cause => some cause
  | .kubernetes error => unknown error.chain
  | .foreign _ cause => cause
  | .maas _ | .staticIp _ => none

theorem ProvisioningFailure.chain_eq (failure : ProvisioningFailure) :
    failure.chain = failure.cause.elim [] fun cause => cause.message :: cause.chain := by
  obtain ⟨kind, message, host, cause, details⟩ := failure
  cases cause <;> rfl

namespace AnyError

theorem chain_foreign (text : String) (cause : Option AnyError) :
    (AnyError.foreign text cause).chain =
      cause.elim [] fun cause => cause.message :: cause.chain := by
  cases cause <;> rfl

theorem chain_unknown (texts : List String) :
    (unknown texts).elim [] (fun cause => cause.message :: cause.chain) = texts := by
  induction texts with
  | nil => rfl
  | cons text texts ih => exact congrArg (text :: ·) ((chain_foreign text _).trans ih)

/-- The texts of the causes begin with that of the nearest one. -/
theorem chain_eq (error : AnyError) :
    error.chain = error.cause.elim [] fun cause => cause.message :: cause.chain := by
  cases error with
  | failure failure =>
      cases failure with
      | provisioning failure => exact failure.chain_eq
      | _ => rfl
  | provisioning failure => exact failure.chain_eq
  | kubernetes error => exact (chain_unknown error.chain).symm
  | foreign text cause => exact chain_foreign text cause
  | maas | maasCausedBy | staticIp => rfl

theorem length_chain_of_cause {error cause : AnyError} (caused : error.cause = some cause) :
    cause.chain.length < error.chain.length := by
  rw [chain_eq error, caused]
  exact Nat.lt_succ_self _

/-- The causes of an error, from the nearest to the first. -/
def causes (error : AnyError) : List AnyError :=
  match _caused : error.cause with
  | none => []
  | some cause => cause :: cause.causes
termination_by error.chain.length
decreasing_by exact length_chain_of_cause _caused

/-- What a failure says about another try. Errors of other types say nothing. -/
def verdict : AnyError → Option Bool
  | .failure inner => some inner.isRetryable
  | .provisioning inner => some inner.isRetryable
  | .maas _ | .maasCausedBy _ _ | .staticIp _ | .kubernetes _ | .foreign _ _ => none

theorem isRetryable_foreign (text : String) (cause : Option AnyError) :
    (AnyError.foreign text cause).isRetryable = cause.elim false isRetryable := by
  cases cause <;> rfl

theorem isRetryable_unknown (texts : List String) :
    (unknown texts).elim false isRetryable = false := by
  induction texts with
  | nil => rfl
  | cons text texts ih => exact (isRetryable_foreign text _).trans ih

/-- A failure decides itself, any other error leaves it to its cause. -/
theorem isRetryable_eq (error : AnyError) :
    error.isRetryable = error.verdict.getD (error.cause.elim false isRetryable) := by
  cases error with
  | failure | provisioning | maas | maasCausedBy | staticIp => rfl
  | kubernetes error => exact (isRetryable_unknown error.chain).symm
  | foreign text cause => exact isRetryable_foreign text cause

theorem isRetryable_outermost (error : AnyError) :
    error.isRetryable = ((error :: error.causes).findSome? verdict).getD false := by
  fun_induction causes error with
  | case1 error first =>
      rw [isRetryable_eq, first, List.findSome?_cons]
      cases error.verdict <;> rfl
  | case2 error cause caused ih =>
      rw [isRetryable_eq, caused, List.findSome?_cons]
      cases error.verdict with
      | none => exact ih
      | some answer => rfl

/-- A failure that is final stays so when a passing one has caused it. -/
example :
    (foreign "task failed" (some (maasCausedBy .transport (provisioning
      ((ProvisioningFailure.new .profileNotFound "compose").causedBy
        (failure (.instanceGone "x"))))))).isRetryable = false := rfl

/-- The error inside errors of unknown type with these texts, the outermost first. -/
def wrapped (texts : List String) (error : AnyError) : AnyError :=
  texts.foldr (fun text inner => .foreign text (some inner)) error

theorem isRetryable_wrapped (texts : List String) (error : AnyError) :
    (error.wrapped texts).isRetryable = error.isRetryable := by
  induction texts with
  | nil => rfl
  | cons text texts ih => exact ih

/-- Along an error and its causes, each the cause of the one before, the outermost failure decides
    whether another try can help, and if there is none, none can. So errors of unknown type around an
    error never change that, and a failure of a pass that is not inside another error decides itself. -/
theorem retryable_as_outermost_failure (error : AnyError) :
    error.causes = error.cause.elim [] (fun cause => cause :: cause.causes) ∧
      error.isRetryable = ((error :: error.causes).findSome? verdict).getD false ∧
      (∀ texts, (error.wrapped texts).isRetryable = error.isRetryable) ∧
      ∀ failure, error = .failure failure → error.isRetryable = failure.isRetryable := by
  refine ⟨?_, isRetryable_outermost error, fun texts => isRetryable_wrapped texts error, ?_⟩
  · rw [causes]
    split
    · next first => rw [first]; rfl
    · next cause caused => rw [caused]; rfl
  · rintro failure rfl
    rfl

end AnyError

end MachineProvisioning
