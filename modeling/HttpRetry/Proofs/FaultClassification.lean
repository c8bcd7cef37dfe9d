import Mathlib
import HttpRetry.Proofs.SendLoop

/-!
Classifying a failure by its tree. Classification asks fixed questions of the failures in a chain
(`Fault.chain`: the failure, then its causes depth first). A wrapper around a cause
(`Fault.Around`) answers none of them but perhaps its own timeout, so it changes the kind only
through the timeout (`Around.kind`). Main statements, `context_end_and_plain_wrappers` and
`timeout_first_verdict`; a timeout behind a wrapper that says no is not seen
(`request_hides_timeout`).
-/

namespace HttpRetry

namespace Fault

@[simp] theorem chain_wrap (m : String) (c : Fault) : (wrap m c).chain = wrap m c :: c.chain := rfl

@[simp] theorem chain_request (op addr : String) (c : Fault) :
    (request op addr c).chain = request op addr c :: c.chain := rfl

@[simp] theorem chain_join (ps : List Fault) : (join ps).chain = join ps :: chains ps := by
  rw [chain]

@[simp] theorem chains_singleton (c : Fault) : chains [c] = c.chain := by
  simp [chains]

/-- A system error is the timed-out connection exactly when its code is. -/
theorem sysCode_eq_timedOut {g : Fault} : g.sysCode? = some .timedOut ↔ g = sys .timedOut := by
  cases g <;> simp [sysCode?]

/-- A chain holds a timed-out connection exactly when one of its failures has that code. -/
theorem any_timedOut_iff (c : List Fault) :
    (c.any fun g => g.sysCode? == some .timedOut) = true ↔ sys .timedOut ∈ c := by
  simp [sysCode_eq_timedOut]

/-! ### Wrappers -/

/-- `g` stands around `cause`: its chain is itself in front of the cause's, and it answers none of
classification's questions about sorts of failure. It may still say whether it timed out. -/
structure Around (g cause : Fault) : Prop where
  chain : g.chain = g :: cause.chain
  netOpName : g.netOpName? = none
  sysCode : g.sysCode? = none
  lookup : g.isLookup = false
  contextEnd : g.isContextEnd = false
  endOfInput : g.isEndOfInput = false

theorem around_wrap (m : String) (c : Fault) : Around (wrap m c) c :=
  ⟨chain_wrap m c, rfl, rfl, rfl, rfl, rfl⟩

theorem around_join_single (c : Fault) : Around (join [c]) c :=
  ⟨by simp, rfl, rfl, rfl, rfl, rfl⟩

theorem around_request (op addr : String) (c : Fault) : Around (request op addr c) c :=
  ⟨chain_request op addr c, rfl, rfl, rfl, rfl, rfl⟩

section Around

variable {g c : Fault}

/-- A wrapper that says nothing about timing out leaves the timeout to its cause. -/
theorem Around.isTimeout (h : Around g c) (hown : g.ownTimeout = none) :
    g.isTimeout = c.isTimeout := by
  have hnone : (g.ownTimeout).isNone = true := by simp [hown]
  have hsys : (g.sysCode? == some SysError.timedOut) = false := by simp [h.sysCode]
  rw [Fault.isTimeout, Fault.isTimeout, h.chain, List.findSome?_cons_of_isNone hnone, List.any_cons,
    hsys, Bool.false_or]

/-- A wrapper changes a failure's kind only through the timeout: every other search meets the
wrapper first, which answers none of them. -/
theorem Around.kind (h : Around g c) (ht : g.isTimeout = c.isTimeout) : g.kind = c.kind := by
  have hop : (g.chain.findSome? netOpName?) = c.chain.findSome? netOpName? := by
    rw [h.chain, List.findSome?_cons_of_isNone (by simp [h.netOpName])]
  have hsys : (g.chain.findSome? sysCode?) = c.chain.findSome? sysCode? := by
    rw [h.chain, List.findSome?_cons_of_isNone (by simp [h.sysCode])]
  have hany : ∀ p : Fault → Bool, p g = false → g.chain.any p = c.chain.any p := by
    intro p hp
    rw [h.chain, List.any_cons, hp, Bool.false_or]
  unfold Fault.kind
  dsimp only
  rw [hop, hsys, hany _ h.contextEnd, hany _ h.lookup, hany _ h.endOfInput, ht]

theorem Around.retryable (h : Around g c) (ht : g.isTimeout = c.isTimeout) :
    g.retryable = c.retryable := by
  rw [Fault.retryable, Fault.retryable, h.kind ht]

end Around

/-! ### The caller's context -/

/-- A chain that holds the end of the caller's context classifies as `other`, whatever else it
holds: that test comes before every other. -/
theorem kind_of_contextEnd_mem {f : Fault} (h : canceled ∈ f.chain ∨ deadlineExceeded ∈ f.chain) :
    f.kind = .other := by
  have hend : f.chain.any isContextEnd = true := by
    rcases h with h | h
    · exact List.any_eq_true.2 ⟨_, h, rfl⟩
    · exact List.any_eq_true.2 ⟨_, h, rfl⟩
  simp [Fault.kind, hend]

/-! ### Timeouts -/

/-- The first failure in `f`'s chain that says anything about timing out says `b`. -/
def FirstVerdict (f : Fault) (b : Bool) : Prop :=
  ∃ pre g post, f.chain = pre ++ g :: post ∧ (∀ h ∈ pre, h.ownTimeout = none) ∧ g.ownTimeout = some b

/-- A failure is a timeout exactly when the first verdict in its chain is yes, or a timed-out
connection is in the chain. -/
theorem isTimeout_iff_firstVerdict (f : Fault) :
    f.isTimeout = true ↔ f.FirstVerdict true ∨ sys .timedOut ∈ f.chain := by
  rw [Fault.isTimeout, Bool.or_eq_true, beq_iff_eq, List.findSome?_eq_some_iff, any_timedOut_iff]
  constructor
  · rintro (⟨pre, g, post, hc, hg, hpre⟩ | h)
    · exact .inl ⟨pre, g, post, hc, hpre, hg⟩
    · exact .inr h
  · rintro (⟨pre, g, post, hc, hpre, hg⟩ | h)
    · exact .inl ⟨pre, g, post, hc, hg, hpre⟩
    · exact .inr h

/-- What a request's failure says about timing out is what its direct cause says, or no. -/
theorem isTimeout_request (op addr : String) (c : Fault) :
    (request op addr c).isTimeout = true ↔ c.ownTimeout = some true ∨ sys .timedOut ∈ c.chain := by
  have hverdict : (request op addr c).chain.findSome? ownTimeout = some ((c.ownTimeout).getD false) := by
    rw [chain_request, List.findSome?_cons]
    rfl
  have hown : (c.ownTimeout).getD false = true ↔ c.ownTimeout = some true := by
    cases c.ownTimeout <;> simp
  have hsys : ((request op addr c).sysCode? == some SysError.timedOut) = false := rfl
  rw [Fault.isTimeout, hverdict, chain_request, List.any_cons, hsys, Bool.false_or, Bool.or_eq_true,
    beq_iff_eq, Option.some.injEq, hown, any_timedOut_iff]

/-- A request's failure is a timeout only if its cause is one: the cause itself says so, and so
its chain's first verdict is yes. -/
theorem isTimeout_of_isTimeout_request {op addr : String} {c : Fault}
    (h : (request op addr c).isTimeout = true) : c.isTimeout = true := by
  rw [isTimeout_request] at h
  rw [isTimeout_iff_firstVerdict]
  rcases h with h | h
  · have hc : c.chain = [] ++ c :: (c.chain.tail) := by
      cases c <;> simp [chain]
    exact .inl ⟨[], c, c.chain.tail, hc, by simp, h⟩
  · exact .inr h

end Fault

/-- An ended context anywhere in a failure's tree makes it of kind `other`; plain wrappers change
no answer. -/
theorem context_end_and_plain_wrappers (f : Fault) (m : String) :
    ((Fault.canceled ∈ f.chain ∨ Fault.deadlineExceeded ∈ f.chain) →
      f.kind = .other ∧ f.retryable = false ∧ (Outcome.ofFault f).retryable = false) ∧
    ((Fault.wrap m f).kind = f.kind ∧ (Fault.wrap m f).retryable = f.retryable ∧
      (Fault.wrap m f).isTimeout = f.isTimeout) ∧
    ((Fault.join [f]).kind = f.kind ∧ (Fault.join [f]).retryable = f.retryable ∧
      (Fault.join [f]).isTimeout = f.isTimeout) := by
  have hwrap := (Fault.around_wrap m f).isTimeout rfl
  have hjoin := (Fault.around_join_single f).isTimeout rfl
  refine ⟨fun h => ?_, ⟨(Fault.around_wrap m f).kind hwrap, (Fault.around_wrap m f).retryable hwrap,
    hwrap⟩, ⟨(Fault.around_join_single f).kind hjoin, (Fault.around_join_single f).retryable hjoin,
    hjoin⟩⟩
  have hk := Fault.kind_of_contextEnd_mem h
  exact ⟨hk, by simp [Fault.retryable, hk, FailureKind.retryable],
    by simp [Outcome.ofFault, Outcome.retryable, hk, FailureKind.retryable]⟩

/-- A cancelled context joined with a read that was reset: still `other`, and not retried. -/
theorem context_end_and_plain_wrappers_join :
    let f := Fault.join [.canceled, .netOp "read" "tcp" (.sys .connReset)]
    (Fault.canceled ∈ f.chain ∨ Fault.deadlineExceeded ∈ f.chain) ∧
    (f.kind = .other ∧ f.retryable = false ∧ (Outcome.ofFault f).retryable = false) :=
  have hmem : Fault.canceled ∈ (Fault.join [.canceled, .netOp "read" "tcp" (.sys .connReset)]).chain := by
    simp [Fault.chain, Fault.chains]
  ⟨.inl hmem, (context_end_and_plain_wrappers _ "").1 (.inl hmem)⟩

/-- A failure is a timeout when the first failure in its chain that says anything about timing out
says so, or a timed-out connection is in it. -/
theorem timeout_first_verdict (f : Fault) (op addr : String) :
    (f.isTimeout = true ↔ f.FirstVerdict true ∨ Fault.sys .timedOut ∈ f.chain) ∧
    ((Fault.request op addr f).isTimeout = true ↔
      f.ownTimeout = some true ∨ Fault.sys .timedOut ∈ f.chain) ∧
    ((Fault.request op addr f).isTimeout = true → f.isTimeout = true) ∧
    ((Fault.request op addr f).isTimeout = f.isTimeout →
      (Fault.request op addr f).kind = f.kind ∧
        (Fault.request op addr f).retryable = f.retryable) ∧
    ∀ (s : SendRun) (ctx : CallerContext) (transport : Nat → Reply) (r : Request),
      (s.attempt ctx transport r).1.execution.attemptTimeouts =
        s.execution.attemptTimeouts +
          if ((s.attempt ctx transport r).2.fault?.any Fault.isTimeout) then 1 else 0 :=
  ⟨Fault.isTimeout_iff_firstVerdict f, Fault.isTimeout_request op addr f,
    Fault.isTimeout_of_isTimeout_request,
    fun ht => ⟨(Fault.around_request op addr f).kind ht, (Fault.around_request op addr f).retryable ht⟩,
    fun s ctx transport r => by rw [SendRun.attempt_execution]; rfl⟩

/-- The reading at a request whose failure is a timeout behind a message. -/
theorem timeout_first_verdict_behind_message :
    let f := Fault.wrap "m" (.timed "t" true)
    (f.isTimeout = true ↔ f.FirstVerdict true ∨ Fault.sys .timedOut ∈ f.chain) ∧
    ((Fault.request "Get" "http://x/" f).isTimeout = true ↔
      f.ownTimeout = some true ∨ Fault.sys .timedOut ∈ f.chain) ∧
    ((Fault.request "Get" "http://x/" f).isTimeout = true → f.isTimeout = true) ∧
    ((Fault.request "Get" "http://x/" f).isTimeout = f.isTimeout →
      (Fault.request "Get" "http://x/" f).kind = f.kind ∧
        (Fault.request "Get" "http://x/" f).retryable = f.retryable) ∧
    ∀ (s : SendRun) (ctx : CallerContext) (transport : Nat → Reply) (r : Request),
      (s.attempt ctx transport r).1.execution.attemptTimeouts =
        s.execution.attemptTimeouts +
          if ((s.attempt ctx transport r).2.fault?.any Fault.isTimeout) then 1 else 0 :=
  timeout_first_verdict _ "Get" "http://x/"

/-- A timeout behind a message, with a request's operation in front: the tree holds a failure that
timed out, yet the whole is no timeout and of kind `other`, while without the request in front it
is a timeout and a read failure. -/
theorem request_hides_timeout :
    Fault.timed "t" true ∈ (Fault.request "Get" "http://x/" (.wrap "m" (.timed "t" true))).chain ∧
    (Fault.request "Get" "http://x/" (.wrap "m" (.timed "t" true))).isTimeout = false ∧
    (Fault.request "Get" "http://x/" (.wrap "m" (.timed "t" true))).kind = .other ∧
    (Fault.wrap "m" (.timed "t" true)).isTimeout = true ∧
    (Fault.wrap "m" (.timed "t" true)).kind = .read :=
  ⟨by simp [Fault.chain], by decide, by decide, by decide, by decide⟩

end HttpRetry
