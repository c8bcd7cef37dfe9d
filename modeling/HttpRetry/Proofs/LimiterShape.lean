import Mathlib
import HttpRetry.Settings.Resolve
import HttpRetry.Settings.Check

/-!
The shape of a configured limiter tree, and the limiter built from it. The shape check reports the
first of the tree's defects in pre-order (`checkShape_eq_defects`), and building a tree whose
fields pass gives the limiter of the same shape or refuses a header name
(`LimiterSettings.BuildEnd`, kept by `bind`). Main statement, `limiter_tree_checks`.
-/

namespace HttpRetry

/-- A side of an `and` or `or` limiter. -/
inductive Side where
  | left
  | right
  deriving DecidableEq, Repr

/-- The part a side adds to a path. -/
def Side.field : Side → String
  | .left => ".left"
  | .right => ".right"

/-- The path of the node reached from the node at `path` by taking `sides` in turn. -/
def Side.pathFrom (path : String) (sides : List Side) : String :=
  path ++ String.join (sides.map Side.field)

@[simp] theorem Side.pathFrom_nil (path : String) : Side.pathFrom path [] = path := by
  simp [Side.pathFrom]

@[simp] theorem Side.pathFrom_cons (path : String) (s : Side) (sides : List Side) :
    Side.pathFrom path (s :: sides) = Side.pathFrom (path ++ s.field) sides := by
  simp [Side.pathFrom, String.append_assoc]

/-- What can be wrong with one node of a limiter tree: an `and` or `or` node of type `kind`
lacks a side, a `max_error_responses` node counts no status, or a node of another type `kind` has
branches. -/
inductive ShapeDefect where
  | missing (side : Side) (kind : String)
  | noStatusCodes
  | strayBranches (kind : String)
  deriving DecidableEq, Repr

namespace ShapeDefect

/-- The setting that reports a defect of the node at `path`: the missing side, the node's status
codes, or the node itself. -/
def refusal (path : String) : ShapeDefect → Invalid
  | missing s kind => ⟨path ++ s.field, "<nil>", "required for " ++ kind⟩
  | noStatusCodes => ⟨path ++ ".status_codes", "[]", "must list at least one status code"⟩
  | strayBranches kind => ⟨path, kind, "only and and or take left and right"⟩

/-- The defects of a node of type `kind` that counts `codes` and has the branches it has, in the
order they are checked. -/
def ofNode (kind : String) (codes : List Int) (hasLeft hasRight : Bool) : List ShapeDefect :=
  if kind = "and" ∨ kind = "or" then
    (if hasLeft then [] else [missing .left kind]) ++ (if hasRight then [] else [missing .right kind])
  else
    (if kind = "max_error_responses" ∧ codes = [] then [noStatusCodes] else []) ++
      (if hasLeft ∨ hasRight then [strayBranches kind] else [])

end ShapeDefect

namespace LimiterSettings

/-- A well-shaped tree: a combining node with both branches well shaped, or a node of another
type with no branch, that counts some status if it counts responses. -/
def WellShaped : LimiterSettings → Prop
  | ⟨kind, _, _, some l, some r, _, _⟩ => (kind = "and" ∨ kind = "or") ∧ l.WellShaped ∧ r.WellShaped
  | ⟨kind, _, codes, none, none, _, _⟩ =>
    kind ≠ "and" ∧ kind ≠ "or" ∧ (kind = "max_error_responses" → codes ≠ [])
  | _ => False

/-- The defects of a branch, each with the sides from the node above. -/
def branchDefects (s : Side) (ds : List (List Side × ShapeDefect)) : List (List Side × ShapeDefect) :=
  ds.map fun (sides, d) => (s :: sides, d)

/-- Every defect of a tree, with the sides that lead to its node, in pre-order. -/
def defects : LimiterSettings → List (List Side × ShapeDefect)
  | ⟨kind, _, codes, left, right, _, _⟩ =>
    (ShapeDefect.ofNode kind codes left.isSome right.isSome).map (([] : List Side), ·) ++
      (match left with
        | some l => branchDefects .left l.defects
        | none => []) ++
      (match right with
        | some r => branchDefects .right r.defects
        | none => [])

/-- The defects of a tree: its root's own, then its left branch's, then its right branch's. -/
theorem defects_eq (t : LimiterSettings) :
    t.defects =
      (ShapeDefect.ofNode t.kind t.statusCodes t.left.isSome t.right.isSome).map (([] : List Side), ·) ++
        (match t.left with
          | some l => branchDefects .left l.defects
          | none => []) ++
        (match t.right with
          | some r => branchDefects .right r.defects
          | none => []) := by
  rw [defects.eq_def]
  cases t
  rfl

/-! ### The shape check reports the first defect -/

/-- The shape check at `path` passes when the tree has no defect, and otherwise reports its first
one, at the path of its node. -/
theorem checkShape_eq_defects (path : String) (t : LimiterSettings) :
    t.checkShape path =
      match t.defects with
      | [] => .ok ()
      | (sides, d) :: _ => .error (.invalid (d.refusal (Side.pathFrom path sides))) := by
  fun_induction checkShape path t with
  | case1 path kind max codes right ah ih hk =>
    -- a combining node with no left branch
    have hk' : kind = "and" ∨ kind = "or" := by simpa using hk
    rw [defects_eq]
    simp [ShapeDefect.ofNode, hk', ShapeDefect.refusal, Side.field]
  | case2 path kind max codes left ah ih hk hl =>
    -- a combining node with a left branch and no right one
    have hk' : kind = "and" ∨ kind = "or" := by simpa using hk
    obtain ⟨l, rfl⟩ := Option.ne_none_iff_exists'.1 hl
    rw [defects_eq]
    simp [ShapeDefect.ofNode, hk', ShapeDefect.refusal, Side.field]
  | case3 path kind max codes ah ih hk l r ihl ihr =>
    -- both branches: the left one's first defect, else the right one's
    have hk' : kind = "and" ∨ kind = "or" := by simpa using hk
    have hown : ShapeDefect.ofNode kind codes true true = [] := by simp [ShapeDefect.ofNode, hk']
    rw [ihl, ihr, defects.eq_1]
    simp only [Option.isSome_some, hown, List.map_nil, List.nil_append]
    cases l.defects with
    | nil =>
      cases r.defects with
      | nil => rfl
      | cons e rest =>
        obtain ⟨sides, d⟩ := e
        simp [branchDefects, Side.field, bind, Except.bind]
    | cons e rest =>
      obtain ⟨sides, d⟩ := e
      simp [branchDefects, Side.field, bind, Except.bind]
  | case4 path kind max codes left right ah ih hk hm =>
    -- a node counting responses that counts no status
    have hm' : kind = "max_error_responses" ∧ codes = [] := by simpa using hm
    rw [defects_eq]
    simp [ShapeDefect.ofNode, hm', ShapeDefect.refusal]
  | case5 path kind max codes left right ah ih hk hm hb =>
    -- another node with a branch
    have hk' : ¬(kind = "and" ∨ kind = "or") := by simpa using hk
    have hm' : ¬(kind = "max_error_responses" ∧ codes = []) := by simpa using hm
    have hb' : left.isSome ∨ right.isSome := by simpa using hb
    rw [defects_eq]
    simp [ShapeDefect.ofNode, hk', hm', hb', ShapeDefect.refusal]
  | case6 path kind max codes left right ah ih hk hm hb =>
    -- a node of another type with no branch and nothing amiss
    have hk' : ¬(kind = "and" ∨ kind = "or") := by simpa using hk
    have hm' : ¬(kind = "max_error_responses" ∧ codes = []) := by simpa using hm
    have hl : left = none := by cases left <;> simp_all
    have hr : right = none := by cases right <;> simp_all
    subst hl hr
    rw [defects_eq]
    simp [ShapeDefect.ofNode, hk', hm']

/-- A tree has no defect exactly when it is well shaped. -/
theorem defects_eq_nil_iff : ∀ t : LimiterSettings, t.defects = [] ↔ t.WellShaped
  | ⟨kind, _, codes, some l, some r, _, _⟩ => by
    have hl := defects_eq_nil_iff l
    have hr := defects_eq_nil_iff r
    by_cases hk : kind = "and" ∨ kind = "or"
    · simp [defects, WellShaped, ShapeDefect.ofNode, hk, branchDefects, hl, hr]
    · simp [defects, WellShaped, ShapeDefect.ofNode, hk]
  | ⟨kind, _, codes, some l, none, _, _⟩ => by
    by_cases hk : kind = "and" ∨ kind = "or" <;> simp [defects, WellShaped, ShapeDefect.ofNode, hk]
  | ⟨kind, _, codes, none, some r, _, _⟩ => by
    by_cases hk : kind = "and" ∨ kind = "or" <;> simp [defects, WellShaped, ShapeDefect.ofNode, hk]
  | ⟨kind, _, codes, none, none, _, _⟩ => by
    by_cases hk : kind = "and" ∨ kind = "or"
    · rcases hk with hk | hk <;> simp [defects, WellShaped, ShapeDefect.ofNode, hk]
    · have hk' : kind ≠ "and" ∧ kind ≠ "or" := not_or.1 hk
      simp [defects, WellShaped, ShapeDefect.ofNode, hk']

/-- The shape check passes exactly the well-shaped trees. -/
theorem checkShape_eq_ok_iff (path : String) (t : LimiterSettings) :
    t.checkShape path = .ok () ↔ t.WellShaped := by
  rw [checkShape_eq_defects, ← defects_eq_nil_iff]
  cases t.defects with
  | nil => simp
  | cons e rest => obtain ⟨sides, d⟩ := e; simp

/-! ### Field checks -/

/-- What a node whose fields pass their checks satisfies. -/
structure FieldsPass (t : LimiterSettings) : Prop where
  kind : t.kind ∈ limiterKinds
  max : 0 ≤ t.max
  codes : ∀ c ∈ t.statusCodes, 100 ≤ c ∧ c ≤ 599

/-- Items that pass their rule one by one pass it together. -/
theorem eachItem_eq_nil {path field : String} {rule : Int → Option String} {items : List Int}
    (h : FieldFault.eachItem path field rule items = []) : ∀ n ∈ items, rule n = none := by
  intro n hn
  rw [FieldFault.eachItem, List.filterMap_eq_nil_iff] at h
  have hmem : n ∈ ((List.range items.length).zip items).map Prod.snd := by
    rwa [List.map_snd_zip (by simp)]
  obtain ⟨⟨i, m⟩, hp, rfl⟩ := List.mem_map.1 hmem
  simpa using h (i, m) hp

/-- A tree whose fields pass their checks: the root's fields pass, and so do its branches'. -/
theorem fieldsPass_of_faults {path : String} :
    ∀ {t : LimiterSettings}, t.faults path = [] →
      t.FieldsPass ∧ (∀ l, t.left = some l → l.faults (path ++ ".Left") = []) ∧
        (∀ r, t.right = some r → r.faults (path ++ ".Right") = [])
  | ⟨kind, max, codes, left, right, ah, ih⟩, h => by
    rw [faults.eq_def] at h
    simp only [List.append_eq_nil_iff] at h
    obtain ⟨⟨⟨⟨hkind, hmax⟩, hcodes⟩, hleft⟩, hright⟩ := h
    refine ⟨⟨?_, ?_, ?_⟩, ?_, ?_⟩
    · by_cases he : kind.isEmpty
      · simp [he] at hkind
      · simpa [he, FieldFault.oneOf] using hkind
    · simpa [FieldFault.nonNegative] using hmax
    · intro c hc
      have hrule := eachItem_eq_nil hcodes c hc
      by_cases h1 : c < 100
      · simp [h1] at hrule
      · by_cases h2 : c > 599
        · simp [h1, h2] at hrule
        · exact ⟨by omega, by omega⟩
    · rintro l rfl
      simpa using hleft
    · rintro r rfl
      simpa using hright

/-! ### Building -/

/-- The limiter `base` in a node's decorators: its attempt header, then its idempotency key
header, each when named. -/
def decorated (t : LimiterSettings) (base : Limiter) : Limiter :=
  let counted := if t.attemptHeader.isEmpty then base else .marking base (.countHeader t.attemptHeader)
  if t.idempotencyHeader.isEmpty then counted else .marking counted (.idempotencyKey t.idempotencyHeader)

/-- `L` is the limiter tree of `t`'s shape: a leaf's limiter, or the combination of its branches'
trees, in the node's decorators. -/
inductive Shapes : LimiterSettings → Limiter → Prop
  | dontRetry {t : LimiterSettings} : t.kind = "dont_retry" → Shapes t (t.decorated .dontRetry)
  | maxErrors {t : LimiterSettings} : t.kind = "max_errors" →
      Shapes t (t.decorated (.maxErrors t.max.toNat Outcome.retryable))
  | maxErrorResponses {t : LimiterSettings} : t.kind = "max_error_responses" →
      Shapes t (t.decorated (.maxErrorResponses t.max.toNat t.statusCodes))
  | both {t l r : LimiterSettings} {a b : Limiter} : t.kind = "and" → t.left = some l →
      t.right = some r → Shapes l a → Shapes r b → Shapes t (t.decorated (.both a b))
  | either {t l r : LimiterSettings} {a b : Limiter} : t.kind = "or" → t.left = some l →
      t.right = some r → Shapes l a → Shapes r b → Shapes t (t.decorated (.either a b))

/-- The header names a node sets, with the setting each is checked as: its attempt header, then
its idempotency key header. -/
def ownHeaders (t : LimiterSettings) : List (String × String) :=
  (if t.attemptHeader.isEmpty then [] else [("AttemptHeader.name", t.attemptHeader)]) ++
    (if t.idempotencyHeader.isEmpty then [] else [("IdempotencyKey.name", t.idempotencyHeader)])

/-- The header names a tree sets, its branches' before its own. -/
def headers : LimiterSettings → List (String × String)
  | t@⟨_, _, _, left, right, _, _⟩ =>
    (match left with
      | some l => l.headers
      | none => []) ++
    (match right with
      | some r => r.headers
      | none => []) ++ t.ownHeaders

/-- How building may end, given the header names it checks: with a limiter that `P` describes,
every one of those names a token; or with the refusal of one of those names that is no token. -/
def BuildEnd (hs : List (String × String)) (P : Limiter → Prop) (res : Except Refusal Limiter) :
    Prop :=
  (∃ L, res = .ok L ∧ P L ∧ ∀ h ∈ hs, isHeaderName h.2 = true) ∨
  ∃ field name, (field, name) ∈ hs ∧ isHeaderName name = false ∧
    res = .error (.invalid ⟨field, Text.quote name, "not a valid header field name"⟩)

theorem BuildEnd.ok {P : Limiter → Prop} {L : Limiter} (hL : P L) : BuildEnd [] P (.ok L) :=
  .inl ⟨L, rfl, hL, by simp⟩

/-- A computation that ends so, followed by one that ends so from each limiter it may give,
ends so with both lists of names checked. -/
theorem BuildEnd.bind {hs hs' : List (String × String)} {P Q : Limiter → Prop}
    {x : Except Refusal Limiter} {f : Limiter → Except Refusal Limiter} (hx : BuildEnd hs P x)
    (hf : ∀ L, P L → BuildEnd hs' Q (f L)) : BuildEnd (hs ++ hs') Q (x >>= f) := by
  rcases hx with ⟨L, rfl, hL, hvalid⟩ | ⟨field, name, hmem, hbad, rfl⟩
  · rcases hf L hL with ⟨L', hf', hL', hvalid'⟩ | ⟨field, name, hmem, hbad, hf'⟩
    · refine .inl ⟨L', hf', hL', fun h hh => ?_⟩
      rcases List.mem_append.1 hh with hh | hh
      · exact hvalid h hh
      · exact hvalid' h hh
    · exact .inr ⟨field, name, List.mem_append_right _ hmem, hbad, hf'⟩
  · exact .inr ⟨field, name, List.mem_append_left _ hmem, hbad, rfl⟩

theorem BuildEnd.imp {hs : List (String × String)} {P Q : Limiter → Prop}
    {x : Except Refusal Limiter} (hx : BuildEnd hs P x) (hPQ : ∀ L, P L → Q L) : BuildEnd hs Q x := by
  rcases hx with ⟨L, hx, hL, hvalid⟩ | hbad
  · exact .inl ⟨L, hx, hPQ L hL, hvalid⟩
  · exact .inr hbad

/-- A decorator whose header name is checked as `field`. -/
theorem BuildEnd.header (field name : String) (base : Limiter) (m : Marking)
    (hres : ∀ res, res = (do Limiter.requireHeaderName field name; Limiter.onRetry (some base) (some m)) →
      res = if isHeaderName name then .ok (.marking base m)
        else .error (.invalid ⟨field, Text.quote name, "not a valid header field name"⟩)) :
    BuildEnd [(field, name)] (· = .marking base m)
      (do Limiter.requireHeaderName field name; Limiter.onRetry (some base) (some m)) := by
  rw [hres _ rfl]
  by_cases hn : isHeaderName name = true
  · exact .inl ⟨_, by simp [hn], rfl, by simp [hn]⟩
  · exact .inr ⟨field, name, by simp, by simpa using hn, by simp [hn]⟩

/-- The decorators of a node, put around `base` as building puts them. -/
def decorate (t : LimiterSettings) (base : Limiter) : Except Refusal Limiter := do
  let counted ← if t.attemptHeader.isEmpty then pure base
    else Limiter.attemptHeaderOf (some base) t.attemptHeader
  if t.idempotencyHeader.isEmpty then pure counted
  else Limiter.idempotencyKeyOf (some counted) t.idempotencyHeader

/-- A header decorator is refused exactly when its name is no token. -/
theorem requireHeaderName_onRetry (field name : String) (base : Limiter) (m : Marking) :
    (do Limiter.requireHeaderName field name; Limiter.onRetry (some base) (some m)) =
      if isHeaderName name then (.ok (.marking base m) : Except Refusal Limiter)
      else .error (.invalid ⟨field, Text.quote name, "not a valid header field name"⟩) := by
  by_cases hn : isHeaderName name = true <;>
    simp [Limiter.requireHeaderName, Limiter.onRetry, Limiter.require, hn, bind, Except.bind, pure,
      Except.pure]

/-- A node's decorators give the base in its decorators, or refuse one of its header names. -/
theorem decorate_ends (t : LimiterSettings) (base : Limiter) :
    BuildEnd t.ownHeaders (· = t.decorated base) (t.decorate base) := by
  -- the attempt header first: its name checked, or nothing to check
  have hcount : BuildEnd (if t.attemptHeader.isEmpty then [] else [("AttemptHeader.name", t.attemptHeader)])
      (· = if t.attemptHeader.isEmpty then base else .marking base (.countHeader t.attemptHeader))
      (if t.attemptHeader.isEmpty then pure base
        else Limiter.attemptHeaderOf (some base) t.attemptHeader) := by
    by_cases ha : t.attemptHeader.isEmpty = true
    · rw [if_pos ha, if_pos ha, if_pos ha]
      exact BuildEnd.ok rfl
    · rw [if_neg ha, if_neg ha, if_neg ha]
      exact BuildEnd.header "AttemptHeader.name" t.attemptHeader base (.countHeader t.attemptHeader)
        (fun res h => h ▸ requireHeaderName_onRetry _ _ _ _)
  have hdecorate : t.decorate base =
      (if t.attemptHeader.isEmpty then pure base
        else Limiter.attemptHeaderOf (some base) t.attemptHeader) >>= fun counted =>
          if t.idempotencyHeader.isEmpty then pure counted
          else Limiter.idempotencyKeyOf (some counted) t.idempotencyHeader := by
    unfold decorate
    cases t.attemptHeader.isEmpty <;> rfl
  rw [hdecorate, ownHeaders]
  refine hcount.bind fun counted hc => ?_
  -- then the idempotency key header around what the first left
  by_cases hi : t.idempotencyHeader.isEmpty = true
  · rw [if_pos hi, if_pos hi]
    exact BuildEnd.ok (by simp [decorated, hi, hc])
  · rw [if_neg hi, if_neg hi]
    have h := BuildEnd.header "IdempotencyKey.name" t.idempotencyHeader counted
      (.idempotencyKey t.idempotencyHeader) (fun res h => h ▸ requireHeaderName_onRetry _ _ _ _)
    exact h.imp fun L hL => by simp [hL, decorated, hi, hc]

/-- The header names of a node with both branches: the left branch's, the right branch's, the
node's own. -/
theorem headers_combined (kind : String) (max : Int) (codes : List Int) (l r : LimiterSettings)
    (ah ih : String) :
    headers ⟨kind, max, codes, some l, some r, ah, ih⟩ =
      l.headers ++ (r.headers ++ ownHeaders ⟨kind, max, codes, some l, some r, ah, ih⟩) := by
  rw [headers.eq_def]
  simp

/-- A leaf builds its limiter and then its decorators. -/
theorem build_leaf {t : LimiterSettings} {base : Limiter} (hl : t.left = none) (hr : t.right = none)
    (hbuild : t.build = t.decorate base) (hP : ∀ L, L = t.decorated base → Shapes t L) :
    BuildEnd t.headers (Shapes t) t.build := by
  obtain ⟨kind, max, codes, left, right, ah, ih⟩ := t
  simp only at hl hr
  subst hl hr
  have hheaders : headers ⟨kind, max, codes, none, none, ah, ih⟩ = ownHeaders ⟨kind, max, codes, none, none, ah, ih⟩ := by
    simp [headers]
  rw [hbuild, hheaders]
  exact (decorate_ends _ base).imp hP

/-- Building a well-shaped tree whose fields pass their checks gives the limiter tree of its shape,
or refuses one of its header names that is no token. -/
theorem build_ends (t : LimiterSettings) :
    ∀ path, t.faults path = [] → t.WellShaped → BuildEnd t.headers (Shapes t) t.build := by
  -- the induction follows `build`; the field checks and the shape hold of each branch in turn
  induction t using build.induct with
  | case1 max codes left right ah ih =>
    intro path _ hw
    obtain ⟨rfl, rfl⟩ : left = none ∧ right = none := by
      cases left <;> cases right <;> simp_all [WellShaped]
    exact build_leaf rfl rfl rfl fun L hL => hL ▸ .dontRetry rfl
  | case2 max codes left right ah ih =>
    intro path hf hw
    obtain ⟨rfl, rfl⟩ : left = none ∧ right = none := by
      cases left <;> cases right <;> simp_all [WellShaped]
    have hmax : Limiter.maxErrorsOf max = .ok (.maxErrors max.toNat Outcome.retryable) := by
      simp [Limiter.maxErrorsOf, Limiter.maxErrorsIf,
        requireNonNegative_of_nonneg (fieldsPass_of_faults hf).1.max]
    refine build_leaf rfl rfl ?_ fun L hL => hL ▸ .maxErrors rfl
    rw [show build ⟨"max_errors", max, codes, none, none, ah, ih⟩ =
      Limiter.maxErrorsOf max >>= decorate ⟨"max_errors", max, codes, none, none, ah, ih⟩ from rfl, hmax]
    rfl
  | case3 max codes left right ah ih =>
    intro path hf hw
    obtain ⟨rfl, rfl⟩ : left = none ∧ right = none := by
      cases left <;> cases right <;> simp_all [WellShaped]
    have hpass := (fieldsPass_of_faults hf).1
    -- every counted status is one, so only the bound is checked, and it is not negative
    have hcodes : codes.find? (fun c => c < 100 || c > 599) = none := by
      rw [List.find?_eq_none]
      intro c hc
      have := hpass.codes c hc
      simp only [Bool.or_eq_true, decide_eq_true_eq, not_or, not_lt]
      omega
    have hmer : Limiter.maxErrorResponsesOf max codes = .ok (.maxErrorResponses max.toNat codes) := by
      simp [Limiter.maxErrorResponsesOf, requireNonNegative_of_nonneg hpass.max, hcodes]
    refine build_leaf rfl rfl ?_ fun L hL => hL ▸ .maxErrorResponses rfl
    rw [show build ⟨"max_error_responses", max, codes, none, none, ah, ih⟩ =
      Limiter.maxErrorResponsesOf max codes >>=
        decorate ⟨"max_error_responses", max, codes, none, none, ah, ih⟩ from rfl, hmer]
    rfl
  | case4 max codes ah ih l r ihl ihr =>
    intro path hf hw
    -- both branches build, then the node's decorators go around their combination
    obtain ⟨-, hleft, hright⟩ := fieldsPass_of_faults hf
    obtain ⟨-, hwl, hwr⟩ := hw
    have hl := ihl _ (hleft l rfl) hwl
    have hr := ihr _ (hright r rfl) hwr
    rw [show build ⟨"and", max, codes, some l, some r, ah, ih⟩ = (do
        let a ← l.build
        let b ← r.build
        decorate ⟨"and", max, codes, some l, some r, ah, ih⟩ (.both a b)) from rfl,
      headers_combined]
    refine hl.bind fun a ha => hr.bind fun b hb => ?_
    exact (decorate_ends _ _).imp fun L hL => hL ▸ .both rfl rfl rfl ha hb
  | case5 max codes left right ah ih hlr =>
    intro path _ hw
    cases left <;> cases right <;> simp_all [WellShaped]
  | case6 max codes ah ih l r ihl ihr =>
    intro path hf hw
    obtain ⟨-, hleft, hright⟩ := fieldsPass_of_faults hf
    obtain ⟨-, hwl, hwr⟩ := hw
    have hl := ihl _ (hleft l rfl) hwl
    have hr := ihr _ (hright r rfl) hwr
    rw [show build ⟨"or", max, codes, some l, some r, ah, ih⟩ = (do
        let a ← l.build
        let b ← r.build
        decorate ⟨"or", max, codes, some l, some r, ah, ih⟩ (.either a b)) from rfl,
      headers_combined]
    refine hl.bind fun a ha => hr.bind fun b hb => ?_
    exact (decorate_ends _ _).imp fun L hL => hL ▸ .either rfl rfl rfl ha hb
  | case7 max codes left right ah ih hlr =>
    intro path _ hw
    cases left <;> cases right <;> simp_all [WellShaped]
  | case8 kind max codes left right ah ih h1 h2 h3 h4 h5 =>
    intro path hf _
    -- the field checks admit no other type
    have hk := (fieldsPass_of_faults hf).1.kind
    simp only [limiterKinds, List.mem_cons, List.not_mem_nil, or_false] at hk
    rcases hk with hk | hk | hk | hk | hk <;> simp_all

/-- Every header name a tree sets is checked as an attempt header or an idempotency key header. -/
theorem headers_field : ∀ {t : LimiterSettings} {field name : String}, (field, name) ∈ t.headers →
    field = "AttemptHeader.name" ∨ field = "IdempotencyKey.name"
  | ⟨kind, max, codes, left, right, ah, ih⟩, field, name, h => by
    rw [headers.eq_def] at h
    simp only [List.mem_append] at h
    rcases h with (h | h) | h
    · cases left with
      | none => simp at h
      | some l => exact headers_field h
    · cases right with
      | none => simp at h
      | some r => exact headers_field h
    · simp only [ownHeaders, List.mem_append] at h
      rcases h with h | h
      · split at h <;> simp_all
      · split at h <;> simp_all

end LimiterSettings

/-- The shape check passes exactly the well-shaped trees, else reports the first defect at its path;
a tree that passes builds to the limiter of its shape or refuses a header name. -/
theorem limiter_tree_checks (t : LimiterSettings) :
    (t.checkShape "limiter" = .ok () ↔ t.WellShaped) ∧
    (∀ sides d rest, t.defects = (sides, d) :: rest →
      t.checkShape "limiter" = .error (.invalid (d.refusal (Side.pathFrom "limiter" sides)))) ∧
    (t.faults "Limiter" = [] → t.checkShape "limiter" = .ok () →
      (∃ L, t.build = .ok L ∧ t.Shapes L) ∨
      ∃ field name, (field = "AttemptHeader.name" ∨ field = "IdempotencyKey.name") ∧
        (field, name) ∈ t.headers ∧ isHeaderName name = false ∧
        t.build = .error (.invalid ⟨field, Text.quote name, "not a valid header field name"⟩)) := by
  refine ⟨LimiterSettings.checkShape_eq_ok_iff "limiter" t, fun sides d rest hd => ?_,
    fun hf hs => ?_⟩
  · rw [LimiterSettings.checkShape_eq_defects, hd]
  · rcases LimiterSettings.build_ends t "Limiter" hf ((LimiterSettings.checkShape_eq_ok_iff _ t).1 hs)
      with ⟨L, hL, hshape, -⟩ | ⟨field, name, hmem, hbad, herr⟩
    · exact .inl ⟨L, hL, hshape⟩
    · exact .inr ⟨field, name, LimiterSettings.headers_field hmem, hmem, hbad, herr⟩

/-- An `and` whose left branch, an `or`, lacks its own left branch: the check reports
`limiter.left.left`. -/
theorem limiter_tree_checks_nested :
    let t : LimiterSettings := ⟨"and", 0, [],
      some ⟨"or", 0, [], none, some ⟨"dont_retry", 0, [], none, none, "", ""⟩, "", ""⟩,
      some ⟨"dont_retry", 0, [], none, none, "", ""⟩, "", ""⟩
    t.defects = [([.left], .missing .left "or")] ∧
    t.checkShape "limiter" = .error (.invalid ⟨"limiter.left.left", "<nil>", "required for or"⟩) := by
  intro t
  have hd : t.defects = [([.left], .missing .left "or")] := by
    decide
  refine ⟨hd, ?_⟩
  have h := (limiter_tree_checks t).2.1 _ _ _ hd
  rw [h]
  rfl

end HttpRetry
