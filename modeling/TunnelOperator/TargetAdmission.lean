import TunnelOperator.Cel
import TunnelOperator.Gateway

/-!
# Admission of targets

The API server checks a Tunnel's target with the validation rules of its resource definition,
and `Reconcile` checks it again. The rules look at the JSON form of the target, in which empty
fields are left out; `validateTunnelTarget` looks at the decoded target and trims the resolved
address. The two differ exactly on addresses made of blanks.
-/

namespace TunnelOperator
open Cel GoText

/-- A field with the JSON option `omitempty`. -/
def omitEmpty (name : String) (empty : Bool) (value : Value) : List (String × Value) :=
  if empty then [] else [(name, value)]

def LabelSelectorRequirement.toJson (requirement : LabelSelectorRequirement) : Value :=
  .map ([("key", .string requirement.key), ("operator", .string requirement.operator)] ++
    omitEmpty "values" (requirement.values = []) (.list (requirement.values.map .string)))

def TunnelTargetPodSelector.toJson (selector : TunnelTargetPodSelector) : Value :=
  .map (omitEmpty "matchLabels" (selector.matchLabels = [])
      (.map (selector.matchLabels.map fun label => (label.1, .string label.2))) ++
    omitEmpty "matchExpressions" (selector.matchExpressions = [])
      (.list (selector.matchExpressions.map (·.toJson))))

def TunnelTarget.toJson (target : TunnelTarget) : Value :=
  .map ([("host", .string target.host), ("port", .int target.port)] ++
    omitEmpty "resolvedIP" (target.resolvedIP = "") (.string target.resolvedIP) ++
    (target.podSelector.map fun selector => ("podSelector", selector.toJson)).toList)

def exclusiveTarget : Rule where
  message := "exactly one of resolvedIP or podSelector must be set"
  rule := .ne (.nonempty .self "resolvedIP") (.has .self "podSelector")

def nonemptySelector : Rule where
  message := "podSelector must not be empty"
  rule := .or
    (.or (.not (.has .self "podSelector"))
      (.nonempty (.select .self "podSelector") "matchLabels"))
    (.nonempty (.select .self "podSelector") "matchExpressions")

/-- The `x-kubernetes-validations` of `spec.target`. -/
def targetRules : List Rule := [exclusiveTarget, nonemptySelector]

/-- Every rule of the resource definition accepts the target. -/
def TunnelTarget.Admitted (target : TunnelTarget) : Prop := refusals targetRules target.toJson = []

instance (target : TunnelTarget) : Decidable target.Admitted := inferInstanceAs (Decidable (_ = _))

def TunnelTargetPodSelector.Empty (selector : TunnelTargetPodSelector) : Prop :=
  selector.matchLabels = [] ∧ selector.matchExpressions = []

instance (selector : TunnelTargetPodSelector) : Decidable selector.Empty :=
  inferInstanceAs (Decidable (_ ∧ _))

section Rules

variable (target : TunnelTarget) (selector : TunnelTargetPodSelector)

theorem eval_resolvedIP :
    eval target.toJson (.nonempty .self "resolvedIP") = some (.bool (target.resolvedIP ≠ "")) := by
  by_cases hip : target.resolvedIP = ""
  · rw [eval_nonempty_absent rfl]
    · simp [hip]
    · cases target.podSelector <;> simp [omitEmpty, hip]
  · rw [eval_nonempty_present (f := ("resolvedIP", .string target.resolvedIP)) rfl _ rfl]
    · simp [hip, Nat.pos_iff_ne_zero, String.length_eq_zero_iff]
    · simp [omitEmpty, hip]

theorem eval_podSelector :
    eval target.toJson (.has .self "podSelector") = some (.bool target.podSelector.isSome) := by
  cases hs : target.podSelector with
  | none => simp [eval, TunnelTarget.toJson, Value.has, omitEmpty, hs]
  | some selector => simp [eval, TunnelTarget.toJson, Value.has, hs]

theorem select_podSelector (hs : target.podSelector = some selector) :
    eval target.toJson (.select .self "podSelector") = some selector.toJson := by
  by_cases hip : target.resolvedIP = "" <;>
    simp [eval, TunnelTarget.toJson, Value.select, omitEmpty, hs, hip]

variable {target selector}

theorem eval_matchLabels (hs : target.podSelector = some selector) :
    eval target.toJson (.nonempty (.select .self "podSelector") "matchLabels") =
      some (.bool (selector.matchLabels ≠ [])) := by
  have he := select_podSelector target selector hs
  by_cases hl : selector.matchLabels = []
  · rw [eval_nonempty_absent he]
    · simp [hl]
    · by_cases hx : selector.matchExpressions = [] <;> simp [omitEmpty, hl, hx]
  · rw [eval_nonempty_present he (f := ("matchLabels", .map
      (selector.matchLabels.map fun label => (label.1, .string label.2)))) _ rfl]
    · simp [hl, List.length_pos_iff]
    · simp [omitEmpty, hl]

theorem eval_matchExpressions (hs : target.podSelector = some selector) :
    eval target.toJson (.nonempty (.select .self "podSelector") "matchExpressions") =
      some (.bool (selector.matchExpressions ≠ [])) := by
  have he := select_podSelector target selector hs
  by_cases hx : selector.matchExpressions = []
  · rw [eval_nonempty_absent he]
    · simp [hx]
    · by_cases hl : selector.matchLabels = [] <;> simp [omitEmpty, hl, hx]
  · rw [eval_nonempty_present he (f := ("matchExpressions", .list
      (selector.matchExpressions.map (·.toJson)))) _ rfl]
    · simp [hx, List.length_pos_iff]
    · by_cases hl : selector.matchLabels = [] <;> simp [omitEmpty, hl, hx]

theorem exclusiveTarget_accepts :
    exclusiveTarget.accepts target.toJson =
      decide (decide (target.resolvedIP ≠ "") ≠ target.podSelector.isSome) := by
  apply Rule.accepts_of_eval
  rw [exclusiveTarget, eval, eval_resolvedIP, eval_podSelector]
  rfl

theorem nonemptySelector_accepts_none (hs : target.podSelector = none) :
    nonemptySelector.accepts target.toJson = true := by
  apply Rule.accepts_of_eval
  rw [nonemptySelector, eval, eval, eval, eval_podSelector, hs]
  rfl

theorem nonemptySelector_accepts_some (hs : target.podSelector = some selector) :
    nonemptySelector.accepts target.toJson = decide (¬ selector.Empty) := by
  apply Rule.accepts_of_eval
  rw [nonemptySelector, eval, eval, eval, eval_podSelector, eval_matchLabels hs,
    eval_matchExpressions hs, hs]
  simp [Value.not, TunnelTargetPodSelector.Empty, imp_iff_not_or]

end Rules

/-- A target names an address or a selector with something to select by. -/
def Exclusive (hasResolvedIP : Prop) (podSelector : Option TunnelTargetPodSelector) : Prop :=
  (hasResolvedIP ∧ podSelector = none) ∨
    (¬ hasResolvedIP ∧ ∃ selector, podSelector = some selector ∧ ¬ selector.Empty)

theorem admitted_iff (target : TunnelTarget) :
    target.Admitted ↔ Exclusive (target.resolvedIP ≠ "") target.podSelector := by
  cases hs : target.podSelector with
  | none =>
      simp [TunnelTarget.Admitted, refusals, targetRules, exclusiveTarget_accepts,
        nonemptySelector_accepts_none, hs, Exclusive]
  | some selector =>
      simp [TunnelTarget.Admitted, refusals, targetRules, exclusiveTarget_accepts,
        nonemptySelector_accepts_some hs, hs, Exclusive]

theorem validateTunnelTarget_iff (target : TunnelTarget) :
    validateTunnelTarget target = .ok () ↔
      Exclusive (trimSpace target.resolvedIP ≠ "") target.podSelector := by
  cases hs : target.podSelector with
  | none => simp [validateTunnelTarget, hs, Exclusive]
  | some selector =>
      by_cases hip : trimSpace target.resolvedIP = ""
      · by_cases he : selector.Empty
        · simp [validateTunnelTarget, hs, Exclusive, hip, he, he.1, he.2]
        · have he' : ¬ (selector.matchLabels = [] ∧ selector.matchExpressions = []) := he
          simp [validateTunnelTarget, hs, Exclusive, hip, he, he']
      · simp [validateTunnelTarget, hs, Exclusive, hip]

/-- Admission and reconciliation agree on a target unless its resolved address consists of
blanks, which the rules take for an address and `validateTunnelTarget` does not. An empty
selector beside such an address is the one case both refuse. -/
theorem admitted_iff_validated (target : TunnelTarget) :
    (target.Admitted ↔ validateTunnelTarget target = .ok ()) ↔
      ¬ (target.resolvedIP ≠ "" ∧ trimSpace target.resolvedIP = "" ∧
        ∀ selector, target.podSelector = some selector → ¬ selector.Empty) := by
  rw [admitted_iff, validateTunnelTarget_iff]
  by_cases hip : target.resolvedIP = ""
  · have htrim : trimSpace "" = "" := rfl
    simp [hip, htrim]
  · by_cases htrim : trimSpace target.resolvedIP = ""
    · cases hs : target.podSelector with
      | none => simp [Exclusive, hip, htrim]
      | some selector => simp [Exclusive, hip, htrim]
    · simp [hip, htrim]

/-- A blank address passes admission and fails on every reconcile. -/
theorem blank_address_admitted :
    ∃ target : TunnelTarget, target.resolvedIP = " " ∧ target.podSelector = none ∧ target.Admitted ∧
      validateTunnelTarget target = .error "exactly one of resolvedIP or podSelector must be set" :=
  ⟨⟨"db.example.com", 5432, " ", none⟩, rfl, rfl, by decide, rfl⟩

end TunnelOperator
