import Mathlib.Tactic.Common
import ReleasePress.Proofs.Environment
import ReleasePress.Proofs.Template.Refusal

/-! # Refused calls end a rendering

A document that calls a filter in a way it refuses is not rendered: its error names the key and the refused
call. Only calls where refusals are hidden are passed over, and these are the conditions on a reference or a
test and the operands of a calculation that is not itself a condition. -/

namespace ReleasePress

open ReleasePress.Template

namespace Template

theorem mem_visible_iff {refusals : List Refusal} {error : FilterError} :
    error ∈ visible refusals ↔ ⟨error, false⟩ ∈ refusals := by
  simp only [visible, List.mem_filterMap]
  constructor
  · rintro ⟨⟨error', hidden⟩, hmem, herror⟩
    cases hidden with
    | true => simp at herror
    | false =>
        obtain rfl : error' = error := by simpa using herror
        exact hmem
  · intro hmem
    exact ⟨⟨error, false⟩, hmem, by simp⟩

theorem error_eq_contractViolation_iff {key key' : String} {failure : Failure} {error : FilterError} :
    failure.error key = .contractViolation key' error ↔
      key' = key ∧ failure.refusal = some error := by
  cases hrefusal : failure.refusal with
  | none => simp [Failure.error, hrefusal]
  | some refusal =>
      simp only [Failure.error, hrefusal, TemplateError.contractViolation.injEq, Option.some.injEq]
      tauto

end Template

namespace Environment

variable {σ : Type}

/-- What refused calls a rendering of a document meets. -/
def refusals (environment : Environment σ) (key : String) (document : Document) (context : Fields)
    (filters : FilterState σ) : List Refusal :=
  ((environment.page key document context).render.outcome (.start filters)).2.refusals

theorem renderBody_run {environment : Environment σ} {body : String} {document : Document}
    (hread : Document.read? body = some document) (key : String) (context : Fields)
    (filters : FilterState σ) :
    ((environment.renderBody key body context).run filters).1 =
      match ((environment.page key document context).render.outcome (.start filters)).1 with
      | .ok text => .ok text
      | .error failure => .error (failure.error key) := by
  simp only [renderBody, hread]
  rfl

/-- Rendering ends with the contract violation of a refused call exactly if its document meets the call
where refusals are not hidden, and then under the full key. -/
theorem renderBody_contractViolation_iff (environment : Environment σ) (key body : String)
    (context : Fields) (filters : FilterState σ) (key' : String) (error : FilterError) :
    ((environment.renderBody key body context).run filters).1 =
        .error (.contractViolation key' error) ↔
      key' = key ∧ ∃ document, Document.read? body = some document ∧
        ⟨error, false⟩ ∈ environment.refusals key document context filters := by
  cases hread : Document.read? body with
  | none =>
      have hmalformed : ∃ reason, ((environment.renderBody key body context).run filters).1 =
          .error (.malformed key reason) := by
        simp only [renderBody, hread]
        exact ⟨_, rfl⟩
      obtain ⟨reason, hmalformed⟩ := hmalformed
      simp [hmalformed]
  | some document =>
      obtain ⟨-, hvisible⟩ :=
        Page.reports_render (environment.page key document context) (.start filters)
      have hlist : visible (environment.refusals key document context filters) =
          told ((environment.page key document context).render.outcome (.start filters)).1 := by
        rw [refusals, hvisible]
        simp [Progress.start, visible]
      simp only [Option.some.injEq, exists_eq_left']
      rw [← mem_visible_iff, hlist, renderBody_run hread]
      cases ((environment.page key document context).render.outcome (.start filters)).1 with
      | ok text => simp [told]
      | error failure =>
          rw [Except.error.injEq, error_eq_contractViolation_iff]
          simp [told]

/-- A condition on a reference that goes through a filter with an argument it refuses. -/
def refusedCondition : String :=
  "\x7b% if n | prefix(n=-1) %\x7dyes\x7b% else %\x7dno\x7b% endif %\x7d"

/-- A refused call in a condition on a reference does not end the rendering. -/
theorem renderBody_refusedCondition :
    ((Document.read? refusedCondition).map fun document =>
        plain.refusals "a.md" document [("n", .string "x")] { repository := 0 }) =
        some [⟨⟨.take, .lengthWanted⟩, true⟩] ∧
      ((plain.renderBody "a.md" refusedCondition [("n", .string "x")]).run { repository := 0 }).1.toOption =
        some "no" := by
  refine ⟨?_, ?_⟩
  · decide +kernel
  · decide +kernel

end Environment

end ReleasePress
