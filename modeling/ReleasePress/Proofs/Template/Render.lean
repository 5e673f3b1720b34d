import ReleasePress.Proofs.Template.Step

/-! # Rendering keeps compositional properties

Every expression and every node has each compositional property, by induction on the fuel: one lemma for each
kind of syntax says that what takes one unit of fuel more has the property too. -/

namespace ReleasePress.Template

/-- Whatever of a page takes so much fuel has the property. -/
structure Page.Throughout {σ : Type} (p : ∀ ⦃α : Type⦄, Rendering σ α → Prop) (page : Page σ)
    (fuel : Nat) : Prop where
  evaluate : ∀ expression, p (page.evaluate fuel expression)
  filterAll : ∀ calls value, p (page.filterAll fuel calls value)
  callFilter : ∀ call value, p (page.callFilter fuel call value)
  evaluateArguments : ∀ call, p (page.evaluateArguments fuel call)
  callFunction : ∀ call, p (page.callFunction fuel call)
  evaluateTerm : ∀ term, p (page.evaluateTerm fuel term)
  joinedPart : ∀ part, p (page.joinedPart fuel part)
  number : ∀ expression, p (page.number fuel expression)
  calculate : ∀ operator left right, p (page.calculate fuel operator left right)
  compare : ∀ relation left right, p (page.compare fuel relation left right)
  includes : ∀ inside item container, p (page.includes fuel inside item container)
  passes : ∀ passing subject name arguments,
    p (page.passes fuel passing subject name arguments)
  holds : ∀ expression, p (page.holds fuel expression)
  expand : ∀ space call, p (page.expand fuel space call)
  renderAll : ∀ nodes, p (page.renderAll fuel nodes)
  renderChoice : ∀ branches otherwise, p (page.renderChoice fuel branches otherwise)
  renderNode : ∀ node, p (page.renderNode fuel node)

namespace Rendering

open ReleasePress.Template.Page

variable {σ : Type} {page : Page σ} {fuel : Nat} {p : ∀ ⦃α : Type⦄, Rendering σ α → Prop}
variable (hp : IsCompositional page.library p)
include hp

/-! ## Parts of steps -/

protected theorem IsCompositional.exhausted {α : Type} : p (exhausted : Rendering σ α) :=
  hp.fail _

protected theorem IsCompositional.lookup (reference : Reference) : p (page.lookup reference) := by
  have hlookup (scopes : List Scope) : p (
      let around : Surroundings := { scopes, context := page.context, template := page.name }
      if reference.spelling = Surroundings.overviewName then pure (.string around.overview)
      else Rendering.ofExcept (around.value reference) : Rendering σ Json) := by
    dsimp only
    split
    · exact hp.pure _
    · exact hp.ofExcept _
  exact hp.scopes hlookup

protected theorem IsCompositional.filtered (name : String) (subject : Json) (arguments : Fields) :
    p (page.filtered name subject arguments) := by
  rw [filtered]
  split
  · refine hp.bind (hp.ask _ _ _) fun answer => ?_
    split
    · exact hp.pure _
    · exact hp.refuse _ _
  · split
    · exact hp.ofExcept _
    · exact hp.fail _

protected theorem IsCompositional.numberOr (reason : String) (value : Json) :
    p (numberOr reason value : Rendering σ (Option Json.Number)) := by
  cases value with
  | number n => exact hp.pure _
  | _ => exact hp.fail reason

/-- Every condition ends in the same way once it is known without its negation. -/
protected theorem IsCompositional.concluded {condition : Rendering σ (Option Bool)} {negated : Bool}
    {conclude : Option Bool → Rendering σ Bool} (hcondition : p condition)
    (hsome : ∀ plain, conclude (some plain) = pure (plain != negated))
    (hnone : conclude none = pure false) : p (condition >>= conclude) := by
  refine hp.bind hcondition fun plain => ?_
  cases plain with
  | none =>
      rw [hnone]
      exact hp.pure _
  | some plain =>
      rw [hsome]
      exact hp.pure _

/-! ## Expressions -/

variable (ih : Throughout p page fuel)
include ih

protected theorem IsCompositional.evaluate (expression : Expression) :
    p (page.evaluate (fuel + 1) expression) := by
  have hfilter : ∀ (finish : Json → Json) value, p (do
      let value ← page.filterAll fuel expression.filters value
      pure (finish value)) :=
    fun finish value => hp.bind (ih.filterAll _ value) fun _ => hp.pure _
  rw [Page.evaluate]
  split
  · refine hp.bind (hp.orElse _ (hp.lookup _)) fun found => ?_
    split
    · split
      · exact hp.bind (ih.evaluate _) (hfilter _)
      · exact hp.fail _
    · exact hfilter _ _
  · split
    · refine hp.bind (hp.orElse _ (hp.map _ (hp.lookup _))) fun found => ?_
      split
      · exact hfilter _ _
      · exact hp.pure _
    · exact hp.bind (hp.lookup _) (hfilter _)
  · exact hp.bind (ih.holds _) fun _ => hfilter _ _
  · exact hp.bind (ih.holds _) fun _ => hfilter _ _
  · exact hp.bind (ih.holds _) fun _ => hfilter _ _
  · exact hp.bind (ih.evaluateTerm _) (hfilter _)

protected theorem IsCompositional.filterAll (calls : List Call) (value : Json) :
    p (page.filterAll (fuel + 1) calls value) := by
  cases calls with
  | nil => exact hp.pure value
  | cons call calls =>
      rw [Page.filterAll]
      split
      · exact ih.filterAll _ _
      · exact hp.bind (ih.callFilter _ _) fun _ => ih.filterAll _ _

protected theorem IsCompositional.callFilter (call : Call) (value : Json) :
    p (page.callFilter (fuel + 1) call value) := by
  rw [Page.callFilter]
  split
  · refine hp.within _ (hp.bind (ih.evaluateArguments _) fun arguments => ?_)
    exact hp.filtered _ _ _
  · exact hp.fail _

protected theorem IsCompositional.evaluateArguments (call : Call) :
    p (page.evaluateArguments (fuel + 1) call) := by
  rw [Page.evaluateArguments]
  exact hp.mapM fun argument _ => hp.bind (ih.evaluate _) fun _ => hp.pure _

protected theorem IsCompositional.callFunction (call : Call) :
    p (page.callFunction (fuel + 1) call) := by
  rw [Page.callFunction]
  split
  · exact hp.fail _
  · exact hp.within _ (hp.bind (ih.evaluateArguments _) fun _ => hp.ofExcept _)

protected theorem IsCompositional.evaluateTerm (term : Term) :
    p (page.evaluateTerm (fuel + 1) term) := by
  cases term with
  | text text => exact hp.pure _
  | integer n => exact hp.pure _
  | real x => exact hp.pure _
  | truth b => exact hp.pure _
  | reference reference => exact hp.lookup reference
  | list items =>
      refine hp.bind (hp.mapM fun item _ => ?_) fun _ => hp.pure _
      exact ih.evaluate item
  | joined parts =>
      refine hp.bind (hp.mapM fun part _ => ?_) fun _ => hp.pure _
      exact ih.joinedPart part
  | arithmetic operator left right =>
      refine hp.bind (hp.summarized (ih.calculate _ _ _)) fun result => ?_
      cases result with
      | some n => exact hp.pure _
      | none => exact hp.pure _
  | comparison relation left right => exact hp.bind (ih.compare _ _ _) fun _ => hp.pure _
  | either left right => exact hp.bind (ih.holds _) fun _ => hp.pure _
  | both left right => exact hp.bind (ih.holds _) fun _ => hp.pure _
  | member inside item container => exact hp.bind (ih.includes _ _ _) fun _ => hp.pure _
  | test passing subject name arguments =>
      exact hp.bind (ih.passes _ _ _ _) fun _ => hp.pure _
  | call call => exact ih.callFunction call
  | expansion space call => exact hp.bind (ih.expand _ _) fun _ => hp.pure _

protected theorem IsCompositional.joinedPart (part : Term) :
    p (page.joinedPart (fuel + 1) part) := by
  cases part with
  | real x => exact hp.pure _
  | reference reference => exact hp.bind (hp.lookup _) fun _ => hp.ofExcept _
  | call call => exact hp.bind (ih.callFunction _) fun _ => hp.ofExcept _
  | _ => exact hp.bind (ih.evaluateTerm _) fun _ => hp.pure _

protected theorem IsCompositional.number (expression : Expression) :
    p (page.number (fuel + 1) expression) := by
  rw [Page.number]
  split
  · split
    · exact hp.bind (hp.lookup _) fun _ => hp.numberOr _ _
    · exact hp.pure _
    · exact hp.pure _
    · exact ih.calculate _ _ _
    · exact hp.bind (ih.callFunction _) fun _ => hp.numberOr _ _
    all_goals exact hp.fail _
  · exact hp.bind (ih.evaluate _) fun _ => hp.numberOr _ _

protected theorem IsCompositional.calculate (operator : Operator)
    (left right : Expression) : p (page.calculate (fuel + 1) operator left right) := by
  rw [Page.calculate]
  refine hp.bind (ih.number _) fun l => hp.bind (ih.number _) fun r => ?_
  split
  · exact hp.ofExcept _
  · exact hp.pure _

/-! ## Conditions -/

protected theorem IsCompositional.compare (relation : Relation) (left right : Expression) :
    p (page.compare (fuel + 1) relation left right) := by
  cases relation with
  | equal =>
      exact hp.bind (ih.evaluate _) fun _ => hp.bind (ih.evaluate _) fun _ => hp.pure _
  | different =>
      exact hp.bind (ih.evaluate _) fun _ => hp.bind (ih.evaluate _) fun _ => hp.pure _
  | _ =>
      refine hp.bind (ih.number _) fun l => hp.bind (ih.number _) fun r => ?_
      split
      · exact hp.pure _
      · exact hp.fail _

protected theorem IsCompositional.includes (inside : Bool) (item container : Expression) :
    p (page.includes (fuel + 1) inside item container) := by
  rw [Page.includes]
  refine hp.bind (ih.evaluate _) fun _ => hp.bind (ih.evaluate _) fun _ => ?_
  exact hp.bind (hp.ofExcept _) fun _ => hp.pure _

protected theorem IsCompositional.passes (passing : Bool) (subject : Reference)
    (name : String) (arguments : List Expression) :
    p (page.passes (fuel + 1) passing subject name arguments) := by
  rw [Page.passes]
  split
  · exact hp.fail _
  · refine hp.bind (hp.mapM fun argument _ => hp.within _ (ih.evaluate _)) fun _ => ?_
    refine hp.bind (hp.orElse _ (hp.map _ (hp.lookup _))) fun _ => ?_
    exact hp.bind (hp.within _ (hp.ofExcept _)) fun _ => hp.pure _

protected theorem IsCompositional.holds (expression : Expression) :
    p (page.holds (fuel + 1) expression) := by
  rw [Page.holds]
  split
  · refine hp.bind (ih.holds _) fun first => ?_
    split
    · exact hp.concluded (hp.pure _) (fun _ => rfl) rfl
    · exact hp.concluded (hp.map _ (ih.holds _)) (fun _ => rfl) rfl
  · refine hp.bind (ih.holds _) fun first => ?_
    split
    · exact hp.concluded (hp.map _ (ih.holds _)) (fun _ => rfl) rfl
    · exact hp.concluded (hp.pure _) (fun _ => rfl) rfl
  · split
    · refine hp.bind (ih.evaluate _) fun l => hp.bind (ih.evaluate _) fun r => ?_
      split
      · exact hp.concluded (hp.pure _) (fun _ => rfl) rfl
      · exact hp.concluded (hp.pure _) (fun _ => rfl) rfl
    · exact hp.concluded (hp.map _ (ih.compare _ _ _)) (fun _ => rfl) rfl
  · refine hp.bind (hp.orElse _ (ih.evaluate _)) fun _ => ?_
    exact hp.concluded (hp.pure _) (fun _ => rfl) rfl
  · refine hp.bind (ih.calculate _ _ _) fun result => ?_
    split
    · exact hp.concluded (hp.pure _) (fun _ => rfl) rfl
    · exact hp.concluded (hp.pure _) (fun _ => rfl) rfl
  · exact hp.concluded (hp.pure _) (fun _ => rfl) rfl
  · exact hp.concluded (hp.pure _) (fun _ => rfl) rfl
  · exact hp.concluded (hp.map _ (hp.orElse _ (ih.passes _ _ _ _))) (fun _ => rfl) rfl
  · exact hp.concluded (hp.pure _) (fun _ => rfl) rfl
  · exact hp.concluded (hp.pure _) (fun _ => rfl) rfl
  · refine hp.bind (ih.callFunction _) fun result => ?_
    split
    · exact hp.concluded (hp.pure _) (fun _ => rfl) rfl
    · exact hp.concluded (hp.fail _) (fun _ => rfl) rfl
  · exact hp.concluded (hp.map _ (hp.map _ (ih.evaluate _))) (fun _ => rfl) rfl
  · exact hp.concluded (hp.map _ (hp.map _ (ih.evaluate _))) (fun _ => rfl) rfl
  · refine hp.bind (ih.expand _ _) fun _ => ?_
    exact hp.concluded (hp.pure _) (fun _ => rfl) rfl
  · exact hp.concluded (hp.map _ (ih.includes _ _ _)) (fun _ => rfl) rfl

/-! ## Nodes -/

protected theorem IsCompositional.expand (space : String) (call : Call) :
    p (page.expand (fuel + 1) space call) := by
  rw [Page.expand]
  refine hp.bind (hp.ofExcept _) fun definition => ?_
  refine hp.bind (hp.mapM fun parameter _ => ?_) fun values => ?_
  · split
    · exact hp.bind (ih.evaluate _) fun _ => hp.pure _
    · exact hp.bind (ih.evaluateTerm _) fun _ => hp.pure _
    · exact hp.fail _
  · exact hp.bind (hp.enclosed _ (ih.renderAll _)) fun _ => hp.pure _

protected theorem IsCompositional.renderAll (nodes : List Node) :
    p (page.renderAll (fuel + 1) nodes) := by
  rw [Page.renderAll]
  exact hp.untilBroken fun node _ => ih.renderNode node

protected theorem IsCompositional.renderChoice (branches : List (Margin × Expression × List Node)) (otherwise : Option (Margin × List Node)) :
    p (page.renderChoice (fuel + 1) branches otherwise) := by
  cases branches with
  | nil =>
      cases otherwise with
      | none => exact hp.pure _
      | some body => exact ih.renderAll _
  | cons branch branches =>
      obtain ⟨margin, condition, body⟩ := branch
      rw [Page.renderChoice]
      refine hp.bind (ih.holds _) fun first => ?_
      split
      · exact ih.renderAll _
      · exact ih.renderChoice _ _

protected theorem IsCompositional.renderNode (node : Node) :
    p (page.renderNode (fuel + 1) node) := by
  cases node with
  | text content => exact hp.pure _
  | verbatim start content stop => exact hp.pure _
  | comment margin => exact hp.pure _
  | output margin value => exact hp.bind (ih.evaluate _) fun _ => hp.pure _
  | assign margin outside name value =>
      refine hp.bind (ih.evaluate _) fun value => ?_
      exact hp.bind (hp.rescope _) fun _ => hp.pure _
  | choose branches otherwise stop => exact ih.renderChoice _ _
  | each start key name container body empty stop =>
      refine hp.bind (hp.ofExcept _) fun shown => hp.bind (ih.evaluate _) fun value => ?_
      refine hp.bind (hp.ofExcept _) fun items => ?_
      split
      · split
        · exact ih.renderAll _
        · exact hp.pure _
      · refine hp.bind (hp.untilLeft fun turn _ => ?_) fun _ => hp.pure _
        exact hp.enclosed _ (ih.renderAll _)
  | filtered start call body stop =>
      rw [Page.renderNode]
      refine hp.bind (ih.renderAll _) fun ⟨text, _⟩ => ?_
      show p (if call.name = "safe" then _ else _)
      split
      · exact hp.pure _
      · exact hp.bind (ih.callFilter _ _) fun _ => hp.pure _
  | insertion margin names optional =>
      rw [Page.renderNode]
      split
      · exact hp.enclosed _ (ih.renderAll _)
      · split
        · exact hp.pure _
        · exact hp.fail _
  | block start name body stop => exact ih.renderAll _
  | parentBlock => exact hp.fail _
  | definition start name parameters body stop =>
      rw [Page.renderNode]
      split
      · exact hp.pure _
      · exact hp.fail _
  | leave margin => exact hp.pure _
  | skip margin => exact hp.pure _

/-! ## Documents -/

omit ih in
protected theorem IsCompositional.throughout (fuel : Nat) : Throughout p page fuel := by
  induction fuel with
  | zero =>
      constructor
      all_goals
        intros
        exact hp.exhausted
  | succ fuel ih =>
      exact {
        evaluate := hp.evaluate ih
        filterAll := hp.filterAll ih
        callFilter := hp.callFilter ih
        evaluateArguments := hp.evaluateArguments ih
        callFunction := hp.callFunction ih
        evaluateTerm := hp.evaluateTerm ih
        joinedPart := hp.joinedPart ih
        number := hp.number ih
        calculate := hp.calculate ih
        compare := hp.compare ih
        includes := hp.includes ih
        passes := hp.passes ih
        holds := hp.holds ih
        expand := hp.expand ih
        renderAll := hp.renderAll ih
        renderChoice := hp.renderChoice ih
        renderNode := hp.renderNode ih }

omit ih in
/-- Rendering a document has every compositional property. -/
protected theorem IsCompositional.render : p page.render := by
  refine hp.bind (hp.untilBroken fun node _ => ?_) fun _ => hp.pure _
  exact hp.rethrow ((hp.throughout depthLimit).renderNode node) fun _ => rfl

end Rendering

end ReleasePress.Template
