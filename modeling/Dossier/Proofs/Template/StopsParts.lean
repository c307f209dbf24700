import Dossier.Proofs.Template.Stops

/-!
# What stops a rendering

The parts of a template are rendered in turn, each in the scope that those before it leave. So what
stops a rendering is an expression together with the scope in which it is evaluated.

* `Expr.StopsUse` : what stops the evaluation of a value that is printed, decides or is gone through;
* `Comes` : the frames in which the body of a loop is rendered;
* `StopsParts` : the expression that stops the rendering of parts, and its scope;
* `misses_iff_stopsParts` : a rendering fails for a missing value just if something stops it.
-/

namespace Dossier.Template

/-! ## Values that are used -/

/-- The use of a value stops at an expression: its evaluation does, or it gives nothing. -/
def Expr.StopsUse (s : Scope) (e x : Expr) : Prop :=
  e.Stops s x ∨ e.value s = .ok .undefined ∧ Origin s e x

theorem Expr.exists_stopsUse {s : Scope} {e : Expr} :
    (∃ x, e.StopsUse s x) ↔ Misses (e.value s) ∨ e.value s = .ok .undefined := by
  rw [misses_iff_stops]
  constructor
  · rintro ⟨x, h | ⟨h, -⟩⟩
    · exact .inl ⟨x, h⟩
    · exact .inr h
  · rintro (⟨x, h⟩ | h)
    · exact ⟨x, .inl h⟩
    · obtain ⟨x, hx⟩ := exists_origin s e
      exact ⟨x, .inr ⟨h, hx⟩⟩

/-- A condition fails for a missing value just if its use stops. -/
theorem misses_condition {s : Scope} {e : Expr} :
    Misses (e.value s >>= Value.truth) ↔ ∃ x, e.StopsUse s x := by
  rw [Expr.exists_stopsUse, misses_bind]
  simp

/-! ## Assignments -/

mutual

theorem Target.not_misses_assigned (v : Value) (t : Target) : ¬ Misses (t.assigned v) := by
  match t with
  | .name s => simp [Target.assigned]
  | .tuple targets =>
    rw [Target.assigned]
    cases v.items? with
    | none => simp
    | some items => exact not_misses_assignedAll items targets
  | .member e name => simp [Target.assigned]

theorem not_misses_assignedAll (items : List Value) (targets : List Target) :
    ¬ Misses (assignedAll items targets) := by
  match targets, items with
  | [], items =>
    rw [assignedAll]
    split <;> simp
  | t :: rest, [] => simp [assignedAll]
  | t :: rest, v :: items =>
    have hfirst := t.not_misses_assigned v
    have hrest := not_misses_assignedAll items rest
    simp [assignedAll, hfirst, hrest]

end

theorem not_misses_loopVariables (target : Target) (length : Option Nat) (turn : Turn) :
    ¬ Misses (loopVariables target length turn) := by
  simp [loopVariables, target.not_misses_assigned turn.item]

/-- Assignments fail for a missing value just if the value of one of them does. -/
theorem misses_assignAll {s : Scope} (assignments : List (Target × Expr)) :
    Misses (assignAll s assignments) ↔
      ∃ before target e after next, assignments = before ++ (target, e) :: after ∧
        assignAll s before = .ok next ∧ Misses (e.value next) := by
  induction assignments generalizing s with
  | nil => simp [assignAll]
  | cons assignment rest ih =>
    obtain ⟨target, e⟩ := assignment
    simp only [assignAll, misses_bind, target.not_misses_assigned, false_or, ih]
    constructor
    · rintro (h | ⟨v, hv, bindings, hbindings, before, t, d, after, next, rfl, hbefore, h⟩)
      · exact ⟨[], target, e, rest, s, rfl, rfl, h⟩
      · refine ⟨(target, e) :: before, t, d, after, next, rfl, ?_, h⟩
        rw [assignAll, hv, ok_bind, hbindings, ok_bind, hbefore]
    · rintro ⟨_ | ⟨_, before⟩, t, d, after, next, heq, hbefore, h⟩
      · cases heq
        cases hbefore
        exact .inl h
      · cases heq
        rw [assignAll] at hbefore
        cases hv : e.value s with
        | error fault => simp [hv, error_bind] at hbefore
        | ok v =>
          cases hbindings : target.assigned v with
          | error fault => simp [hv, hbindings, ok_bind, error_bind] at hbefore
          | ok bindings =>
            rw [hv, ok_bind, hbindings, ok_bind] at hbefore
            exact .inr ⟨v, rfl, bindings, hbindings, before, t, d, after, next, rfl, hbefore, h⟩

/-! ## Loops -/

/-- A loop comes to an item, for which its body is rendered in a frame. -/
inductive Comes (render : List (String × Value) → Except FieldError (String × Scope))
    (bindings : Turn → Except FieldError (List (String × Value))) :
    Nat → Value → List (String × Value) → List Value → List (String × Value) → Prop where
  | here {index previous frame item rest bound}
    (hbound : bindings ⟨index, previous, item, rest⟩ = .ok bound) :
    Comes render bindings index previous frame (item :: rest) (bound ++ frame)
  | next {index previous frame item rest bound text after inner}
    (hbound : bindings ⟨index, previous, item, rest⟩ = .ok bound)
    (hrender : render (bound ++ frame) = .ok (text, after))
    (h : Comes render bindings (index + 1) item (after.headD []) rest inner) :
    Comes render bindings index previous frame (item :: rest) inner

section Loops

variable {s : Scope}

/-- A loop fails for a missing value just if its body does for an item that it comes to. -/
theorem misses_renderItems {render : List (String × Value) → Except FieldError (String × Scope)}
    {bindings : Turn → Except FieldError (List (String × Value))}
    (hbindings : ∀ turn, ¬ Misses (bindings turn)) (items : List Value) (index : Nat)
    (previous : Value) (frame : List (String × Value)) :
    Misses (renderItems render bindings index previous frame items) ↔
      ∃ inner, Comes render bindings index previous frame items inner ∧ Misses (render inner) := by
  induction items generalizing index previous frame with
  | nil =>
    refine iff_of_false (by simp [renderItems]) ?_
    rintro ⟨inner, h, -⟩
    cases h
  | cons item rest ih =>
    simp only [renderItems, misses_bind, hbindings, false_or, ih, not_misses_pure, and_false,
      exists_false, or_false]
    constructor
    · rintro ⟨bound, hbound, h | ⟨⟨text, after⟩, hrender, inner, hcomes, h⟩⟩
      · exact ⟨_, .here hbound, h⟩
      · exact ⟨inner, .next hbound hrender hcomes, h⟩
    · rintro ⟨inner, hcomes, h⟩
      cases hcomes with
      | here hbound => exact ⟨_, hbound, .inl h⟩
      | next hbound hrender hcomes => exact ⟨_, hbound, .inr ⟨_, hrender, inner, hcomes, h⟩⟩

variable {target : Target} {condition : Expr}

/-- The condition of a loop decides about an item. -/
def Decides (s : Scope) (target : Target) (condition : Expr) (item : Value) (passes : Bool) : Prop :=
  ∃ bindings, target.assigned item = .ok bindings ∧
    condition.value (bindings :: s) >>= Value.truth = .ok passes

theorem passing_cons (item : Value) (rest : List Value) :
    passing s target condition (item :: rest) =
      target.assigned item >>= fun bindings =>
        condition.value (bindings :: s) >>= Value.truth >>= fun passes =>
          (if passes then (item :: ·) else id) <$> passing s target condition rest := by
  simp only [passing, bind_assoc, map_eq_pure_bind]
  congr 1
  funext bindings
  congr 1
  funext v
  congr 1
  funext passes
  cases passes <;> rfl

/-- The condition of a loop fails for a missing value just if its use stops for an item, after it
has decided about those before. -/
theorem misses_passing (items : List Value) :
    Misses (passing s target condition items) ↔
      ∃ before item after bindings x, items = before ++ item :: after ∧
        (∀ d ∈ before, ∃ passes, Decides s target condition d passes) ∧
        target.assigned item = .ok bindings ∧ condition.StopsUse (bindings :: s) x := by
  induction items with
  | nil => simp [passing]
  | cons item rest ih =>
    have hcons : Misses (passing s target condition (item :: rest)) ↔
        ∃ bindings, target.assigned item = .ok bindings ∧
          ((∃ x, condition.StopsUse (bindings :: s) x) ∨
            (∃ passes, condition.value (bindings :: s) >>= Value.truth = .ok passes) ∧
              Misses (passing s target condition rest)) := by
      rw [passing_cons, misses_bind, or_iff_right (target.not_misses_assigned item)]
      refine exists_congr fun bindings => and_congr_right fun _ => ?_
      rw [misses_bind, misses_condition]
      simp
    rw [hcons, ih]
    constructor
    · rintro ⟨bindings, hbindings, ⟨x, hx⟩ |
        ⟨⟨passes, hpasses⟩, before, d, after, inner, x, rfl, hbefore, hinner, hx⟩⟩
      · exact ⟨[], item, rest, bindings, x, rfl, by simp, hbindings, hx⟩
      · exact ⟨item :: before, d, after, inner, x, rfl, List.forall_mem_cons.mpr
          ⟨⟨passes, bindings, hbindings, hpasses⟩, hbefore⟩, hinner, hx⟩
    · rintro ⟨_ | ⟨_, before⟩, d, after, inner, x, heq, hbefore, hinner, hx⟩
      · cases heq
        exact ⟨inner, hinner, .inl ⟨x, hx⟩⟩
      · cases heq
        obtain ⟨⟨passes, bindings, hbindings, hpasses⟩, hbefore⟩ :=
          List.forall_mem_cons.mp hbefore
        exact ⟨bindings, hbindings, .inr ⟨⟨passes, hpasses⟩, before, d, after, inner, x, rfl,
          hbefore, hinner, hx⟩⟩

/-- What can stop a loop before its body: its source, or its condition. -/
theorem misses_loopItems {source : Value} {condition : Option Expr} :
    Misses (loopItems s target source condition) ↔ source = .undefined ∨
      ∃ items test, source.items? = some items ∧ condition = some test ∧
        Misses (passing s target test items) := by
  by_cases hsource : source = .undefined
  · subst hsource
    exact iff_of_true misses_missing (.inl rfl)
  · have hitems : loopItems s target source condition =
        source.items?.elim refused pure >>= fun items =>
          condition.elim (pure (items, source.length?)) fun test =>
            (fun passed => (passed, some passed.length)) <$> passing s target test items := by
      unfold loopItems
      cases source <;> first | exact absurd rfl hsource | cases condition <;> rfl
    rw [hitems, misses_bind]
    cases source.items? with
    | none => simp [hsource, refused, misses_error]
    | some items => cases condition <;> simp [hsource, pure, Except.pure]

end Loops

/-! ## Parts -/

/-- The body of a loop in a frame. -/
abbrev renderBody (s : Scope) (body : List Node) (frame : List (String × Value)) :
    Except FieldError (String × Scope) := renderNodes (frame :: s) body

/-- The rendering of parts stops at an expression, which is evaluated in a scope. -/
inductive StopsParts : Scope → List Node → Scope → Expr → Prop where
  /-- The first part is rendered, and a later one stops. -/
  | later {s : Scope} {n : Node} {rest : List Node} {text : String} {next : Scope} {inner : Scope}
      {x : Expr} (hfirst : n.render s = .ok (text, next)) (h : StopsParts next rest inner x) :
      StopsParts s (n :: rest) inner x
  | output {s : Scope} {e x : Expr} {rest : List Node} (h : e.StopsUse s x) :
      StopsParts s (.output e :: rest) s x
  | test {s : Scope} {test x : Expr} {chosen other rest : List Node} (h : test.StopsUse s x) :
      StopsParts s (.branch test chosen other :: rest) s x
  /-- The branch that is taken. -/
  | branch {s inner : Scope} {test x : Expr} {chosen other rest : List Node} {holds : Bool}
      (htest : test.value s >>= Value.truth = .ok holds)
      (h : StopsParts s (if holds then chosen else other) inner x) :
      StopsParts s (.branch test chosen other :: rest) inner x
  | source {s : Scope} {target : Target} {source x : Expr} {condition : Option Expr}
      {body other rest : List Node} (h : source.StopsUse s x) :
      StopsParts s (.loop target source condition body other :: rest) s x
  /-- The condition of a loop, for one of the items. -/
  | condition {s : Scope} {target : Target} {source condition x : Expr} {v item : Value}
      {before after : List Value} {bindings : List (String × Value)} {body other rest : List Node}
      (hsource : source.value s = .ok v) (hitems : v.items? = some (before ++ item :: after))
      (hbefore : ∀ d ∈ before, ∃ passes, Decides s target condition d passes)
      (hbindings : target.assigned item = .ok bindings)
      (h : condition.StopsUse (bindings :: s) x) :
      StopsParts s (.loop target source (some condition) body other :: rest) (bindings :: s) x
  /-- The body of a loop, for one of the items that pass. -/
  | body {s inner : Scope} {target : Target} {source x : Expr} {condition : Option Expr} {v : Value}
      {items : List Value} {length : Option Nat} {frame : List (String × Value)}
      {body other rest : List Node} (hsource : source.value s = .ok v)
      (hitems : loopItems s target v condition = .ok (items, length))
      (hcomes : Comes (renderBody s body) (loopVariables target length) 0 .undefined [] items frame)
      (h : StopsParts (frame :: s) body inner x) :
      StopsParts s (.loop target source condition body other :: rest) inner x
  /-- What stands in place of a loop without items. -/
  | empty {s inner : Scope} {target : Target} {source x : Expr} {condition : Option Expr} {v : Value}
      {length : Option Nat} {body other rest : List Node} (hsource : source.value s = .ok v)
      (hitems : loopItems s target v condition = .ok ([], length)) (h : StopsParts s other inner x) :
      StopsParts s (.loop target source condition body other :: rest) inner x
  | assign {s : Scope} {target : Target} {e x : Expr} {rest : List Node} (h : e.Stops s x) :
      StopsParts s (.assign target e :: rest) s x
  | capture {s inner : Scope} {target : Target} {x : Expr} {body rest : List Node}
      (h : StopsParts s body inner x) : StopsParts s (.capture target body :: rest) inner x
  /-- An assignment for a body, after those before it. -/
  | assignment {s inner : Scope} {before after : List (Target × Expr)} {target : Target}
      {e x : Expr} {body rest : List Node} (hbefore : assignAll ([] :: s) before = .ok inner)
      (h : e.Stops inner x) :
      StopsParts s (.scope (before ++ (target, e) :: after) body :: rest) inner x
  | scope {s next inner : Scope} {assignments : List (Target × Expr)} {x : Expr}
      {body rest : List Node} (hassignments : assignAll ([] :: s) assignments = .ok next)
      (h : StopsParts next body inner x) : StopsParts s (.scope assignments body :: rest) inner x
  | load {s : Scope} {source x : Expr} {mayMiss : Bool} {targets : List Target} {rest : List Node}
      (h : source.Stops s x) : StopsParts s (.load source mayMiss targets :: rest) s x

section Rendering

variable {s : Scope} {rest : List Node}

theorem misses_cons {n : Node} :
    Misses (renderNodes s (n :: rest)) ↔ Misses (n.render s) ∨
      ∃ text next, n.render s = .ok (text, next) ∧ Misses (renderNodes next rest) := by
  refine misses_bind.trans (or_congr_right ?_)
  simp

theorem misses_output {e : Expr} : Misses ((Node.output e).render s) ↔ ∃ x, e.StopsUse s x := by
  rw [Expr.exists_stopsUse]
  refine misses_bind.trans (or_congr_right ⟨?_, fun h => ⟨_, h, misses_missing⟩⟩)
  rintro ⟨v, hv, h⟩
  cases v with
  | undefined => exact hv
  | _ => exact absurd h (not_misses_pure _)

theorem misses_branch {test : Expr} {chosen other : List Node} :
    Misses ((Node.branch test chosen other).render s) ↔ (∃ x, test.StopsUse s x) ∨
      ∃ holds, test.value s >>= Value.truth = .ok holds ∧
        Misses (renderNodes s (if holds then chosen else other)) := by
  have hrender : (Node.branch test chosen other).render s =
      test.value s >>= Value.truth >>= fun holds =>
        renderNodes s (if holds then chosen else other) := by
    rw [bind_assoc]
    refine bind_congr fun v => bind_congr fun holds => ?_
    cases holds <;> rfl
  rw [hrender, misses_bind, misses_condition]

theorem misses_loop {target : Target} {source : Expr} {condition : Option Expr}
    {body other : List Node} :
    Misses ((Node.loop target source condition body other).render s) ↔ Misses (source.value s) ∨
      ∃ v, source.value s = .ok v ∧ (Misses (loopItems s target v condition) ∨
        ∃ items length, loopItems s target v condition = .ok (items, length) ∧
          (items = [] ∧ Misses (renderNodes s other) ∨
            ∃ frame, Comes (renderBody s body) (loopVariables target length) 0 .undefined [] items
              frame ∧ Misses (renderNodes (frame :: s) body))) := by
  refine misses_bind.trans (or_congr_right (exists_congr fun v => and_congr_right fun _ => ?_))
  refine misses_bind.trans (or_congr_right ?_)
  rw [Prod.exists]
  refine exists_congr fun items => exists_congr fun length => and_congr_right fun _ => ?_
  cases items with
  | nil =>
    have hnone : ∀ frame, ¬ Comes (renderBody s body) (loopVariables target length) 0 .undefined []
        [] frame := by
      rintro frame ⟨⟩
    simp [hnone]
  | cons item items =>
    simp only [List.isEmpty_cons, Bool.false_eq_true, if_false, misses_bind, not_misses_pure,
      and_false, exists_false, or_false, reduceCtorEq, false_and, false_or]
    exact misses_renderItems (not_misses_loopVariables target length) _ 0 .undefined []

theorem misses_assign {target : Target} {e : Expr} :
    Misses ((Node.assign target e).render s) ↔ Misses (e.value s) := by
  refine misses_bind.trans (or_iff_left ?_)
  simp [target.not_misses_assigned]

theorem misses_capture {target : Target} {body : List Node} :
    Misses ((Node.capture target body).render s) ↔ Misses (renderNodes s body) := by
  refine misses_bind.trans (or_iff_left ?_)
  simp [target.not_misses_assigned]

theorem misses_scope {assignments : List (Target × Expr)} {body : List Node} :
    Misses ((Node.scope assignments body).render s) ↔ Misses (assignAll ([] :: s) assignments) ∨
      ∃ next, assignAll ([] :: s) assignments = .ok next ∧ Misses (renderNodes next body) := by
  refine misses_bind.trans (or_congr_right ?_)
  simp

theorem misses_load {source : Expr} {mayMiss : Bool} {targets : List Target} :
    Misses ((Node.load source mayMiss targets).render s) ↔ Misses (source.value s) := by
  refine misses_bind.trans (or_iff_left ?_)
  have hallowed : ∀ allowed : Bool,
      ¬ Misses (if allowed then pure ("", s) else refused : Except FieldError (String × Scope)) := by
    intro allowed
    cases allowed <;> simp
  rintro ⟨v, -, h⟩
  exact hallowed _ h

/-- What is said to stop a rendering does stop it. -/
theorem StopsParts.misses {parts : List Node} {inner : Scope} {x : Expr}
    (h : StopsParts s parts inner x) : Misses (renderNodes s parts) := by
  induction h with
  | later hfirst _ ih => exact misses_cons.mpr (.inr ⟨_, _, hfirst, ih⟩)
  | output h => exact misses_cons.mpr (.inl (misses_output.mpr ⟨_, h⟩))
  | test h => exact misses_cons.mpr (.inl (misses_branch.mpr (.inl ⟨_, h⟩)))
  | branch htest _ ih => exact misses_cons.mpr (.inl (misses_branch.mpr (.inr ⟨_, htest, ih⟩)))
  | source h =>
    refine misses_cons.mpr (.inl (misses_loop.mpr ?_))
    rcases Expr.exists_stopsUse.mp ⟨_, h⟩ with hmisses | hnothing
    · exact .inl hmisses
    · exact .inr ⟨_, hnothing, .inl (misses_loopItems.mpr (.inl rfl))⟩
  | condition hsource hitems hbefore hbindings h =>
    refine misses_cons.mpr (.inl (misses_loop.mpr (.inr ⟨_, hsource, .inl ?_⟩)))
    exact misses_loopItems.mpr (.inr ⟨_, _, hitems, rfl, (misses_passing _).mpr
      ⟨_, _, _, _, _, rfl, hbefore, hbindings, h⟩⟩)
  | body hsource hitems hcomes _ ih =>
    exact misses_cons.mpr (.inl (misses_loop.mpr (.inr ⟨_, hsource, .inr ⟨_, _, hitems,
      .inr ⟨_, hcomes, ih⟩⟩⟩)))
  | empty hsource hitems _ ih =>
    exact misses_cons.mpr (.inl (misses_loop.mpr (.inr ⟨_, hsource, .inr ⟨_, _, hitems,
      .inl ⟨rfl, ih⟩⟩⟩)))
  | assign h => exact misses_cons.mpr (.inl (misses_assign.mpr h.misses))
  | capture _ ih => exact misses_cons.mpr (.inl (misses_capture.mpr ih))
  | assignment hbefore h =>
    exact misses_cons.mpr (.inl (misses_scope.mpr (.inl ((misses_assignAll _).mpr
      ⟨_, _, _, _, _, rfl, hbefore, h.misses⟩))))
  | scope hassignments _ ih =>
    exact misses_cons.mpr (.inl (misses_scope.mpr (.inr ⟨_, hassignments, ih⟩)))
  | load h => exact misses_cons.mpr (.inl (misses_load.mpr h.misses))

mutual

theorem exists_stopsParts_cons (n : Node) {s : Scope} (h : Misses (n.render s)) (rest : List Node) :
    ∃ inner x, StopsParts s (n :: rest) inner x := by
  match n with
  | .text t => exact absurd h (not_misses_ok _)
  | .output e =>
    obtain ⟨x, hx⟩ := misses_output.mp h
    exact ⟨s, x, .output hx⟩
  | .branch test chosen other =>
    rcases misses_branch.mp h with ⟨x, hx⟩ | ⟨holds, htest, h⟩
    · exact ⟨s, x, .test hx⟩
    · cases holds with
      | true =>
        obtain ⟨inner, x, hx⟩ := exists_stopsParts chosen h
        exact ⟨inner, x, .branch htest hx⟩
      | false =>
        obtain ⟨inner, x, hx⟩ := exists_stopsParts other h
        exact ⟨inner, x, .branch htest hx⟩
  | .loop target source condition body other =>
    rcases misses_loop.mp h with h | ⟨v, hv, h | ⟨items, length, hitems, ⟨rfl, h⟩ |
      ⟨frame, hcomes, h⟩⟩⟩
    · obtain ⟨x, hx⟩ := Expr.exists_stopsUse.mpr (.inl h)
      exact ⟨s, x, .source hx⟩
    · rcases misses_loopItems.mp h with rfl | ⟨items, test, hitems, rfl, hpassing⟩
      · obtain ⟨x, hx⟩ := Expr.exists_stopsUse.mpr (.inr hv)
        exact ⟨s, x, .source hx⟩
      · obtain ⟨before, item, after, bindings, x, rfl, hbefore, hbindings, hx⟩ :=
          (misses_passing items).mp hpassing
        exact ⟨_, x, .condition hv hitems hbefore hbindings hx⟩
    · obtain ⟨inner, x, hx⟩ := exists_stopsParts other h
      exact ⟨inner, x, .empty hv hitems hx⟩
    · obtain ⟨inner, x, hx⟩ := exists_stopsParts body h
      exact ⟨inner, x, .body hv hitems hcomes hx⟩
  | .assign target e =>
    obtain ⟨x, hx⟩ := Expr.exists_stops (misses_assign.mp h)
    exact ⟨s, x, .assign hx⟩
  | .capture target body =>
    obtain ⟨inner, x, hx⟩ := exists_stopsParts body (misses_capture.mp h)
    exact ⟨inner, x, .capture hx⟩
  | .scope assignments body =>
    rcases misses_scope.mp h with h | ⟨next, hassignments, h⟩
    · obtain ⟨before, target, e, after, inner, rfl, hbefore, h⟩ := (misses_assignAll _).mp h
      obtain ⟨x, hx⟩ := Expr.exists_stops h
      exact ⟨inner, x, .assignment hbefore hx⟩
    · obtain ⟨inner, x, hx⟩ := exists_stopsParts body h
      exact ⟨inner, x, .scope hassignments hx⟩
  | .load source mayMiss targets =>
    obtain ⟨x, hx⟩ := Expr.exists_stops (misses_load.mp h)
    exact ⟨s, x, .load hx⟩

theorem exists_stopsParts (parts : List Node) {s : Scope} (h : Misses (renderNodes s parts)) :
    ∃ inner x, StopsParts s parts inner x := by
  match parts with
  | [] => exact absurd h (not_misses_ok _)
  | n :: rest =>
    rcases misses_cons.mp h with h | ⟨text, next, hfirst, h⟩
    · exact exists_stopsParts_cons n h rest
    · obtain ⟨inner, x, hx⟩ := exists_stopsParts rest h
      exact ⟨inner, x, .later hfirst hx⟩

end

/-- A rendering fails for a missing value just if something stops it. -/
theorem misses_iff_stopsParts {parts : List Node} :
    Misses (renderNodes s parts) ↔ ∃ inner x, StopsParts s parts inner x :=
  ⟨exists_stopsParts parts, fun ⟨_, _, h⟩ => h.misses⟩

end Rendering

end Dossier.Template
