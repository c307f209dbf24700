import Dossier.Proofs.Template.Assigned
import Dossier.Proofs.Template.Defined

/-!
# Paths that stop a template

A path that stops a rendering is one of the free variables of the template, as long as its variable
is not assigned.

* `Expr.Stops.mem_free`, `StopsParts.mem_free` : a path that stops something is free in it;
* `Expr.Stops.undefined`, `StopsParts.undefined` : what stops something has no value.
-/

namespace Dossier.Template

/-! ## Paths -/

namespace Expr

variable {s s' : Scope} {e x : Expr} {bound : List String} {first path : String}

/-- The value of a path depends on that of its variable only. -/
theorem value_dotted (hfind : s.find first = s'.find first) (members : List String) :
    (Expr.dotted first members).value s = (Expr.dotted first members).value s' := by
  have hvar : (Expr.var first).value s = (Expr.var first).value s' := by rw [value, value, hfind]
  unfold dotted
  generalize Expr.var first = e at hvar ⊢
  induction members generalizing e with
  | nil => exact hvar
  | cons name members ih => exact ih _ (by rw [value, value, hvar])

/-- A path is one free variable. -/
theorem free_of_path (h : e.path? = some (first, path)) :
    e.free bound = unlessBound bound first path := by
  cases e with
  | var name =>
    cases h
    rfl
  | member e name => rw [free, h]
  | _ => cases h

theorem mem_unlessBound (h : first ∉ bound) : path ∈ unlessBound bound first path := by
  simp [unlessBound, h]

/-! ## Free variables of expressions -/

theorem mem_freeArguments {args : List Argument} {d : Expr} (hd : d ∈ args.map Prod.snd)
    {q : String} (hq : q ∈ d.free bound) : q ∈ freeArguments bound args := by
  induction args with
  | nil => cases hd
  | cons arg args ih =>
    obtain ⟨name, e⟩ := arg
    rw [freeArguments]
    rcases List.mem_cons.mp hd with rfl | hd
    · exact List.mem_append_left _ hq
    · exact List.mem_append_right _ (ih hd)

theorem mem_freeItems {items : List Expr} {d : Expr} (hd : d ∈ items) {q : String}
    (hq : q ∈ d.free bound) : q ∈ freeItems bound items := by
  induction items with
  | nil => cases hd
  | cons e items ih =>
    rw [freeItems]
    rcases List.mem_cons.mp hd with rfl | hd
    · exact List.mem_append_left _ hq
    · exact List.mem_append_right _ (ih hd)

theorem mem_freeEntries {entries : List (Expr × Expr)} {d : Expr}
    (hd : d ∈ entries.flatMap fun (key, e) => [key, e]) {q : String} (hq : q ∈ d.free bound) :
    q ∈ freeEntries bound entries := by
  induction entries with
  | nil => cases hd
  | cons entry entries ih =>
    obtain ⟨key, e⟩ := entry
    rw [freeEntries]
    rcases List.mem_append.mp hd with hd | hd
    · refine List.mem_append_left _ ?_
      rcases List.mem_pair.mp hd with rfl | rfl
      · exact List.mem_append_left _ hq
      · exact List.mem_append_right _ hq
    · exact List.mem_append_right _ (ih hd)

/-- The free variables of operands are those of the expression, unless they are parts of a longer
path. -/
theorem mem_free_of_operand {d : Expr} (hpath : ¬ e.IsPath) (hmethod : ¬ e.CallsMethodOf d)
    (hd : d ∈ e.operands) {q : String} (hq : q ∈ d.free bound) : q ∈ e.free bound := by
  unfold operands at hd
  split at hd
  case h_1 | h_2 => cases hd
  case h_8 e name =>
    obtain rfl := List.mem_singleton.mp hd
    have hnone : (Expr.member d name).path? = none := Option.not_isSome_iff_eq_none.mp hpath
    rw [free, hnone]
    exact hq
  case h_12 e name args =>
    rcases List.mem_cons.mp hd with rfl | hd
    · -- The subject is no path, so that with the name of the method is none either.
      have hsubject : d.path? = none :=
        Option.not_isSome_iff_eq_none.mp fun h => hmethod ⟨h, name, args, rfl⟩
      have hnone : (Expr.member d name).path? = none := by rw [path?, hsubject, Option.map_none]
      refine List.mem_append_left _ ?_
      rw [free, hnone]
      exact hq
    · exact List.mem_append_right _ (mem_freeArguments hd hq)
  case h_14 => exact mem_freeItems hd hq
  case h_15 => exact mem_freeEntries hd hq
  case h_11 => exact List.mem_append_right _ (mem_freeArguments hd hq)
  case h_6 | h_7 | h_13 =>
    rcases List.mem_cons.mp hd with rfl | hd
    · exact List.mem_append_left _ hq
    · exact List.mem_append_right _ (mem_freeArguments hd hq)
  all_goals
    simp only [List.mem_cons, List.not_mem_nil, or_false] at hd
    simp only [free, List.mem_append]
    grind

/-- What has to exist is an operand. -/
theorem mem_operands_of_asked (hx : x ∈ e.asked) : x ∈ e.operands := by
  unfold asked at hx
  split at hx
  case h_2 op a b => cases op <;> simp_all [BinaryOp.asked, operands]
  case h_9 f args => cases f <;> simp_all [operands]
  case h_4 | h_5 =>
    rcases List.mem_append.mp hx with hx | hx
    · split at hx <;> simp_all [operands]
    · exact List.mem_cons_of_mem _ hx
  all_goals simp_all [operands]

theorem mem_free_of_asked (hpath : ¬ e.IsPath) (hx : x ∈ e.asked) {q : String}
    (hq : q ∈ x.free bound) : q ∈ e.free bound := by
  cases e with
  | call f args => exact List.mem_append_right _ (mem_freeArguments hx hq)
  | _ =>
    refine mem_free_of_operand hpath ?_ (mem_operands_of_asked hx) hq
    rintro ⟨-, name, args, ⟨⟩⟩

theorem not_isPath_of_passed? {d : Expr} (h : e.passed? s = some d) :
    ¬ e.IsPath ∧ ∀ callee, ¬ e.CallsMethodOf callee := by
  unfold passed? at h
  split at h
  case h_4 => cases h
  all_goals exact ⟨by simp [IsPath, path?], by rintro callee ⟨-, name, args, ⟨⟩⟩⟩

/-- The free variables of the expression from which a value comes. -/
theorem Origin.mem_free (h : Origin s e x) {q : String} (hq : q ∈ x.free bound) :
    q ∈ e.free bound := by
  induction h with
  | self _ => exact hq
  | passed hpassed _ ih =>
    obtain ⟨hpath, hmethod⟩ := not_isPath_of_passed? hpassed
    exact mem_free_of_operand hpath (hmethod _) (mem_operands_of_passed? hpassed) (ih hq)

/-- A path that stops an evaluation is a free variable. -/
theorem Stops.mem_free (h : e.Stops s x) (hx : x.path? = some (first, path))
    (hfirst : first ∉ bound) : path ∈ e.free bound := by
  have hfree : path ∈ x.free bound := by
    rw [free_of_path hx]
    exact mem_unlessBound hfirst
  induction h with
  | path _ _ => exact hfree
  | method _ _ => exact List.mem_append_left _ hfree
  | refused hpath _ _ hasked _ horigin =>
    exact mem_free_of_asked hpath hasked (horigin.mem_free hfree)
  | operand hpath hmethod hreaches _ ih =>
    exact mem_free_of_operand hpath hmethod (mem_operands (mem_of_reaches hreaches)) (ih hx hfree)

theorem value_chosen {condition yes no : Expr} {v : Value} {f g : Value → Except FieldError Value}
    (hyes : ∀ w, condition.value s = .ok w → f w = yes.value s)
    (hno : ∀ w, condition.value s = .ok w → g w = no.value s)
    (h : (do
      let w ← condition.value s
      if ← w.truth then f w else g w) = .ok v) : (chosen s condition yes no).value s = .ok v := by
  unfold chosen
  cases hcondition : condition.value s with
  | error fault => simp [hcondition, error_bind] at h
  | ok w =>
    rw [hcondition, ok_bind] at h
    rw [ok_bind]
    cases hw : w.truth with
    | error fault => simp [hw, error_bind] at h
    | ok holds =>
      rw [hw, ok_bind] at h
      cases holds with
      | true => exact (hyes w hcondition) ▸ h
      | false => exact (hno w hcondition) ▸ h

/-- The value that is passed on. -/
theorem value_of_passed? {d : Expr} {v : Value} (h : e.passed? s = some d)
    (hv : e.value s = .ok v) : d.value s = .ok v := by
  unfold passed? at h
  split at h
  case h_4 => cases h
  all_goals
    cases h
    rw [value] at hv
    refine value_chosen (fun w hw => ?_) (fun w hw => ?_) hv
    all_goals first | rfl | exact hw.symm

theorem Origin.value_eq (h : Origin s e x) {v : Value} (hv : e.value s = .ok v) :
    x.value s = .ok v := by
  induction h with
  | self _ => exact hv
  | passed hpassed _ ih => exact ih (value_of_passed? hpassed hv)

/-- What stops an evaluation has no value, or one that stands for nothing. -/
theorem Stops.undefined (h : e.Stops s x) : Misses (x.value s) ∨ IsUndefined s x := by
  induction h with
  | path _ hmisses => exact .inl hmisses
  | method _ hmisses =>
    rw [value, misses_bind]
    exact .inl (.inl hmisses)
  | refused _ _ _ _ hundefined horigin =>
    obtain ⟨v, hv, hundefined⟩ := hundefined
    exact .inr ⟨v, horigin.value_eq hv, hundefined⟩
  | operand _ _ _ _ ih => exact ih

theorem StopsUse.undefined (h : e.StopsUse s x) : Misses (x.value s) ∨ IsUndefined s x := by
  rcases h with h | ⟨hv, horigin⟩
  · exact h.undefined
  · exact .inr ⟨.undefined, horigin.value_eq hv, rfl⟩

theorem StopsUse.mem_free (h : e.StopsUse s x) (hx : x.path? = some (first, path))
    (hfirst : first ∉ bound) : path ∈ e.free bound := by
  rcases h with h | ⟨-, horigin⟩
  · exact h.mem_free hx hfirst
  · refine horigin.mem_free ?_
    rw [free_of_path hx]
    exact mem_unlessBound hfirst

/-- The use of a path stops at the path. -/
theorem StopsUse.eq_of_isPath (hpath : e.IsPath) (h : e.StopsUse s x) : x = e := by
  rcases h with h | ⟨-, horigin⟩
  · cases h with
    | path _ _ => rfl
    | method _ _ => cases hpath
    | refused hnot _ _ _ _ _ => exact absurd hpath hnot
    | operand hnot _ _ _ => exact absurd hpath hnot
  · cases horigin with
    | self _ => rfl
    | passed hpassed _ => exact absurd hpath (not_isPath_of_passed? hpassed).1

end Expr

/-! ## Free variables of parts -/

section Parts

variable {s inner : Scope} {x : Expr} {bound : List String} {first path : String} {parts : List Node}

theorem freeNodes_cons (n : Node) (rest : List Node) :
    freeNodes bound (n :: rest) = (n.free bound).1 ++ freeNodes (n.free bound).2 rest := rfl

theorem freeNodes_loop {target : Target} {source : Expr} {condition : Option Expr}
    {body other rest : List Node} :
    freeNodes bound (.loop target source condition body other :: rest) =
      source.free ("loop" :: bound) ++ target.free ("loop" :: bound) ++
        (condition.map (Expr.free (target.names ++ "loop" :: bound))).getD [] ++
        freeNodes (target.names ++ "loop" :: bound) body ++ freeNodes bound other ++
        freeNodes bound rest := rfl

/-- What is bound in a loop. -/
theorem not_bound_loop {target : Target} (htarget : first ∉ "loop" :: target.names)
    (hbound : first ∉ bound) :
    first ∉ "loop" :: bound ∧ first ∉ target.names ++ "loop" :: bound := by
  obtain ⟨hloop, hnames⟩ := List.ne_and_not_mem_of_not_mem_cons htarget
  have hcons := List.not_mem_cons_of_ne_of_not_mem hloop hbound
  exact ⟨hcons, List.not_mem_append hnames hcons⟩

/-- After assignments only their names are bound as well. -/
theorem not_bound_freeAssignments (assignments : List (Target × Expr))
    (hnames : first ∉ assignments.flatMap fun a => a.1.names) (hbound : first ∉ bound) :
    first ∉ (freeAssignments bound assignments).2 := by
  induction assignments generalizing bound with
  | nil => exact hbound
  | cons assignment rest ih =>
    obtain ⟨target, e⟩ := assignment
    obtain ⟨htarget, hrest⟩ := not_or.mp (List.mem_append.not.mp hnames)
    exact ih hrest (List.not_mem_append htarget hbound)

/-- After a part only the names that it assigns are bound as well. -/
theorem not_bound_free (n : Node) (hassigns : first ∉ n.assigns) (hbound : first ∉ bound) :
    first ∉ (n.free bound).2 := by
  cases n with
  | text t | output e | branch test chosen other | loop target source condition body other
  | scope assignments body => exact hbound
  | assign target e => exact List.not_mem_append hassigns hbound
  | capture target body =>
    exact List.not_mem_append (fun h => hassigns (List.mem_append_left _ h)) hbound
  | load source mayMiss targets => exact List.not_mem_append hassigns hbound

/-- A path that is free in the value of an assignment is free in the assignments. -/
theorem mem_freeAssignments {before after : List (Target × Expr)} {target : Target} {e : Expr}
    (hnames : first ∉ (before ++ (target, e) :: after).flatMap fun a => a.1.names)
    (hbound : first ∉ bound) (hfree : ∀ bound, first ∉ bound → path ∈ e.free bound) :
    path ∈ (freeAssignments bound (before ++ (target, e) :: after)).1 := by
  induction before generalizing bound with
  | nil =>
    obtain ⟨htarget, -⟩ := not_or.mp (List.mem_append.not.mp hnames)
    exact List.mem_append_left _ (List.mem_append_right _
      (hfree _ (List.not_mem_append htarget hbound)))
  | cons assignment before ih =>
    obtain ⟨t, d⟩ := assignment
    obtain ⟨htarget, hrest⟩ := not_or.mp (List.mem_append.not.mp hnames)
    exact List.mem_append_right _ (ih hrest (List.not_mem_append htarget hbound))

/-- A path that stops a rendering, and whose variable is not assigned, is a free variable. -/
theorem StopsParts.mem_free (h : StopsParts s parts inner x) (hx : x.path? = some (first, path))
    (hassigns : first ∉ assignsAll parts) (hbound : first ∉ bound) :
    path ∈ freeNodes bound parts := by
  induction h generalizing bound with
  | @later s n rest text next inner x hfirst h ih =>
    obtain ⟨hn, hrest⟩ := not_or.mp (List.mem_append.not.mp hassigns)
    rw [freeNodes_cons]
    exact List.mem_append_right _ (ih hx hrest (not_bound_free n hn hbound))
  | output h => exact List.mem_append_left _ (h.mem_free hx hbound)
  | test h =>
    exact List.mem_append_left _ (List.mem_append_left _ (List.mem_append_left _
      (h.mem_free hx hbound)))
  | @branch s inner test x chosen other rest holds htest h ih =>
    obtain ⟨hbranch, -⟩ := not_or.mp (List.mem_append.not.mp hassigns)
    obtain ⟨hchosen, hother⟩ := not_or.mp (List.mem_append.not.mp hbranch)
    refine List.mem_append_left _ ?_
    cases holds with
    | true => exact List.mem_append_left _ (List.mem_append_right _ (ih hx hchosen hbound))
    | false => exact List.mem_append_right _ (ih hx hother hbound)
  | source h =>
    obtain ⟨htarget, -, -⟩ := not_assigned_loop hassigns
    have hfree := h.mem_free hx (not_bound_loop htarget hbound).1
    rw [freeNodes_loop]
    simp only [List.mem_append, hfree, true_or]
  | condition hsource hitems hbefore hbindings h =>
    obtain ⟨htarget, -, -⟩ := not_assigned_loop hassigns
    have hfree := h.mem_free hx (not_bound_loop htarget hbound).2
    rw [freeNodes_loop]
    simp only [List.mem_append, Option.map_some, Option.getD_some, hfree, true_or, or_true]
  | body hsource hitems hcomes h ih =>
    obtain ⟨htarget, hbody, -⟩ := not_assigned_loop hassigns
    have hfree := ih hx hbody (not_bound_loop htarget hbound).2
    rw [freeNodes_loop]
    simp only [List.mem_append, hfree, true_or, or_true]
  | empty hsource hitems h ih =>
    obtain ⟨-, -, hother⟩ := not_assigned_loop hassigns
    have hfree := ih hx hother hbound
    rw [freeNodes_loop]
    simp only [List.mem_append, hfree, true_or, or_true]
  | assign h =>
    obtain ⟨htarget, -⟩ := not_or.mp (List.mem_append.not.mp hassigns)
    exact List.mem_append_left _ (List.mem_append_right _
      (h.mem_free hx (List.not_mem_append htarget hbound)))
  | capture h ih =>
    obtain ⟨hcapture, -⟩ := not_or.mp (List.mem_append.not.mp hassigns)
    obtain ⟨htarget, hbody⟩ := not_or.mp (List.mem_append.not.mp hcapture)
    exact List.mem_append_left _ (List.mem_append_right _
      (ih hx hbody (List.not_mem_append htarget hbound)))
  | assignment hbefore h =>
    obtain ⟨hscope, -⟩ := not_or.mp (List.mem_append.not.mp hassigns)
    obtain ⟨hnames, -⟩ := not_or.mp (List.mem_append.not.mp hscope)
    exact List.mem_append_left _ (List.mem_append_left _ (mem_freeAssignments hnames hbound
      fun bound hbound => h.mem_free hx hbound))
  | scope hassignments h ih =>
    obtain ⟨hscope, -⟩ := not_or.mp (List.mem_append.not.mp hassigns)
    obtain ⟨hnames, hbody⟩ := not_or.mp (List.mem_append.not.mp hscope)
    exact List.mem_append_left _ (List.mem_append_right _
      (ih hx hbody (not_bound_freeAssignments _ hnames hbound)))
  | load h => exact List.mem_append_left _ (h.mem_free hx hbound)

/-- What stops a rendering has no value, or one that stands for nothing. -/
theorem StopsParts.undefined (h : StopsParts s parts inner x) :
    Misses (x.value inner) ∨ x.IsUndefined inner := by
  induction h with
  | later _ _ ih | branch _ _ ih | body _ _ _ _ ih | empty _ _ _ ih | capture _ ih
  | scope _ _ ih => exact ih
  | output h | test h | source h | condition _ _ _ _ h => exact h.undefined
  | assign h | assignment _ h | load h => exact h.undefined

end Parts

end Dossier.Template
