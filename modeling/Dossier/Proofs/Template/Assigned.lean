import Dossier.Proofs.Template.StopsParts
import Dossier.Proofs.Wire.Record

/-!
# Names that templates assign

A rendering only changes the variables that its parts assign. A variable that they do not assign has
the same value in all scopes.

* `assignsAll` : the names that parts assign;
* `Scope.SameAt` : a scope that is the same at a name;
* `sameAt_render`, `sameAt_renderNodes` : rendering keeps a name that is not assigned;
* `StopsParts.find_eq` : so does everything before a rendering stops.
-/

namespace Dossier.Template

mutual

/-- The names that a part assigns. -/
def Node.assigns : Node → List String
  | .text _ => []
  | .output _ => []
  | .branch _ chosen other => assignsAll chosen ++ assignsAll other
  | .loop target _ _ body other => "loop" :: target.names ++ assignsAll body ++ assignsAll other
  | .assign target _ => target.names
  | .capture target body => target.names ++ assignsAll body
  | .scope assignments body => assignments.flatMap (fun a => a.1.names) ++ assignsAll body
  | .load _ _ targets => namesOfAll targets

def assignsAll : List Node → List String
  | [] => []
  | n :: rest => n.assigns ++ assignsAll rest

end

section Scopes

variable {s next : Scope} {name : String}

mutual

theorem Target.lookup_assigned (t : Target) {v : Value} {bindings : List (String × Value)}
    (h : t.assigned v = .ok bindings) (hname : name ∉ t.names) : bindings.lookup name = none := by
  match t with
  | .name s =>
    cases h
    rw [lookup_cons_of_ne (by simpa [Target.names] using hname), List.lookup_nil]
  | .tuple targets =>
    rw [Target.assigned] at h
    cases hitems : v.items? with
    | none => simp [hitems, refused] at h
    | some items =>
      rw [hitems] at h
      exact lookup_assignedAll items targets h hname
  | .member e m => cases h

theorem lookup_assignedAll (items : List Value) (targets : List Target)
    {bindings : List (String × Value)} (h : assignedAll items targets = .ok bindings)
    (hname : name ∉ namesOfAll targets) : bindings.lookup name = none := by
  match targets, items with
  | [], items =>
    rw [assignedAll] at h
    split at h
    · cases h
      rfl
    · cases h
  | t :: rest, [] => cases h
  | t :: rest, v :: items =>
    obtain ⟨hfirst, hrest⟩ := not_or.mp (List.mem_append.not.mp hname)
    obtain ⟨first, hassigned, h⟩ := Decoded.bind_eq_ok.mp h
    obtain ⟨others, hothers, h⟩ := Decoded.bind_eq_ok.mp h
    cases h
    rw [List.lookup_append, lookup_assignedAll items rest hothers hrest, Option.none_or]
    exact t.lookup_assigned hassigned hfirst

end

/-- A scope has only changed inside its innermost frame, and not at a name. -/
structure Scope.SameAt (name : String) (s next : Scope) : Prop where
  outer : next.tail = s.tail
  inner : (next.headD []).lookup name = (s.headD []).lookup name

theorem Scope.SameAt.refl (name : String) (s : Scope) : Scope.SameAt name s s := ⟨rfl, rfl⟩

theorem Scope.SameAt.trans {last : Scope} (h : Scope.SameAt name s next)
    (h' : Scope.SameAt name next last) : Scope.SameAt name s last :=
  ⟨h'.outer.trans h.outer, h'.inner.trans h.inner⟩

theorem Scope.find_eq (s : Scope) (name : String) :
    s.find name = (((s.headD []).lookup name).or (s.tail.findSome? (·.lookup name))).getD
      .undefined := by
  cases s with
  | nil => rfl
  | cons frame outer =>
    rw [Scope.find, List.findSome?_cons]
    simp only [List.headD_cons, List.tail_cons]
    cases frame.lookup name <;> rfl

theorem Scope.SameAt.find_eq (h : Scope.SameAt name s next) : next.find name = s.find name := by
  rw [Scope.find_eq, h.outer, h.inner, ← Scope.find_eq]

theorem Scope.find_cons {frame : List (String × Value)} (h : frame.lookup name = none) (s : Scope) :
    Scope.find (frame :: s) name = s.find name := by
  rw [Scope.find, List.findSome?_cons, h, Scope.find]

theorem Scope.sameAt_bind {bindings : List (String × Value)} (h : bindings.lookup name = none)
    (s : Scope) : Scope.SameAt name s (s.bind bindings) := by
  cases s with
  | nil => exact ⟨rfl, h⟩
  | cons frame outer => exact ⟨rfl, by simp [Scope.bind, List.lookup_append, h]⟩

theorem sameAt_assignAll (assignments : List (Target × Expr))
    (h : assignAll s assignments = .ok next)
    (hname : name ∉ assignments.flatMap fun a => a.1.names) : Scope.SameAt name s next := by
  induction assignments generalizing s with
  | nil =>
    cases h
    exact .refl name _
  | cons assignment rest ih =>
    obtain ⟨target, e⟩ := assignment
    obtain ⟨hfirst, hrest⟩ := not_or.mp (List.mem_append.not.mp hname)
    obtain ⟨v, -, h⟩ := Decoded.bind_eq_ok.mp h
    obtain ⟨bindings, hbindings, h⟩ := Decoded.bind_eq_ok.mp h
    exact (Scope.sameAt_bind (target.lookup_assigned hbindings hfirst) s).trans (ih h hrest)

mutual

/-- Rendering a part keeps a name that it does not assign. -/
theorem sameAt_render (n : Node) {s next : Scope} {text : String}
    (h : n.render s = .ok (text, next)) (hname : name ∉ n.assigns) : Scope.SameAt name s next := by
  match n with
  | .text t =>
    cases h
    exact .refl name s
  | .output e =>
    obtain ⟨v, -, h⟩ := Decoded.bind_eq_ok.mp h
    cases v <;> cases h <;> exact .refl name s
  | .branch test chosen other =>
    obtain ⟨hchosen, hother⟩ := not_or.mp (List.mem_append.not.mp hname)
    obtain ⟨v, -, h⟩ := Decoded.bind_eq_ok.mp h
    obtain ⟨holds, -, h⟩ := Decoded.bind_eq_ok.mp h
    cases holds with
    | true => exact sameAt_renderNodes chosen h hchosen
    | false => exact sameAt_renderNodes other h hother
  | .loop target source condition body other =>
    obtain ⟨-, hother⟩ := not_or.mp (List.mem_append.not.mp hname)
    obtain ⟨v, -, h⟩ := Decoded.bind_eq_ok.mp h
    obtain ⟨⟨items, length⟩, -, h⟩ := Decoded.bind_eq_ok.mp h
    dsimp only at h
    split at h
    · exact sameAt_renderNodes other h hother
    · obtain ⟨t, -, h⟩ := Decoded.bind_eq_ok.mp h
      cases h
      exact .refl name s
  | .assign target e =>
    obtain ⟨v, -, h⟩ := Decoded.bind_eq_ok.mp h
    obtain ⟨bindings, hbindings, h⟩ := Decoded.bind_eq_ok.mp h
    cases h
    exact Scope.sameAt_bind (target.lookup_assigned hbindings hname) s
  | .capture target body =>
    obtain ⟨htarget, hbody⟩ := not_or.mp (List.mem_append.not.mp hname)
    obtain ⟨⟨t, after⟩, hrender, h⟩ := Decoded.bind_eq_ok.mp h
    obtain ⟨bindings, hbindings, h⟩ := Decoded.bind_eq_ok.mp h
    cases h
    exact (sameAt_renderNodes body hrender hbody).trans
      (Scope.sameAt_bind (target.lookup_assigned hbindings htarget) after)
  | .scope assignments body =>
    obtain ⟨inner, -, h⟩ := Decoded.bind_eq_ok.mp h
    obtain ⟨⟨t, after⟩, -, h⟩ := Decoded.bind_eq_ok.mp h
    cases h
    exact .refl name s
  | .load source mayMiss targets =>
    obtain ⟨v, -, h⟩ := Decoded.bind_eq_ok.mp h
    dsimp only at h
    split at h
    all_goals
      split at h <;> cases h
      exact .refl name s

/-- Rendering parts in turn keeps a name that none of them assigns. -/
theorem sameAt_renderNodes (parts : List Node) {s next : Scope} {text : String}
    (h : renderNodes s parts = .ok (text, next)) (hname : name ∉ assignsAll parts) :
    Scope.SameAt name s next := by
  match parts with
  | [] =>
    cases h
    exact .refl name s
  | n :: rest =>
    obtain ⟨hfirst, hrest⟩ := not_or.mp (List.mem_append.not.mp hname)
    obtain ⟨⟨first, middle⟩, hn, h⟩ := Decoded.bind_eq_ok.mp h
    obtain ⟨⟨others, last⟩, hothers, h⟩ := Decoded.bind_eq_ok.mp h
    cases h
    exact (sameAt_render n hn hfirst).trans (sameAt_renderNodes rest hothers hrest)

end

theorem lookup_loopVariables {target : Target} {length : Option Nat} {turn : Turn}
    {bindings : List (String × Value)} (h : loopVariables target length turn = .ok bindings)
    (hname : name ∉ "loop" :: target.names) : bindings.lookup name = none := by
  obtain ⟨hloop, htarget⟩ := List.ne_and_not_mem_of_not_mem_cons hname
  obtain ⟨first, hfirst, h⟩ := Decoded.bind_eq_ok.mp h
  cases h
  rw [List.lookup_append, target.lookup_assigned hfirst htarget, Option.none_or,
    lookup_cons_of_ne hloop, List.lookup_nil]

/-- In the frames of a loop there are only names that it assigns. -/
theorem Comes.lookup_eq_none {target : Target} {length : Option Nat} {body : List Node}
    {index : Nat} {previous : Value} {frame inner : List (String × Value)} {items : List Value}
    (h : Comes (renderBody s body) (loopVariables target length) index previous frame items inner)
    (htarget : name ∉ "loop" :: target.names) (hbody : name ∉ assignsAll body)
    (hframe : frame.lookup name = none) : inner.lookup name = none := by
  induction h with
  | here hbound =>
    rw [List.lookup_append, lookup_loopVariables hbound htarget, hframe, Option.none_or]
  | next hbound hrender _ ih =>
    refine ih ?_
    rw [(sameAt_renderNodes body hrender hbody).inner, List.headD_cons, List.lookup_append,
      lookup_loopVariables hbound htarget, hframe, Option.none_or]

theorem not_assigned_loop {target : Target} {source : Expr} {condition : Option Expr}
    {body other rest : List Node}
    (h : name ∉ assignsAll (.loop target source condition body other :: rest)) :
    name ∉ "loop" :: target.names ∧ name ∉ assignsAll body ∧ name ∉ assignsAll other := by
  obtain ⟨hloop, -⟩ := not_or.mp (List.mem_append.not.mp h)
  obtain ⟨hframe, hother⟩ := not_or.mp (List.mem_append.not.mp hloop)
  obtain ⟨htarget, hbody⟩ := not_or.mp (List.mem_append.not.mp hframe)
  exact ⟨htarget, hbody, hother⟩

/-- When a rendering stops, a variable that is not assigned has the value that it had. -/
theorem StopsParts.find_eq {parts : List Node} {inner : Scope} {x : Expr}
    (h : StopsParts s parts inner x) (hname : name ∉ assignsAll parts) :
    inner.find name = s.find name := by
  induction h with
  | later hfirst _ ih =>
    obtain ⟨hn, hrest⟩ := not_or.mp (List.mem_append.not.mp hname)
    rw [ih hrest, (sameAt_render _ hfirst hn).find_eq]
  | output h | test h | source h | assign h | load h => rfl
  | @branch s inner test x chosen other rest holds htest _ ih =>
    obtain ⟨hbranch, -⟩ := not_or.mp (List.mem_append.not.mp hname)
    obtain ⟨hchosen, hother⟩ := not_or.mp (List.mem_append.not.mp hbranch)
    exact ih (by cases holds <;> assumption)
  | condition hsource hitems hbefore hbindings h =>
    obtain ⟨htarget, -, -⟩ := not_assigned_loop hname
    exact Scope.find_cons (Target.lookup_assigned _ hbindings (List.not_mem_of_not_mem_cons htarget)) _
  | body hsource hitems hcomes _ ih =>
    obtain ⟨htarget, hbody, -⟩ := not_assigned_loop hname
    rw [ih hbody, Scope.find_cons (hcomes.lookup_eq_none htarget hbody rfl)]
  | empty hsource hitems _ ih =>
    obtain ⟨-, -, hother⟩ := not_assigned_loop hname
    exact ih hother
  | capture _ ih =>
    obtain ⟨hcapture, -⟩ := not_or.mp (List.mem_append.not.mp hname)
    obtain ⟨-, hbody⟩ := not_or.mp (List.mem_append.not.mp hcapture)
    exact ih hbody
  | @assignment s inner before after target e x body rest hbefore h =>
    obtain ⟨hscope, -⟩ := not_or.mp (List.mem_append.not.mp hname)
    obtain ⟨hall, -⟩ := not_or.mp (List.mem_append.not.mp hscope)
    rw [List.flatMap_append] at hall
    obtain ⟨hnames, -⟩ := not_or.mp (List.mem_append.not.mp hall)
    rw [(sameAt_assignAll before hbefore hnames).find_eq, Scope.find_cons rfl]
  | scope hassignments _ ih =>
    obtain ⟨hscope, -⟩ := not_or.mp (List.mem_append.not.mp hname)
    obtain ⟨hnames, hbody⟩ := not_or.mp (List.mem_append.not.mp hscope)
    rw [ih hbody, (sameAt_assignAll _ hassignments hnames).find_eq, Scope.find_cons rfl]

end Scopes

end Dossier.Template
