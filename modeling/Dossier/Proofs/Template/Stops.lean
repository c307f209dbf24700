import Dossier.Proofs.Template.Missing
import Dossier.Proofs.Wire.Record

/-!
# What stops a template

A rendering that fails for a missing value is stopped by an expression without a value: a path that
leads nowhere, or an operand that an operation asks for.

* `Expr.evaluated`, `Expr.combine`, `Expr.value_eq` : what an expression evaluates in turn, and what
  it makes of the values;
* `Expr.Stops` : the expression that stops an evaluation;
* `Expr.misses_iff_stops` : an evaluation fails for a missing value just if something stops it.
-/

namespace Dossier.Template

/-! ## Evaluation in turn -/

/-- Two values each, as they follow each other. -/
def pairs {α : Type} : List α → List (α × α)
  | a :: b :: rest => (a, b) :: pairs rest
  | _ => []

namespace Expr

/-- What is evaluated after a condition. -/
def decided (s : Scope) (condition : Expr) (yes no : List Expr) : List Expr :=
  match condition.value s >>= Value.truth with
  | .ok true => yes
  | .ok false => no
  | .error _ => []

/-- The operands of an expression. A method is called with the value that has it. -/
def operands : Expr → List Expr
  | .var _ => []
  | .const _ => []
  | .unary _ e => [e]
  | .binary _ a b => [a, b]
  | .choice condition a b => [condition, a, b]
  | .filter _ e args => e :: args.map Prod.snd
  | .test _ e args => e :: args.map Prod.snd
  | .member e _ => [e]
  | .item e index => [e, index]
  | .slice e start stop step => [e, start, stop, step]
  | .call (.var _) args => args.map Prod.snd
  | .call (.member e _) args => e :: args.map Prod.snd
  | .call e args => e :: args.map Prod.snd
  | .list items => items
  | .map entries => entries.flatMap fun (key, e) => [key, e]

/-- The operands that an expression evaluates, in turn. -/
def evaluated (s : Scope) : Expr → List Expr
  | .binary .and a b => a :: decided s a [b] []
  | .binary .or a b => a :: decided s a [] [b]
  | .choice condition a b => condition :: decided s condition [a] [b]
  | e => e.operands

/-- What an expression makes of the values of its operands. A condition that does not go on to
another operand is the result, if it is decided. -/
def combine (s : Scope) (e : Expr) (values : List Value) : Except FieldError Value :=
  match e, values with
  | .var name, _ => .ok (s.find name)
  | .const v, _ => .ok v
  | .unary op _, [v] => op.apply v
  | .binary _ _ _, [v] => do
    let _ ← v.truth
    return v
  | .binary op _ _, [v, w] => op.apply v w
  | .choice _ _ _, [v] => do
    let _ ← v.truth
    return v
  | .choice _ _ _, [_, w] => .ok w
  | .filter name _ args, v :: vs => applyFilter name v (.ofList ((args.map Prod.fst).zip vs))
  | .test name _ args, v :: vs => applyTest name v (.ofList ((args.map Prod.fst).zip vs))
  | .member _ name, [v] => partOf v (·.member name)
  | .item _ _, [v, index] => partOf v (·.item index)
  | .slice _ _ _ _, [v, start, stop, step] => v.sliced start stop step
  | .call (.var name) args, vs =>
    if (s.find name).isUndefined then
      callFunction name (.ofList ((args.map Prod.fst).zip vs))
    else refused
  | .list _, vs => .ok (.list vs)
  | .map _, vs => .ok (.ofEntries (pairs vs))
  | _, _ => refused

variable {s : Scope}

theorem argumentValues_eq (args : List (Option String × Expr)) :
    argumentValues s args = (args.map Prod.fst).zip <$> (args.map Prod.snd).mapM (·.value s) := by
  induction args with
  | nil => rfl
  | cons arg args ih =>
    rw [argumentValues, ih, List.map_cons, List.map_cons, List.mapM_cons]
    simp

theorem itemValues_eq (items : List Expr) : itemValues s items = items.mapM (·.value s) := by
  induction items with
  | nil => rfl
  | cons e items ih => rw [itemValues, ih, List.mapM_cons]

theorem entryValues_eq (entries : List (Expr × Expr)) :
    entryValues s entries =
      pairs <$> (entries.flatMap fun (key, e) => [key, e]).mapM (·.value s) := by
  induction entries with
  | nil => rfl
  | cons entry entries ih =>
    rw [entryValues, ih, List.flatMap_cons]
    simp [pairs]

/-- Operators other than `and` and `or` evaluate both operands. -/
theorem evaluated_binary {op : BinaryOp} (hand : op ≠ .and) (hor : op ≠ .or) (a b : Expr) :
    evaluated s (.binary op a b) = [a, b] := by
  rw [evaluated, operands]
  all_goals simp [hand, hor]

/-- A condition decides which operand is evaluated after it. If there is none, the value is that of
the condition. -/
theorem value_decided {condition : Expr} {yes no : List Expr}
    {f g : Value → Except FieldError Value} {last : List Value → Except FieldError Value}
    (hnone : ∀ v, last [v] = do let _ ← v.truth; return v)
    (hyes : ∀ v, v.truth = .ok true → f v = yes.mapM (·.value s) >>= fun vs => last (v :: vs))
    (hno : ∀ v, v.truth = .ok false → g v = no.mapM (·.value s) >>= fun vs => last (v :: vs)) :
    (do
      let v ← condition.value s
      if ← v.truth then f v else g v) =
      (condition :: decided s condition yes no).mapM (·.value s) >>= last := by
  rw [List.mapM_cons, bind_assoc]
  cases hcondition : condition.value s with
  | error fault => rfl
  | ok v =>
    rw [decided, hcondition, ok_bind, ok_bind, ok_bind]
    cases hv : v.truth with
    | error fault =>
      rw [List.mapM_nil, pure_bind, pure_bind, hnone, hv]
      rfl
    | ok holds =>
      rw [ok_bind, bind_assoc]
      cases holds with
      | true => simpa using hyes v hv
      | false => simpa using hno v hv

/-- An expression evaluates its operands in turn and makes its value of theirs. -/
theorem value_eq (e : Expr) :
    e.value s = (e.evaluated s).mapM (·.value s) >>= fun values => e.combine s values := by
  cases e with
  | binary op a b =>
    by_cases hand : op = .and
    · subst hand
      rw [value]
      refine value_decided (fun _ => rfl) (fun v _ => ?_) (fun v hv => ?_)
      · simp [combine, BinaryOp.apply, bind_ok]
      · rw [List.mapM_nil, pure_bind, combine, hv]
        rfl
    by_cases hor : op = .or
    · subst hor
      rw [value]
      refine value_decided (fun _ => rfl) (fun v hv => ?_) (fun v _ => ?_)
      · rw [List.mapM_nil, pure_bind, combine, hv]
        rfl
      · simp [combine, BinaryOp.apply, bind_ok]
    · rw [evaluated_binary hand hor, value]
      all_goals simp [combine, hand, hor]
  | choice condition a b =>
    rw [value]
    refine value_decided (f := fun _ => a.value s) (g := fun _ => b.value s) (fun _ => rfl)
      (fun v _ => ?_) (fun v _ => ?_)
    all_goals simp [combine, bind_ok]
  | list items =>
    rw [value, itemValues_eq]
    rfl
  | map entries =>
    rw [value, entryValues_eq, bind_map_left]
    rfl
  | call e args =>
    cases e <;> simp [value, evaluated, operands, combine, argumentValues_eq, bind_assoc]
  | _ => simp [value, evaluated, operands, combine, argumentValues_eq, bind_assoc]

/-! ## Operands -/

/-- An expression has a value. -/
def HasValue (s : Scope) (e : Expr) : Prop := ∃ v, e.value s = .ok v

/-- The evaluation of expressions in turn comes to one of them. -/
def Reaches (s : Scope) (es : List Expr) (e : Expr) : Prop :=
  ∃ before after, es = before ++ e :: after ∧ ∀ d ∈ before, HasValue s d

theorem mem_of_reaches {es : List Expr} {e : Expr} (h : Reaches s es e) : e ∈ es := by
  obtain ⟨before, after, rfl, -⟩ := h
  simp

theorem reaches_cons {es : List Expr} {d e : Expr} :
    Reaches s (d :: es) e ↔ e = d ∨ HasValue s d ∧ Reaches s es e := by
  constructor
  · rintro ⟨_ | ⟨d', before⟩, after, heq, hbefore⟩
    · cases heq
      exact .inl rfl
    · cases heq
      obtain ⟨hd, hbefore⟩ := List.forall_mem_cons.mp hbefore
      exact .inr ⟨hd, before, after, rfl, hbefore⟩
  · rintro (rfl | ⟨hd, before, after, rfl, hbefore⟩)
    · exact ⟨[], es, rfl, by simp⟩
    · exact ⟨d :: before, after, rfl, List.forall_mem_cons.mpr ⟨hd, hbefore⟩⟩

/-- Evaluation in turn fails for a missing value at the first expression that does. -/
theorem misses_mapM {es : List Expr} :
    Misses (es.mapM (·.value s)) ↔ ∃ e, Reaches s es e ∧ Misses (e.value s) := by
  induction es with
  | nil => simp [Reaches]
  | cons d es ih =>
    simp only [List.mapM_cons, misses_bind, ih, not_misses_pure, and_false, exists_false, or_false,
      reaches_cons]
    constructor
    · rintro (hd | ⟨v, hd, e, he, hmisses⟩)
      · exact ⟨d, .inl rfl, hd⟩
      · exact ⟨e, .inr ⟨⟨v, hd⟩, he⟩, hmisses⟩
    · rintro ⟨e, rfl | ⟨⟨v, hd⟩, he⟩, hmisses⟩
      · exact .inl hmisses
      · exact .inr ⟨v, hd, e, he, hmisses⟩

theorem forall₂_of_mapM {es : List Expr} {vs : List Value} (h : es.mapM (·.value s) = .ok vs) :
    List.Forall₂ (fun e v => e.value s = .ok v) es vs := by
  induction es generalizing vs with
  | nil =>
    cases h
    exact .nil
  | cons e es ih =>
    rw [List.mapM_cons] at h
    obtain ⟨v, he, h⟩ := Decoded.bind_eq_ok.mp h
    obtain ⟨vs', hes, h⟩ := Decoded.bind_eq_ok.mp h
    cases h
    exact .cons he (ih hes)

theorem hasValue_of_mapM {es : List Expr} {vs : List Value} (h : es.mapM (·.value s) = .ok vs) :
    ∀ e ∈ es, HasValue s e := by
  have hall := forall₂_of_mapM h
  clear h
  induction hall with
  | nil => simp
  | cons hvalue _ ih => exact List.forall_mem_cons.mpr ⟨⟨_, hvalue⟩, ih⟩

/-- The operands that have to exist. -/
def asked : Expr → List Expr
  | .unary .not e => [e]
  | .binary op a b => op.asked a b
  | .choice condition _ _ => [condition]
  | .filter name e args => (if asksForSubject name then [e] else []) ++ args.map Prod.snd
  | .test name e args => (if name = "in" then [] else [e]) ++ args.map Prod.snd
  | .member e _ => [e]
  | .item e _ => [e]
  | .slice e _ _ _ => [e]
  | .call _ args => args.map Prod.snd
  | _ => []

/-- An expression has a value that stands for nothing. -/
def IsUndefined (s : Scope) (e : Expr) : Prop := ∃ v, e.value s = .ok v ∧ v.isUndefined = true

theorem exists_of_mem_values {es : List Expr} {vs : List Value}
    (hall : List.Forall₂ (fun e v => e.value s = .ok v) es vs) {v : Value} (hv : v ∈ vs) :
    ∃ e ∈ es, e.value s = .ok v := by
  induction hall with
  | nil => cases hv
  | cons hvalue _ ih =>
    rcases List.mem_cons.mp hv with rfl | hv
    · exact ⟨_, List.mem_cons_self, hvalue⟩
    · obtain ⟨e, he, hvalue⟩ := ih hv
      exact ⟨e, List.mem_cons_of_mem _ he, hvalue⟩

/-- If an operation lacks an argument, the value of an operand does not exist. -/
theorem undefined_of_lacks {es : List Expr} {vs : List Value} {names : List (Option String)}
    (hall : List.Forall₂ (fun e v => e.value s = .ok v) es vs)
    (h : (Arguments.ofList (names.zip vs)).Lacks) : ∃ x ∈ es, IsUndefined s x := by
  obtain ⟨v, hv, hundefined⟩ := h
  have hmem : v ∈ vs := by
    simp only [Arguments.values, Arguments.ofList, List.map_filterMap, List.mem_append,
      List.mem_filterMap] at hv
    rcases hv with ⟨⟨name, w⟩, hw, heq⟩ | ⟨⟨name, w⟩, hw, heq⟩
    · obtain ⟨-, rfl⟩ : name = none ∧ w = v := by simpa using heq
      exact (List.of_mem_zip hw).2
    · obtain ⟨-, rfl⟩ : name.isSome ∧ w = v := by cases name <;> simp_all
      exact (List.of_mem_zip hw).2
  obtain ⟨x, hx, hvalue⟩ := exists_of_mem_values hall hmem
  exact ⟨x, hx, v, hvalue, hundefined⟩

/-- If a filter or a test asks for its subject or lacks an argument, one of the two does not
exist. -/
theorem undefined_of_subject {e : Expr} {v : Value} {args : List Argument} {vs : List Value}
    {subject : List Expr} {asks : Prop} (he : e.value s = .ok v)
    (hargs : List.Forall₂ (fun e v => e.value s = .ok v) (args.map Prod.snd) vs)
    (hsubject : asks → e ∈ subject)
    (h : asks ∧ v.isUndefined = true ∨ (Arguments.ofList ((args.map Prod.fst).zip vs)).Lacks) :
    ∃ x ∈ subject ++ args.map Prod.snd, IsUndefined s x := by
  rcases h with ⟨hasks, hv⟩ | hlacks
  · exact ⟨e, List.mem_append_left _ (hsubject hasks), v, he, hv⟩
  · obtain ⟨x, hx, hundefined⟩ := undefined_of_lacks hargs hlacks
    exact ⟨x, List.mem_append_right _ hx, hundefined⟩

/-- A condition has to exist. The value of the operand after it is that of the expression, whatever
it is. -/
theorem undefined_of_condition {e condition : Expr} {es : List Expr} {vs : List Value}
    (hall : List.Forall₂ (fun e v => e.value s = .ok v) (condition :: es) vs)
    (hlast : ∀ v, e.combine s [v] = do let _ ← v.truth; return v)
    (hmore : ∀ v w ws, ¬ Misses (e.combine s (v :: w :: ws))) (h : Misses (e.combine s vs)) :
    IsUndefined s condition := by
  obtain ⟨v, vs, hcondition, -, rfl⟩ := List.forall₂_cons_left_iff.mp hall
  cases vs with
  | nil =>
    obtain rfl : v = .undefined := by simpa [hlast] using h
    exact ⟨_, hcondition, rfl⟩
  | cons w ws => exact absurd h (hmore v w ws)

/-- An operator other than `and` and `or` fails for a missing value only if an operand it asks for
does not exist. -/
theorem undefined_of_binary {op : BinaryOp} {a b : Expr} {vs : List Value}
    (hall : List.Forall₂ (fun e v => e.value s = .ok v) [a, b] vs)
    (h : Misses (combine s (.binary op a b) vs)) : ∃ x ∈ op.asked a b, IsUndefined s x := by
  obtain ⟨v, _, ha, hright, rfl⟩ := List.forall₂_cons_left_iff.mp hall
  obtain ⟨w, _, hb, ⟨⟩, rfl⟩ := List.forall₂_cons_left_iff.mp hright
  have happly : Misses (op.apply v w) := h
  obtain ⟨u, hu, hundefined⟩ := BinaryOp.undefined_of_apply happly
  rcases BinaryOp.asked_cases hu with ⟨rfl, hasked⟩ | ⟨rfl, hasked⟩
  · exact ⟨a, hasked a b, u, ha, hundefined⟩
  · exact ⟨b, hasked a b, u, hb, hundefined⟩

/-- If the operands have values and the expression fails for a missing value, an operand that has to
exist does not. -/
theorem undefined_of_combine {e : Expr} {vs : List Value}
    (hvalues : (e.evaluated s).mapM (·.value s) = .ok vs) (h : Misses (e.combine s vs)) :
    ∃ x ∈ e.asked, IsUndefined s x := by
  have hall := forall₂_of_mapM hvalues
  clear hvalues
  cases e with
  | var name | const v | list items | map entries => simp [combine] at h
  | unary op e =>
    obtain ⟨v, _, he, ⟨⟩, rfl⟩ := List.forall₂_cons_left_iff.mp hall
    obtain ⟨rfl, hv⟩ := UnaryOp.undefined_of_apply h
    exact ⟨e, by simp [asked], v, he, hv⟩
  | member e name =>
    obtain ⟨v, _, he, ⟨⟩, rfl⟩ := List.forall₂_cons_left_iff.mp hall
    exact ⟨e, by simp [asked], v, he, misses_partOf.mp h⟩
  | item e index =>
    obtain ⟨v, _, he, hindex, rfl⟩ := List.forall₂_cons_left_iff.mp hall
    obtain ⟨i, _, -, ⟨⟩, rfl⟩ := List.forall₂_cons_left_iff.mp hindex
    exact ⟨e, by simp [asked], v, he, misses_partOf.mp h⟩
  | slice e start stop step =>
    obtain ⟨v, _, he, h₁, rfl⟩ := List.forall₂_cons_left_iff.mp hall
    obtain ⟨_, _, -, h₂, rfl⟩ := List.forall₂_cons_left_iff.mp h₁
    obtain ⟨_, _, -, h₃, rfl⟩ := List.forall₂_cons_left_iff.mp h₂
    obtain ⟨_, _, -, ⟨⟩, rfl⟩ := List.forall₂_cons_left_iff.mp h₃
    exact ⟨e, by simp [asked], v, he, Value.undefined_of_sliced h ▸ rfl⟩
  | filter name e args =>
    obtain ⟨v, vs, he, hargs, rfl⟩ := List.forall₂_cons_left_iff.mp hall
    exact undefined_of_subject he hargs (fun hname => by simp [hname]) (undefined_of_filter h)
  | test name e args =>
    obtain ⟨v, vs, he, hargs, rfl⟩ := List.forall₂_cons_left_iff.mp hall
    exact undefined_of_subject he hargs (fun hname => by simp [hname]) (undefined_of_test h)
  | call e args =>
    cases e with
    | var name =>
      simp only [combine] at h
      split at h
      · exact undefined_of_lacks hall (undefined_of_function h)
      · simp at h
    | _ => simp [combine] at h
  | choice condition a b =>
    refine ⟨condition, List.mem_singleton_self _, undefined_of_condition hall (fun _ => rfl) ?_ h⟩
    rintro v w (_ | _) <;> simp [combine]
  | binary op a b =>
    by_cases hand : op = .and
    · subst hand
      refine ⟨a, List.mem_singleton_self _, undefined_of_condition hall (fun _ => rfl) ?_ h⟩
      rintro v w (_ | _) <;> simp [combine, BinaryOp.apply]
    by_cases hor : op = .or
    · subst hor
      refine ⟨a, List.mem_singleton_self _, undefined_of_condition hall (fun _ => rfl) ?_ h⟩
      rintro v w (_ | _) <;> simp [combine, BinaryOp.apply]
    · rw [evaluated_binary hand hor] at hall
      exact undefined_of_binary hall h

/-! ## What stops an evaluation -/

/-- The operand whose value is that of an expression, as a condition decides. -/
def chosen (s : Scope) (condition yes no : Expr) : Expr :=
  match condition.value s >>= Value.truth with
  | .ok true => yes
  | _ => no

/-- The operand whose value an expression passes on. -/
def passed? (s : Scope) : Expr → Option Expr
  | .binary .and a b => some (chosen s a b a)
  | .binary .or a b => some (chosen s a a b)
  | .choice condition a b => some (chosen s condition a b)
  | _ => none

/-- An expression has its value from another one, which does not pass it on. -/
inductive Origin (s : Scope) : Expr → Expr → Prop where
  | self {e : Expr} (h : e.passed? s = none) : Origin s e e
  | passed {e d x : Expr} (h : e.passed? s = some d) (hd : Origin s d x) : Origin s e x

/-- An expression is a variable, or a member of a path. -/
def IsPath (e : Expr) : Prop := e.path?.isSome = true

/-- An expression calls a method of a path. -/
def CallsMethodOf (e path : Expr) : Prop :=
  path.IsPath ∧ ∃ name args, e = .call (.member path name) args

/-- The evaluation of an expression stops at another one. -/
inductive Stops (s : Scope) : Expr → Expr → Prop where
  /-- A path goes on from what does not exist. -/
  | path {e : Expr} (hpath : e.IsPath) (hmisses : Misses (e.value s)) : Stops s e e
  /-- So does the path to a method, which is written with the name of the method. -/
  | method {e : Expr} {name : String} {args : List Argument} (hpath : e.IsPath)
      (hmisses : Misses (e.value s)) : Stops s (.call (.member e name) args) (.member e name)
  /-- The operands have values, and one that has to exist does not. -/
  | refused {e x y : Expr} (hpath : ¬ e.IsPath) (hmisses : Misses (e.value s))
      (hvalues : ∀ d ∈ e.evaluated s, HasValue s d) (hasked : x ∈ e.asked)
      (hundefined : IsUndefined s x) (horigin : Origin s x y) : Stops s e y
  /-- The evaluation comes to an operand and stops there. -/
  | operand {e d x : Expr} (hpath : ¬ e.IsPath) (hmethod : ¬ e.CallsMethodOf d)
      (hreaches : Reaches s (e.evaluated s) d) (hstops : Stops s d x) : Stops s e x

theorem misses_iff {e : Expr} :
    Misses (e.value s) ↔ (∃ d, Reaches s (e.evaluated s) d ∧ Misses (d.value s)) ∨
      ∃ vs, (e.evaluated s).mapM (·.value s) = .ok vs ∧ Misses (e.combine s vs) := by
  rw [value_eq, misses_bind, misses_mapM]

/-- What is said to stop an evaluation does stop it. -/
theorem Stops.misses {e x : Expr} (h : Stops s e x) : Misses (e.value s) := by
  induction h with
  | path _ hmisses => exact hmisses
  | @method e name args _ hmisses =>
    exact misses_iff.mpr (.inl ⟨e, reaches_cons.mpr (.inl rfl), hmisses⟩)
  | refused _ hmisses _ _ _ _ => exact hmisses
  | operand _ _ hreaches _ ih => exact misses_iff.mpr (.inl ⟨_, hreaches, ih⟩)

theorem mem_decided {condition d : Expr} {yes no : List Expr}
    (h : d ∈ decided s condition yes no) : d ∈ yes ∨ d ∈ no := by
  unfold decided at h
  split at h
  · exact .inl h
  · exact .inr h
  · cases h

theorem mem_operands {e d : Expr} (h : d ∈ e.evaluated s) : d ∈ e.operands := by
  unfold evaluated at h
  split at h
  case h_4 => exact h
  all_goals
    rcases List.mem_cons.mp h with rfl | h
    · exact List.mem_cons_self
    · have hmem := mem_decided h
      simp only [operands, List.mem_cons, List.not_mem_nil, or_false, false_or] at hmem ⊢
      exact .inr hmem

theorem sizeOf_argument {args : List Argument} {d : Expr} (h : d ∈ args.map Prod.snd) :
    sizeOf d < sizeOf args := by
  obtain ⟨⟨name, e⟩, harg, rfl⟩ := List.mem_map.mp h
  have hargs := List.sizeOf_lt_of_mem harg
  simp only [Prod.mk.sizeOf_spec] at hargs ⊢
  omega

theorem sizeOf_entry {entries : List (Expr × Expr)} {d : Expr}
    (h : d ∈ entries.flatMap fun (key, e) => [key, e]) : sizeOf d < sizeOf entries := by
  obtain ⟨⟨key, e⟩, hentry, hd⟩ := List.mem_flatMap.mp h
  have hentries := List.sizeOf_lt_of_mem hentry
  simp only [Prod.mk.sizeOf_spec] at hentries
  rcases List.mem_pair.mp hd with rfl | rfl <;> omega

/-- The operands are smaller than the expression. -/
theorem sizeOf_operand {e d : Expr} (h : d ∈ e.operands) : sizeOf d < sizeOf e := by
  unfold operands at h
  split at h
  case h_1 | h_2 => cases h
  case h_14 =>
    have hitems := List.sizeOf_lt_of_mem h
    simp
    omega
  case h_15 =>
    have hentries := sizeOf_entry h
    simp
    omega
  case h_11 =>
    have hargs := sizeOf_argument h
    simp
    omega
  case h_6 | h_7 | h_12 | h_13 =>
    rcases List.mem_cons.mp h with rfl | h
    · simp
      omega
    · have hargs := sizeOf_argument h
      simp
      omega
  all_goals
    simp only [List.mem_cons, List.not_mem_nil, or_false] at h
    simp
    grind

theorem chosen_cases (s : Scope) (condition yes no : Expr) :
    chosen s condition yes no = yes ∨ chosen s condition yes no = no := by
  unfold chosen
  split
  · exact .inl rfl
  · exact .inr rfl

theorem mem_operands_of_passed? {e d : Expr} (h : e.passed? s = some d) : d ∈ e.operands := by
  unfold passed? at h
  split at h
  case h_4 => cases h
  all_goals
    cases h
    rcases chosen_cases s _ _ _ with heq | heq <;> rw [heq] <;> simp [operands]

theorem exists_origin (s : Scope) (e : Expr) : ∃ x, Origin s e x := by
  cases hpassed : e.passed? s with
  | none => exact ⟨e, .self hpassed⟩
  | some d =>
    have hsize := sizeOf_operand (mem_operands_of_passed? hpassed)
    obtain ⟨x, hx⟩ := exists_origin s d
    exact ⟨x, .passed hpassed hx⟩
termination_by sizeOf e

theorem exists_stops {e : Expr} (h : Misses (e.value s)) : ∃ x, Stops s e x := by
  by_cases hpath : e.IsPath
  · exact ⟨e, .path hpath h⟩
  rcases misses_iff.mp h with ⟨d, hreaches, hmisses⟩ | ⟨vs, hvalues, hmisses⟩
  · by_cases hmethod : e.CallsMethodOf d
    · obtain ⟨hd, name, args, rfl⟩ := hmethod
      exact ⟨_, .method hd hmisses⟩
    · have hsize := sizeOf_operand (mem_operands (mem_of_reaches hreaches))
      obtain ⟨x, hx⟩ := exists_stops hmisses
      exact ⟨x, .operand hpath hmethod hreaches hx⟩
  · obtain ⟨x, hasked, hundefined⟩ := undefined_of_combine hvalues hmisses
    obtain ⟨y, horigin⟩ := exists_origin s x
    exact ⟨y, .refused hpath h (hasValue_of_mapM hvalues) hasked hundefined horigin⟩
termination_by sizeOf e

/-- An evaluation fails for a missing value just if something stops it. -/
theorem misses_iff_stops {e : Expr} : Misses (e.value s) ↔ ∃ x, Stops s e x :=
  ⟨exists_stops, fun ⟨_, h⟩ => h.misses⟩

end Expr

end Dossier.Template
