import Dossier.Proofs.Entries
import Dossier.Template.Render

/-!
# Missing values

An operation on values fails for a missing value only if a value that it asks for does not exist.
The operators and filters that ask for less are the ones that templates use for optional values:
comparisons and tests ask for nothing, and `default` does not ask for its subject.

* `Misses` : a computation fails for a missing value;
* `BinaryOp.asked`, `asksForSubject` : what an operation asks for;
* `undefined_of_apply`, `undefined_of_filter`, `undefined_of_test`, `undefined_of_function` : what it
  asked for does not exist if it fails for a missing value.
-/

namespace Dossier.Template

variable {α β : Type}

/-- A computation fails for a missing value. -/
def Misses (m : Except FieldError α) : Prop := ∃ name, m = .error (.undefinedVariable name)

section Computations

variable {m : Except FieldError α} {f : α → Except FieldError β}

theorem ok_bind (a : α) : ((.ok a : Except FieldError α) >>= f) = f a := rfl

theorem error_bind (fault : FieldError) :
    ((.error fault : Except FieldError α) >>= f) = .error fault := rfl

theorem bind_ok : (m >>= fun a => .ok a) = m := bind_pure m

@[simp]
theorem misses_missing : Misses (missing : Except FieldError α) := ⟨none, rfl⟩

@[simp]
theorem not_misses_ok (a : α) : ¬ Misses (.ok a : Except FieldError α) := by
  rintro ⟨name, h⟩
  cases h

@[simp]
theorem not_misses_pure (a : α) : ¬ Misses (pure a : Except FieldError α) := not_misses_ok a

@[simp]
theorem not_misses_refused : ¬ Misses (refused : Except FieldError α) := by
  rintro ⟨name, h⟩
  cases h

theorem misses_error {fault : FieldError} :
    Misses (.error fault : Except FieldError α) ↔ ∃ name, fault = .undefinedVariable name := by
  simp [Misses]

@[simp]
theorem misses_bind : Misses (m >>= f) ↔ Misses m ∨ ∃ a, m = .ok a ∧ Misses (f a) := by
  cases m with
  | ok a => simp [bind, Except.bind]
  | error fault => simp [bind, Except.bind, misses_error]

@[simp]
theorem misses_map {g : α → β} : Misses (g <$> m) ↔ Misses m := by
  cases m with
  | ok a => simp [Functor.map, Except.map]
  | error fault => simp [Functor.map, Except.map, misses_error]

end Computations

/-! ## Values that have to exist -/

namespace Value

variable {v w : Value} {args : List Value}

@[simp]
theorem misses_truth : Misses v.truth ↔ v = .undefined := by
  cases v <;> simp [truth]

@[simp]
theorem misses_present : Misses v.present ↔ v.isUndefined = true := by
  unfold present
  cases v.isUndefined <;> simp

@[simp]
theorem present_eq_ok : v.present = .ok w ↔ v.isUndefined = false ∧ v = w := by
  unfold present
  cases v.isUndefined <;> simp [missing]

@[simp]
theorem misses_presentText : Misses v.presentText ↔ v.isUndefined = true := by simp [presentText]

@[simp]
theorem misses_string : Misses v.string ↔ v.isUndefined = true := by
  unfold string
  cases v <;> simp [isUndefined]

@[simp]
theorem not_misses_whole : ¬ Misses v.whole := by
  unfold whole
  cases v.integer? <;> simp

@[simp]
theorem not_misses_boolean : ¬ Misses v.boolean := by
  cases v <;> simp [boolean]

@[simp]
theorem misses_iterated : Misses v.iterated ↔ v.isUndefined = true := by
  unfold iterated
  cases v <;> simp [isUndefined, items?]

@[simp]
theorem misses_firstItem : Misses v.firstItem ↔ v.isUndefined = true := by simp [firstItem]

@[simp]
theorem misses_lastItem : Misses v.lastItem ↔ v.isUndefined = true := by
  unfold lastItem
  cases v <;> simp [isUndefined]

@[simp]
theorem misses_reversed : Misses v.reversed ↔ v.isUndefined = true := by
  unfold reversed
  cases v <;> simp [isUndefined]

@[simp]
theorem not_misses_lengthOf : ¬ Misses v.lengthOf := by
  unfold lengthOf
  cases v.length? <;> simp

@[simp]
theorem not_misses_ofInt (n : Int) : ¬ Misses (ofInt n) := by
  unfold ofInt
  split <;> simp

@[simp]
theorem misses_toInteger : Misses v.toInteger ↔ v.isUndefined = true := by
  unfold toInteger
  cases v <;> simp [isUndefined]
  grind [not_misses_ok, not_misses_refused]

@[simp]
theorem misses_toFloat : Misses v.toFloat ↔ v.isUndefined = true := by
  unfold toFloat
  cases v <;> simp [isUndefined]
  all_goals grind [not_misses_ok, not_misses_refused]

@[simp]
theorem misses_rounded {decimals : Int} : Misses (v.rounded decimals) ↔ v.isUndefined = true := by
  unfold rounded
  cases v <;> simp [isUndefined]

@[simp]
theorem misses_magnitude : Misses v.magnitude ↔ v.isUndefined = true := by
  unfold magnitude
  cases v <;> simp [isUndefined]

@[simp]
theorem misses_joined {separator : String} :
    Misses (v.joined separator) ↔ v.isUndefined = true := by simp [joined]

/-- What a filter of fields refuses is not missing. -/
theorem not_misses_filter (f : Filter) (value : String) : ¬ Misses (f.apply value) := by
  unfold Filter.apply
  cases f <;> grind [not_misses_ok, misses_error]

@[simp]
theorem misses_ofField {f : Filter} : Misses (ofField f v) ↔ v.isUndefined = true := by
  simp [ofField, not_misses_filter]

/-! ## Numbers

Where a number is wanted, what is undefined is refused like every other value that is none. -/

@[simp]
theorem not_misses_repeated : ¬ Misses (v.repeated w) := by
  unfold repeated
  split <;> simp

@[simp]
theorem not_misses_add : ¬ Misses (v.add w) := by
  unfold Value.add
  grind [not_misses_ok, not_misses_refused, not_misses_ofInt, not_misses_repeated]

@[simp]
theorem not_misses_sub : ¬ Misses (v.sub w) := by
  unfold Value.sub
  grind [not_misses_ok, not_misses_refused, not_misses_ofInt, not_misses_repeated]

@[simp]
theorem not_misses_mul : ¬ Misses (v.mul w) := by
  unfold Value.mul
  grind [not_misses_ok, not_misses_refused, not_misses_ofInt, not_misses_repeated]

@[simp]
theorem not_misses_div : ¬ Misses (v.div w) := by
  unfold Value.div
  grind [not_misses_ok, not_misses_refused, not_misses_ofInt, not_misses_repeated]

@[simp]
theorem not_misses_floorDiv : ¬ Misses (v.floorDiv w) := by
  unfold Value.floorDiv
  grind [not_misses_ok, not_misses_refused, not_misses_ofInt, not_misses_repeated]

@[simp]
theorem not_misses_mod : ¬ Misses (v.mod w) := by
  unfold Value.mod
  grind [not_misses_ok, not_misses_refused, not_misses_ofInt, not_misses_repeated]

@[simp]
theorem not_misses_pow : ¬ Misses (v.pow w) := by
  unfold Value.pow
  grind [not_misses_ok, not_misses_refused, not_misses_ofInt, not_misses_repeated]

@[simp]
theorem not_misses_negate : ¬ Misses v.negate := by
  unfold Value.negate
  cases v <;> simp

end Value

/-! ## Arguments -/

namespace Arguments

/-- The values of all arguments. -/
def values (args : Arguments) : List Value := args.positional ++ args.named.map Prod.snd

/-- The value of an argument does not exist. -/
def Lacks (args : Arguments) : Prop := ∃ v ∈ args.values, v.isUndefined = true

variable {args : Arguments} {n : Nat}

@[simp]
theorem not_misses_atMost : ¬ Misses (args.atMost n) := by
  unfold atMost
  split <;> simp

theorem atMost_eq_ok {values : List Value} (h : args.atMost n = .ok values) :
    values = args.positional := by
  unfold atMost at h
  split at h
  · cases h
    rfl
  · cases h

theorem lacks_of_atMost {values : List Value} (h : args.atMost n = .ok values)
    (hvalue : ∃ v ∈ values, v.isUndefined = true) : args.Lacks := by
  obtain ⟨v, hv, hundefined⟩ := hvalue
  rw [atMost_eq_ok h] at hv
  exact ⟨v, List.mem_append_left _ hv, hundefined⟩

end Arguments

namespace Value

section Reading

variable {args : List Value} {place : Nat} {read : Value → Except FieldError α}

theorem undefined_of_optional (hread : ∀ v, Misses (read v) → v.isUndefined = true)
    (h : Misses (optional args place read)) : ∃ v ∈ args, v.isUndefined = true := by
  unfold optional at h
  split at h
  · simp at h
  · simp at h
  · rename_i v _ hplace
    refine ⟨v, List.mem_of_getElem? hplace, ?_⟩
    have hmisses : v.isUndefined = true ∨ v.isUndefined = false ∧ Misses (read v) := by simpa using h
    exact hmisses.elim id fun h => hread v h.2

theorem undefined_of_required (hread : ∀ v, Misses (read v) → v.isUndefined = true)
    (h : Misses (required args place read)) : ∃ v ∈ args, v.isUndefined = true := by
  unfold required at h
  split at h
  · simp at h
  · rename_i v hplace
    exact ⟨v, List.mem_of_getElem? hplace, hread v h⟩

theorem lacks_of_optional {args : Arguments} {n : Nat} {values : List Value}
    (hread : ∀ v, Misses (read v) → v.isUndefined = true) (hvalues : args.atMost n = .ok values)
    (h : Misses (optional values place read)) : args.Lacks :=
  Arguments.lacks_of_atMost hvalues (undefined_of_optional hread h)

theorem lacks_of_required {args : Arguments} {n : Nat} {values : List Value}
    (hread : ∀ v, Misses (read v) → v.isUndefined = true) (hvalues : args.atMost n = .ok values)
    (h : Misses (required values place read)) : args.Lacks :=
  Arguments.lacks_of_atMost hvalues (undefined_of_required hread h)

theorem lacks_of_option {args : Arguments} {name : String}
    (hread : ∀ v, Misses (read v) → v.isUndefined = true)
    (h : Misses (option args.named name read)) : args.Lacks := by
  obtain ⟨v, hv, hundefined⟩ := undefined_of_optional hread h
  have hnamed : args.named.lookup name = some v := Option.mem_toList.mp hv
  exact ⟨v, List.mem_append_right _ (List.mem_map.mpr ⟨_, mem_of_lookup hnamed, rfl⟩), hundefined⟩

theorem mem_of_required {v : Value} (h : required args place .ok = .ok v) : v ∈ args := by
  unfold required at h
  split at h
  · cases h
  · rename_i w hplace
    cases h
    exact List.mem_of_getElem? hplace

end Reading

variable {v : Value} {args : Arguments}

theorem undefined_of_pieces {values : List Value} (h : Misses (v.pieces values)) :
    v.isUndefined = true ∨ ∃ w ∈ values, w.isUndefined = true := by
  simp only [pieces, misses_bind, misses_string, not_misses_pure, and_false, exists_false,
    or_false] at h
  rcases h with h | ⟨_, -, h | ⟨_, -, h⟩⟩
  · exact .inl h
  · exact .inr (undefined_of_optional (fun _ => misses_string.mp) h)
  · exact .inr (undefined_of_optional (fun _ h => absurd h not_misses_whole) h)

theorem undefined_of_sorted (h : Misses (v.sorted args)) : v.isUndefined = true ∨ args.Lacks := by
  have hboolean : ∀ v : Value, Misses v.boolean → v.isUndefined = true :=
    fun _ h => absurd h not_misses_boolean
  simp only [sorted, misses_bind, misses_iterated] at h
  rcases h with h | ⟨_, -, h⟩
  · exact .inl h
  · split at h
    · simp at h
    · simp only [misses_bind, not_misses_pure, and_false, exists_false, or_false] at h
      rcases h with h | ⟨_, -, h | ⟨_, -, h⟩⟩
      · exact .inr (lacks_of_option hboolean h)
      · exact .inr (lacks_of_option (fun _ => misses_string.mp) h)
      · exact .inr (lacks_of_option hboolean h)

/-- A value in place of another one has to exist, but not the other one. -/
theorem undefined_of_orElse {values : List Value} (h : Misses (v.orElse values)) :
    ∃ w ∈ values, w.isUndefined = true := by
  simp only [orElse, misses_bind] at h
  rcases h with h | ⟨_, -, h | ⟨_, -, h⟩⟩
  · exact undefined_of_optional (fun w h => absurd h (not_misses_ok w)) h
  · exact undefined_of_optional (fun _ h => absurd h not_misses_boolean) h
  · split at h <;> simp at h

end Value

@[simp]
theorem misses_partOf {v : Value} {part : Value → Value} :
    Misses (partOf v part) ↔ v.isUndefined = true := by simp [partOf]

@[simp]
theorem not_misses_bound {v : Value} : ¬ Misses v.bound := by
  unfold Value.bound
  grind [not_misses_ok, not_misses_refused]

theorem Value.undefined_of_sliced {v start stop step : Value}
    (h : Misses (v.sliced start stop step)) : v = .undefined := by
  by_contra hv
  simp only [Value.sliced, misses_bind] at h
  grind [not_misses_ok, not_misses_pure, not_misses_refused, not_misses_bound]

@[simp]
theorem misses_isIn {v container : Value} : Misses (isIn v container) ↔ container = .undefined := by
  cases container <;> simp [isIn]

@[simp]
theorem misses_bounded {v : Value} : Misses (bounded v) ↔ v.isUndefined = true := by
  have hnumber : ∀ n : Int, ¬ Misses
      (if 0 ≤ n ∧ n < twoTo 32 then .ok n.toNat else refused : Except FieldError Nat) := by
    intro n
    split <;> simp
  simp [bounded, hnumber]

@[simp]
theorem not_misses_numberRange {low high step : Nat} : ¬ Misses (numberRange low high step) := by
  unfold numberRange
  grind [not_misses_ok, not_misses_refused]

/-! ## Operations -/

section Operations

open Value Arguments

variable {name : String} {v w : Value} {args : Arguments}

theorem UnaryOp.undefined_of_apply {op : UnaryOp} (h : Misses (op.apply v)) :
    op = .not ∧ v.isUndefined = true := by
  cases op with
  | not =>
    have hv : v = .undefined := by simpa [UnaryOp.apply] using h
    exact ⟨rfl, hv ▸ rfl⟩
  | negate => exact absurd h not_misses_negate

/-- What an operator between two operands asks for. The left one decides `and` and `or`. -/
def BinaryOp.asked (op : BinaryOp) (left right : α) : List α :=
  match op with
  | or => [left]
  | and => [left]
  | within => [right]
  | join => [left, right]
  | _ => []

theorem BinaryOp.asked_cases {op : BinaryOp} {a b x : α} (h : x ∈ op.asked a b) :
    x = a ∧ (∀ c d : β, c ∈ op.asked c d) ∨ x = b ∧ ∀ c d : β, d ∈ op.asked c d := by
  cases op <;> simp_all [asked]

theorem BinaryOp.undefined_of_apply {op : BinaryOp} (h : Misses (op.apply v w)) :
    ∃ u ∈ op.asked v w, u.isUndefined = true := by
  cases op with
  | within =>
    have hw : w = .undefined := by
      cases w <;> simp_all [BinaryOp.apply, contains]
    exact ⟨w, List.mem_singleton_self w, hw ▸ rfl⟩
  | join =>
    cases v <;> cases w <;> simp_all [BinaryOp.apply, Value.join, asked, isUndefined]
  | _ => simp [BinaryOp.apply] at h

/-- Whether a filter asks for its subject. -/
def asksForSubject (filter : String) : Bool := filter != "default" && filter != "d"

/-- A filter fails for a missing value only if its subject or an argument does not exist. -/
theorem undefined_of_filter (h : Misses (applyFilter name v args)) :
    asksForSubject name = true ∧ v.isUndefined = true ∨ args.Lacks := by
  have htext : ∀ v : Value, Misses v.presentText → v.isUndefined = true :=
    fun _ => misses_presentText.mp
  have hnever : ∀ (α : Type) (read : Value → Except FieldError α), (∀ v, ¬ Misses (read v)) →
      ∀ v, Misses (read v) → v.isUndefined = true := fun _ _ hread v h => absurd h (hread v)
  unfold applyFilter at h
  split at h
  case h_2 =>
    -- The format of dates is read before the date.
    simp only [misses_bind, not_misses_atMost, false_or, misses_ofField] at h
    obtain ⟨values, hvalues, h | ⟨-, -, h⟩⟩ := h
    · exact .inr (lacks_of_optional (hnever _ _ fun v => not_misses_ok v.text) hvalues h)
    · exact .inl ⟨rfl, h⟩
  case h_8 =>
    simp only [misses_bind, misses_presentText, not_misses_atMost, false_or, not_misses_pure,
      and_false, exists_false, or_false] at h
    rcases h with h | ⟨-, -, values, hvalues, h | ⟨-, -, h⟩⟩
    · exact .inl ⟨rfl, h⟩
    · exact .inr (lacks_of_required htext hvalues h)
    · exact .inr (lacks_of_required htext hvalues h)
  case h_16 =>
    simp only [misses_bind, misses_present, not_misses_atMost, false_or] at h
    rcases h with h | ⟨w, hw, values, hvalues, h⟩
    · exact .inl ⟨rfl, h⟩
    · obtain ⟨hv, rfl⟩ := present_eq_ok.mp hw
      rcases undefined_of_pieces h with h | h
      · exact .inl ⟨rfl, h⟩
      · exact .inr (lacks_of_atMost hvalues h)
  case h_17 =>
    simp only [misses_bind, misses_present, not_misses_atMost, false_or, misses_joined] at h
    rcases h with h | ⟨w, hw, values, hvalues, h | ⟨-, -, h⟩⟩
    · exact .inl ⟨rfl, h⟩
    · exact .inr (lacks_of_optional htext hvalues h)
    · exact .inl ⟨rfl, (present_eq_ok.mp hw).2 ▸ h⟩
  case h_20 =>
    simp only [misses_bind, misses_present, not_misses_atMost, false_or, misses_rounded] at h
    rcases h with h | ⟨w, hw, values, hvalues, h | ⟨-, -, h⟩⟩
    · exact .inl ⟨rfl, h⟩
    · exact .inr (lacks_of_optional (hnever _ _ fun _ => not_misses_whole) hvalues h)
    · exact .inl ⟨rfl, (present_eq_ok.mp hw).2 ▸ h⟩
  case h_22 => exact (undefined_of_sorted h).imp_left fun hv => ⟨rfl, hv⟩
  case h_26 => simp [misses_error] at h
  case h_9 | h_10 =>
    simp only [misses_bind, not_misses_atMost, false_or] at h
    obtain ⟨values, hvalues, h⟩ := h
    exact .inr (lacks_of_atMost hvalues (undefined_of_orElse h))
  -- The other filters have no arguments.
  all_goals exact .inl ⟨rfl, by simp_all⟩

/-- The comparisons ask for nothing. -/
theorem asked_of_comparison? {op : BinaryOp} (h : comparison? name = some op) :
    op.asked v w = [] := by
  unfold comparison? at h
  split at h <;> cases h <;> rfl

/-- A test fails for a missing value only if its subject or an argument does not exist. The test of
being in a container only asks for the container. -/
theorem undefined_of_test (h : Misses (applyTest name v args)) :
    name ≠ "in" ∧ v.isUndefined = true ∨ args.Lacks := by
  have hany : ∀ v : Value, Misses (.ok v : Except FieldError Value) → v.isUndefined = true :=
    fun v h => absurd h (not_misses_ok v)
  have htext : ∀ v : Value, Misses v.presentText → v.isUndefined = true :=
    fun _ => misses_presentText.mp
  unfold applyTest at h
  split at h
  · simp at h
  split at h
  case h_1 op hop =>
    simp only [misses_bind, not_misses_atMost, false_or] at h
    obtain ⟨values, hvalues, h | ⟨w, -, h⟩⟩ := h
    · exact .inr (lacks_of_required hany hvalues h)
    · have hasked := BinaryOp.undefined_of_apply h
      rw [asked_of_comparison? hop] at hasked
      simp at hasked
  split at h
  case h_1 =>
    simp only [misses_bind, not_misses_atMost, false_or, not_misses_pure, and_false, exists_false,
      or_false] at h
    obtain ⟨values, hvalues, h | ⟨container, hcontainer, h⟩⟩ := h
    · exact .inr (lacks_of_required hany hvalues h)
    · exact .inr (lacks_of_atMost hvalues
        ⟨container, mem_of_required hcontainer, misses_isIn.mp h ▸ rfl⟩)
  case h_2 | h_5 =>
    simp only [misses_bind, not_misses_atMost, false_or, not_misses_pure, and_false, exists_false,
      or_false] at h
    obtain ⟨values, hvalues, h⟩ := h
    exact .inr (lacks_of_required hany hvalues h)
  case h_6 | h_7 =>
    simp only [misses_bind, misses_presentText, not_misses_atMost, false_or, not_misses_pure,
      and_false, exists_false, or_false] at h
    rcases h with h | ⟨-, -, values, hvalues, h⟩
    · exact .inl ⟨by simp, h⟩
    · exact .inr (lacks_of_required htext hvalues h)
  case h_3 | h_4 => exact .inl ⟨by simp, by simp_all⟩
  case h_8 => exact absurd h not_misses_refused

/-- A function fails for a missing value only if an argument does not exist. -/
theorem undefined_of_function (h : Misses (callFunction name args)) : args.Lacks := by
  have hbounded : ∀ v : Value, Misses (bounded v) → v.isUndefined = true :=
    fun _ => misses_bounded.mp
  unfold callFunction at h
  split at h
  · simp only [misses_bind, not_misses_atMost, false_or] at h
    obtain ⟨values, hvalues, h | ⟨first, -, h | ⟨second, -, h | ⟨step, -, h⟩⟩⟩⟩ := h
    · exact lacks_of_required hbounded hvalues h
    · exact lacks_of_optional hbounded hvalues h
    · exact lacks_of_optional hbounded hvalues h
    · split at h <;> exact absurd h not_misses_numberRange
  · simp at h

end Operations

end Dossier.Template
