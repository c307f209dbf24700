import Dossier.Proofs.Json.Spelled

/-!
# Reading compact texts

The compact text of a JSON value is read as the value itself if the value is not nested too deep,
and not at all otherwise. Its integers have to have 64 bits, and the texts of its floating-point
numbers have to be read as these numbers.

* `Json.Within` : integers of 64 bits, and floating-point numbers with a property;
* `spells_compactChars` : a value is read from its compact text;
* `read?_compact` : a whole text.
-/

namespace Dossier

/-! ## Numbers in a value -/

namespace Json

mutual

/-- The integers in a value have 64 bits, with a sign if they are negative, and its floating-point
numbers have a property. -/
def Within (good : Float → Prop) : Json → Prop
  | int n => -(twoTo 63 : Int) ≤ n ∧ n < twoTo 64
  | float x => good x
  | arr elements => WithinAll good elements
  | obj members => WithinMembers good members
  | null => True
  | bool _ => True
  | str _ => True

def WithinAll (good : Float → Prop) : List Json → Prop
  | [] => True
  | j :: rest => j.Within good ∧ WithinAll good rest

def WithinMembers (good : Float → Prop) : List (String × Json) → Prop
  | [] => True
  | (_, j) :: rest => j.Within good ∧ WithinMembers good rest

end

variable {good : Float → Prop}

theorem withinAll_iff {elements : List Json} :
    WithinAll good elements ↔ ∀ j ∈ elements, j.Within good := by
  induction elements with
  | nil => simp [WithinAll]
  | cons j rest ih => rw [WithinAll, ih, List.forall_mem_cons]

theorem withinMembers_iff {members : List (String × Json)} :
    WithinMembers good members ↔ ∀ m ∈ members, m.2.Within good := by
  induction members with
  | nil => simp [WithinMembers]
  | cons m rest ih => rw [WithinMembers, ih, List.forall_mem_cons]

mutual

/-- The floating-point numbers in a value, in their order. -/
def floats : Json → List Float
  | float x => [x]
  | arr elements => floatsOfAll elements
  | obj members => floatsOfMembers members
  | null => []
  | bool _ => []
  | int _ => []
  | str _ => []

def floatsOfAll : List Json → List Float
  | [] => []
  | j :: rest => j.floats ++ floatsOfAll rest

def floatsOfMembers : List (String × Json) → List Float
  | [] => []
  | (_, j) :: rest => j.floats ++ floatsOfMembers rest

end

theorem floatsOfAll_eq (elements : List Json) : floatsOfAll elements = elements.flatMap floats := by
  induction elements with
  | nil => rfl
  | cons j rest ih => rw [floatsOfAll, ih, List.flatMap_cons]

theorem floatsOfMembers_eq (members : List (String × Json)) :
    floatsOfMembers members = members.flatMap fun m => m.2.floats := by
  induction members with
  | nil => rfl
  | cons m rest ih => rw [floatsOfMembers, ih, List.flatMap_cons]

/-- Induction over a value. -/
@[elab_as_elim]
theorem induction {motive : Json → Prop} (null : motive .null) (bool : ∀ b, motive (.bool b))
    (int : ∀ n, motive (.int n)) (float : ∀ x, motive (.float x)) (str : ∀ s, motive (.str s))
    (arr : ∀ elements, (∀ j ∈ elements, motive j) → motive (.arr elements))
    (obj : ∀ members : List (String × Json), (∀ m ∈ members, motive m.2) → motive (.obj members)) :
    ∀ j, motive j
  | .null => null
  | .bool b => bool b
  | .int n => int n
  | .float x => float x
  | .str s => str s
  | .arr elements => arr elements fun j _ => induction null bool int float str arr obj j
  | .obj members => obj members fun (_, j) _ => induction null bool int float str arr obj j
termination_by j => sizeOf j
decreasing_by
  · have := List.sizeOf_lt_of_mem ‹_ ∈ elements›
    simp only [Json.arr.sizeOf_spec]
    omega
  · have := List.sizeOf_lt_of_mem ‹_ ∈ members›
    simp only [Json.obj.sizeOf_spec, Prod.mk.sizeOf_spec] at *
    omega

/-- The numbers in a value have every property that follows for them. -/
theorem Within.imp {other : Float → Prop} {j : Json} (h : j.Within good)
    (himp : ∀ x ∈ j.floats, good x → other x) : j.Within other := by
  induction j using Json.induction with
  | null | bool | str => trivial
  | int n => exact h
  | float x => exact himp x (List.mem_singleton_self x) h
  | arr elements ih =>
    refine withinAll_iff.mpr fun j hj => ih j hj (withinAll_iff.mp h j hj) fun x hx => himp x ?_
    rw [floats, floatsOfAll_eq]
    exact List.mem_flatMap.mpr ⟨j, hj, hx⟩
  | obj members ih =>
    refine withinMembers_iff.mpr fun m hm => ih m hm (withinMembers_iff.mp h m hm) fun x hx =>
      himp x ?_
    rw [floats, floatsOfMembers_eq]
    exact List.mem_flatMap.mpr ⟨m, hm, hx⟩

/-! ## Texts without blanks -/

/-- The text of a floating-point number is read as that number. -/
def ReadsBack (x : Float) : Prop := readNumber (floatText x) = some (float x, [])

theorem compactElements_eq (elements : List Json) :
    compactElements elements = joined (elements.map compactChars) := by
  induction elements with
  | nil => rfl
  | cons j others ih =>
    cases others with
    | nil => rfl
    | cons k others =>
      rw [List.map_cons, List.map_cons, joined_cons, ← List.map_cons, ← ih]
      simp [compactElements]

/-- The text of a member without blanks. -/
def compactMember (m : String × Json) : List Char := quote m.1.toList ++ ':' :: m.2.compactChars

theorem compactMembers_eq (members : List (String × Json)) :
    compactMembers members = joined (members.map compactMember) := by
  induction members with
  | nil => rfl
  | cons m others ih =>
    cases others with
    | nil => rfl
    | cons k others =>
      rw [List.map_cons, List.map_cons, joined_cons, ← List.map_cons, ← ih]
      simp [compactMembers, compactMember]

/-- Values are read from their compact texts. -/
theorem spells_compactChars {j : Json} (h : j.Within ReadsBack) : Spells j.compactChars j := by
  have hnone : ∀ c ∈ ([] : List Char), isJsonBlank c = true := by simp
  induction j using Json.induction with
  | null => exact spells_null
  | bool b =>
    cases b with
    | true => exact spells_true
    | false => exact spells_false
  | int n => exact spells_int h.1 h.2
  | float x => exact .of_number h rfl
  | str s => exact spells_str s
  | arr elements ih =>
    rw [compactChars, compactElements_eq]
    exact spells_arr hnone fun j hj => ih j hj (withinAll_iff.mp h j hj)
  | obj members ih =>
    rw [compactChars, compactMembers_eq]
    exact spells_obj hnone fun m hm =>
      ⟨[], _, rfl, hnone, ih m hm (withinMembers_iff.mp h m hm)⟩

/-- A value is read from its compact text if it is not nested too deep, and else the text cannot be
read. -/
theorem readWith?_compact {j : Json} (h : j.Within ReadsBack)
    {readKey : List Char → Option (List Char × List Char)} (hkeys : ReadsKeys readKey) :
    readWith? readKey j.compact = if j.depth < nestingLimit then some j else none :=
  (spells_compactChars h).readWith? hkeys

theorem read?_compact {j : Json} (h : j.Within ReadsBack) :
    read? j.compact = if j.depth < nestingLimit then some j else none :=
  readWith?_compact h readString_quote

end Json

end Dossier
