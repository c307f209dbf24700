import Dossier.Proofs.Json.Compact

/-!
# Reading texts with lines

The text of a JSON value with a line for each element and member is read as the value, just as its
compact text is.

* `spells_prettyChars` : a value is read from its text at any level;
* `read?_pretty` : a whole text.
-/

namespace Dossier.Json

theorem isJsonBlank_of_mem_newline {level : Nat} : ∀ c ∈ newline level, isJsonBlank c = true := by
  intro c hc
  rcases List.mem_cons.mp hc with rfl | hc
  · rfl
  · obtain rfl := List.eq_of_mem_replicate hc
    rfl

/-- The text of an element at a level, on a line of its own. -/
def prettyElement (level : Nat) (j : Json) : List Char := newline level ++ prettyChars level j

/-- The text of a member at a level, on a line of its own. -/
def prettyMember (level : Nat) (m : String × Json) : List Char :=
  newline level ++ (quote m.1.toList ++ ':' :: ' ' :: prettyChars level m.2)

theorem prettyElements_eq (level : Nat) (elements : List Json) :
    prettyElements level elements = joined (elements.map (prettyElement level)) := by
  induction elements with
  | nil => rfl
  | cons j others ih =>
    cases others with
    | nil => rfl
    | cons k others =>
      rw [List.map_cons, List.map_cons, joined_cons, ← List.map_cons, ← ih]
      simp [prettyElements, prettyElement]

theorem prettyMembers_eq (level : Nat) (members : List (String × Json)) :
    prettyMembers level members = joined (members.map (prettyMember level)) := by
  induction members with
  | nil => rfl
  | cons m others ih =>
    cases others with
    | nil => simp [prettyMembers, prettyMember, joined]
    | cons k others =>
      rw [List.map_cons, List.map_cons, joined_cons, ← List.map_cons, ← ih]
      simp [prettyMembers, prettyMember]

/-- Values are read from their texts with lines. -/
theorem spells_prettyChars {j : Json} (h : j.Within ReadsBack) (level : Nat) :
    Spells (prettyChars level j) j := by
  have hnone : ∀ c ∈ ([] : List Char), isJsonBlank c = true := by simp
  induction j using Json.induction generalizing level with
  | null => exact spells_null
  | bool b =>
    cases b with
    | true => exact spells_true
    | false => exact spells_false
  | int n => exact spells_int h.1 h.2
  | float x => exact .of_number h rfl
  | str s => exact spells_str s
  | arr elements ih =>
    cases elements with
    | nil =>
      have hall : ∀ j ∈ ([] : List Json), Spells (prettyElement level j) j := by simp
      exact spells_arr hnone hall
    | cons j others =>
      rw [prettyChars, prettyElements_eq, List.append_assoc]
      · exact spells_arr isJsonBlank_of_mem_newline fun k hk =>
          (ih k hk (withinAll_iff.mp h k hk) (level + 1)).behind isJsonBlank_of_mem_newline
      · simp
  | obj members ih =>
    cases members with
    | nil =>
      have hall : ∀ m ∈ ([] : List (String × Json)), SpellsMember (prettyMember level m) m := by
        simp
      exact spells_obj hnone hall
    | cons m others =>
      rw [prettyChars, prettyMembers_eq, List.append_assoc]
      · refine spells_obj isJsonBlank_of_mem_newline fun k hk =>
          ⟨_, _, rfl, isJsonBlank_of_mem_newline, ?_⟩
        have hvalue := ih k hk (withinMembers_iff.mp h k hk) (level + 1)
        exact hvalue.behind (List.forall_mem_singleton.mpr rfl)
      · simp

/-- A value is read from its text with lines if it is not nested too deep, and else the text cannot
be read. -/
theorem readWith?_pretty {j : Json} (h : j.Within ReadsBack)
    {readKey : List Char → Option (List Char × List Char)} (hkeys : ReadsKeys readKey) :
    readWith? readKey j.pretty = if j.depth < nestingLimit then some j else none :=
  (spells_prettyChars h 0).readWith? hkeys

theorem read?_pretty {j : Json} (h : j.Within ReadsBack) :
    read? j.pretty = if j.depth < nestingLimit then some j else none :=
  readWith?_pretty h readString_quote

end Dossier.Json
