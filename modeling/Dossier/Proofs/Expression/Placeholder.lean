import Dossier.Proofs.Expression.Signs

/-!
# Placeholders of simple expressions

The text between two angle brackets is a name, a kind and the arguments of the kind, with colons
between them. What is required of it can be said without the order in which it is looked at; what is
reported when something is missing depends on that order.

* `fieldsIn`, `kindIn`, `argumentsIn` : the parts of the text between the brackets;
* `Acceptable` : what is required of them, given the names used before;
* `placeholderFault?` : the first fault; there is none if the placeholder can be used
  (`placeholderFault?_eq_none`);
* `readPlaceholder_eq` : the reader gives the placeholder that is asked for, or its first fault.
-/

namespace Dossier

/-! ## What a placeholder asks for -/

/-- What stands between the colons of the text between two brackets. -/
def fieldsIn (body : List Char) : List (List Char) := (Text.trim body).splitOn ':'

/-- The kind in the text between two brackets, in lower case. -/
def kindIn (body : List Char) : String := lowercased (String.ofList ((fieldsIn body).getD 1 []))

/-- The arguments in the text between two brackets. -/
def argumentsIn (body : List Char) : List String := ((fieldsIn body).drop 2).map String.ofList

/-- What a placeholder captures, by its kind and arguments, both in lower case. -/
def captureFor? (kind : String) (arguments : List String) : Option Capture :=
  if kind = "word" ∧ arguments = [] then some .word
  else if kind ∈ ["int", "integer"] ∧ arguments = [] then some .int
  else if kind ∈ ["number", "decimal"] ∧ arguments ∈ [[], ["dot"]] then some (.number .dot)
  else if kind ∈ ["number", "decimal"] ∧ arguments = ["comma"] then some (.number .comma)
  else none

/-- What the placeholder with a text between its brackets captures. -/
def captureIn? (body : List Char) : Option Capture :=
  captureFor? (kindIn body) ((argumentsIn body).map lowercased)

/-- A placeholder that can be used: it has a name of its own, a kind, and arguments that the kind
takes. -/
structure Acceptable (used : List String) (body : List Char) : Prop where
  fields : 2 ≤ (fieldsIn body).length
  name : isPlaceholderName (nameIn body).toList = true
  fresh : nameIn body ∉ used
  capture : (captureIn? body).isSome = true

/-- The first fault of a kind and its arguments. -/
def kindFault? (kind : String) (arguments : List String) : Option ExpressionError :=
  if kind ∉ ["word", "int", "integer", "number", "decimal"] then some (.unknownKind kind)
  else if kind ∉ ["number", "decimal"] ∧ arguments ≠ [] then
    some (.invalidArgument kind .takesNone)
  else if 1 < arguments.length then some (.invalidArgument kind (.tooMany arguments.length))
  else if ∃ argument ∈ arguments, lowercased argument ∉ ["dot", "comma"] then
    some (.invalidArgument kind (.unknownSign (arguments.headD "")))
  else none

/-- The first fault of a placeholder. -/
def placeholderFault? (used : List String) (body : List Char) : Option ExpressionError :=
  if (fieldsIn body).length < 2 then some (.missingKind (String.ofList (Text.trim body)))
  else if nameIn body = "" then some (.invalidName (nameIn body) .empty)
  else if isPlaceholderName (nameIn body).toList = false then
    some (.invalidName (nameIn body) .specialCharacters)
  else if nameIn body ∈ used then some (.invalidName (nameIn body) .repeated)
  else kindFault? (kindIn body) (argumentsIn body)

/-! ## Kinds and arguments -/

/-- What a placeholder captures, given its kind and arguments as they are written. -/
def readCapture (kind : String) (arguments : List String) : Except ExpressionError Capture :=
  match CaptureKind.ofName? kind with
  | some k => k.capture (lowercased kind) arguments
  | none => .error (.unknownKind (lowercased kind))

theorem CaptureKind.ofName?_eq (name : String) :
    CaptureKind.ofName? name =
      if lowercased name = "word" then some .word
      else if lowercased name ∈ ["int", "integer"] then some .int
      else if lowercased name ∈ ["number", "decimal"] then some .number
      else none := by
  unfold CaptureKind.ofName?
  split <;> simp_all

theorem DecimalSign.ofName?_eq (name : String) :
    DecimalSign.ofName? name =
      if lowercased name = "dot" then some .dot
      else if lowercased name = "comma" then some .comma
      else none := by
  unfold DecimalSign.ofName?
  split <;> simp_all

section Kinds

variable {kind : String} (arguments : List String)

theorem kindFault?_of_plain (h : kind ∈ ["word", "int", "integer"]) :
    kindFault? kind arguments =
      if arguments = [] then none else some (.invalidArgument kind .takesNone) := by
  simp only [List.mem_cons, List.not_mem_nil, or_false] at h
  cases arguments <;> rcases h with rfl | rfl | rfl <;> simp [kindFault?]

theorem kindFault?_of_number (h : kind ∈ ["number", "decimal"]) :
    kindFault? kind arguments =
      if 1 < arguments.length then some (.invalidArgument kind (.tooMany arguments.length))
      else if ∃ argument ∈ arguments, lowercased argument ∉ ["dot", "comma"] then
        some (.invalidArgument kind (.unknownSign (arguments.headD "")))
      else none := by
  unfold kindFault?
  rw [if_neg, if_neg]
  · exact fun hk => hk.1 h
  · refine fun hk => hk ?_
    simp only [List.mem_cons, List.not_mem_nil, or_false] at h ⊢
    tauto

theorem captureFor?_of_number (h : kind ∈ ["number", "decimal"]) :
    captureFor? kind arguments =
      if arguments ∈ [[], ["dot"]] then some (.number .dot)
      else if arguments = ["comma"] then some (.number .comma)
      else none := by
  unfold captureFor?
  simp only [h, true_and]
  rw [if_neg, if_neg]
  · rintro ⟨hk, -⟩
    rcases List.mem_pair.mp h with rfl | rfl <;> simp at hk
  · rintro ⟨rfl, -⟩
    simp at h

end Kinds

/-- A kind and arguments without a fault capture something. -/
theorem kindFault?_eq_none (kind : String) (arguments : List String) :
    kindFault? kind arguments = none ↔
      (captureFor? kind (arguments.map lowercased)).isSome = true := by
  by_cases hn : kind ∈ ["number", "decimal"]
  · rw [kindFault?_of_number arguments hn, captureFor?_of_number _ hn]
    generalize lowercased = lower
    rcases arguments with _ | ⟨a, _ | ⟨b, rest⟩⟩
    · simp
    · by_cases hd : lower a = "dot" <;> simp [hd]
    · simp
  by_cases hp : kind ∈ ["word", "int", "integer"]
  · rw [kindFault?_of_plain arguments hp]
    unfold captureFor?
    cases arguments with
    | nil =>
      by_cases hw : kind = "word"
      · simp [hw]
      · have hi : kind ∈ ["int", "integer"] := (List.mem_cons.mp hp).resolve_left hw
        simp [hw, hi]
    | cons a rest => simp [hn]
  · unfold kindFault? captureFor?
    simp_all

/-- A number takes one argument at most, and this one has to name a decimal sign. -/
theorem CaptureKind.capture_number (name : String) (arguments : List String) :
    CaptureKind.number.capture name arguments =
      if 1 < arguments.length then .error (.invalidArgument name (.tooMany arguments.length))
      else if ∃ argument ∈ arguments, lowercased argument ∉ ["dot", "comma"] then
        .error (.invalidArgument name (.unknownSign (arguments.headD "")))
      else if arguments.map lowercased = ["comma"] then .ok (.number .comma)
      else .ok (.number .dot) := by
  rcases arguments with _ | ⟨a, _ | ⟨b, rest⟩⟩
  · rfl
  · have hsign := DecimalSign.ofName?_eq a
    simp only [CaptureKind.capture]
    generalize lowercased = lower at hsign ⊢
    by_cases hd : lower a = "dot"
    · rw [if_pos hd] at hsign
      simp [hsign, hd]
    by_cases hc : lower a = "comma"
    · rw [if_neg hd, if_pos hc] at hsign
      simp [hsign, hc]
    · rw [if_neg hd, if_neg hc] at hsign
      simp [hsign, hd, hc]
  · simp [CaptureKind.capture]

/-- The kind and the arguments of a placeholder are read, or their first fault is reported. -/
theorem readCapture_eq (kind : String) (arguments : List String) :
    readCapture kind arguments =
      (kindFault? (lowercased kind) arguments).elim
        (.ok ((captureFor? (lowercased kind) (arguments.map lowercased)).getD .word)) .error := by
  unfold readCapture
  rw [CaptureKind.ofName?_eq]
  by_cases hn : lowercased kind ∈ ["number", "decimal"]
  · have hw : lowercased kind ≠ "word" := by
      rintro h
      simp [h] at hn
    have hi : lowercased kind ∉ ["int", "integer"] := by
      rcases List.mem_pair.mp hn with h | h <;> simp [h]
    rw [if_neg hw, if_neg hi, if_pos hn, kindFault?_of_number _ hn, captureFor?_of_number _ hn]
    simp only [CaptureKind.capture_number]
    generalize lowercased = lower
    rcases arguments with _ | ⟨a, _ | ⟨b, rest⟩⟩
    · simp
    · by_cases hd : lower a = "dot"
      · simp [hd]
      by_cases hc : lower a = "comma" <;> simp [hd, hc]
    · simp
  by_cases hp : lowercased kind ∈ ["word", "int", "integer"]
  · rw [kindFault?_of_plain _ hp]
    unfold captureFor?
    generalize lowercased = lower at *
    by_cases hw : lower kind = "word"
    · simp only [hw, if_true]
      cases arguments <;> simp [CaptureKind.capture]
    · have hi : lower kind ∈ ["int", "integer"] := (List.mem_cons.mp hp).resolve_left hw
      simp only [hw, hi, if_true]
      cases arguments <;> simp [CaptureKind.capture]
  · unfold kindFault?
    generalize lowercased = lower at *
    simp_all

/-! ## Placeholders -/

/-- The name stands in front of the first colon. -/
theorem nameIn_eq {body name : List Char} {fields : List (List Char)}
    (h : fieldsIn body = name :: fields) : nameIn body = String.ofList name := by
  have hname := head?_splitColons (Text.trim body)
  rw [splitColons_eq, ← fieldsIn, h, List.head?_cons, Option.some.injEq] at hname
  rw [nameIn, hname]

theorem placeholderFault?_reverse (used : List String) (body : List Char) :
    placeholderFault? used.reverse body = placeholderFault? used body := by
  simp only [placeholderFault?, List.mem_reverse]

/-- A placeholder without a fault can be used. -/
theorem placeholderFault?_eq_none (used : List String) (body : List Char) :
    placeholderFault? used body = none ↔ Acceptable used body := by
  have hcapture : kindFault? (kindIn body) (argumentsIn body) = none ↔
      (captureIn? body).isSome = true := kindFault?_eq_none _ _
  constructor
  · intro h
    simp only [placeholderFault?, ite_eq_iff, reduceCtorEq, and_false, false_or] at h
    obtain ⟨hfields, -, hname, hfresh, hkind⟩ := h
    exact ⟨Nat.le_of_not_lt hfields, by simpa using hname, hfresh, hcapture.mp hkind⟩
  · rintro ⟨hfields, hname, hfresh, hkind⟩
    have hne : nameIn body ≠ "" := by
      intro h
      rw [h] at hname
      cases hname
    unfold placeholderFault?
    rw [if_neg (Nat.not_lt.mpr hfields), if_neg hne, if_neg (by simp [hname]), if_neg hfresh]
    exact hcapture.mpr hkind

/-- The text between two brackets is read, or its first fault is reported. -/
theorem readPlaceholder_eq (used : List String) (body : List Char) :
    readPlaceholder used body =
      (placeholderFault? used body).elim
        (.ok (.placeholder (nameIn body) ((captureIn? body).getD .word))) .error := by
  have hfields : splitColons (Text.trim body) = fieldsIn body := splitColons_eq _
  unfold readPlaceholder
  simp only [hfields]
  rcases h : fieldsIn body with _ | ⟨name, _ | ⟨kind, arguments⟩⟩
  · simp [placeholderFault?, h]
  · simp [placeholderFault?, h]
  have hname := nameIn_eq h
  have hkind : kindIn body = lowercased (String.ofList kind) := by simp [kindIn, h]
  have harguments : argumentsIn body = arguments.map String.ofList := by simp [argumentsIn, h]
  have hcapture := readCapture_eq (String.ofList kind) (arguments.map String.ofList)
  rw [← hkind, ← harguments, ← captureIn?] at hcapture
  unfold placeholderFault?
  rw [h, if_neg (by simp)]
  have hempty : name.isEmpty = true ↔ nameIn body = "" := by simp [hname]
  have hlist : (nameIn body).toList = name := by rw [hname, String.toList_ofList]
  simp only [← hname, ← hkind, ← harguments, hlist]
  by_cases h1 : nameIn body = ""
  · simp [h1, hempty.mpr h1]
  rw [if_neg (fun h => h1 (hempty.mp h)), if_neg h1]
  by_cases h2 : isPlaceholderName name = true
  · by_cases h3 : nameIn body ∈ used
    · simp [h2, h3]
    · simp only [readCapture, ← hkind] at hcapture
      simp only [h2, h3, Bool.not_true, Bool.false_eq_true, if_false, List.contains_eq_mem,
        decide_false, Bool.true_eq_false]
      -- Both sides go by the kind and the arguments now.
      cases hk : CaptureKind.ofName? (String.ofList kind) <;>
        cases hf : kindFault? (kindIn body) (argumentsIn body) <;>
        simp_all [Except.map]
  · simp [h2]

end Dossier
