import Dossier.Proofs.Template.Variable
import Dossier.Proofs.Wire.Record

/-!
# Templates that are a filtered variable

The templates that output a variable after a filter, which may have a string for its argument.

* `filteredOf`, `stringOf` : the texts of such templates, and strings in them;
* `scan_filtered`, `scanTag_stringOf` : their tokens;
* `read_filtered`, `read_filteredWith` : they are read as such;
* `exists_of_parseMonetary`, `exists_of_parseDate` : the values of the filters of fields;
* `OutputsFilter` : the templates that output what a filter gives.
-/

namespace Dossier.Template

/-- The text of the template that outputs a variable after a filter. -/
def filteredOf (name filter : String) : String :=
  "\x7b\x7b " ++ name ++ " | " ++ filter ++ " \x7d\x7d"

/-- A text with a backslash in front of each quotation mark and each backslash. -/
def escapedText (s : List Char) : List Char :=
  s.flatMap fun c => if c = '"' ∨ c = '\\' then ['\\', c] else [c]

/-- A text as a string of a template. -/
def stringOf (s : String) : String := String.ofList ('"' :: (escapedText s.toList ++ ['"']))

/-! ## Tokens -/

namespace Token

/-! ### Strings -/

/-- The text of a string goes up to the first quotation mark that is not escaped. -/
theorem spanString_escapedText (s rest : List Char) :
    spanString '"' (escapedText s ++ '"' :: rest) = some (escapedText s, rest) := by
  induction s with
  | nil => simp [escapedText, spanString]
  | cons c s ih =>
    unfold escapedText at ih ⊢
    rw [List.flatMap_cons, List.append_assoc]
    by_cases hc : c = '"' ∨ c = '\\'
    · simp [hc, spanString, ih]
    · obtain ⟨hquote, hslash⟩ := not_or.mp hc
      simp [spanString, hquote, hslash, ih]

theorem unescape_escapedText (s : List Char) : unescape (escapedText s) = some s := by
  induction s with
  | nil => simp [escapedText, unescape]
  | cons c s ih =>
    unfold escapedText at ih ⊢
    rw [List.flatMap_cons]
    by_cases hquote : c = '"'
    · subst hquote
      simp [unescape, ih, escaped?, Json.simpleEscape?]
    · by_cases hslash : c = '\\'
      · subst hslash
        simp [unescape, ih, escaped?, Json.simpleEscape?]
      · simp [unescape, hquote, hslash, ih]

/-- A string inside a tag is a token with its text. -/
theorem scanTag_stringOf (s : String) (fuel : Nat) (depth : Int) (rest : List Char) :
    scanTag (fuel + 1) .output depth ((stringOf s).toList ++ rest) =
      str s :: scanTag fuel .output depth rest := by
  have hstring : scanString '"' (escapedText s.toList ++ '"' :: rest) = (str s, rest) := by
    simp only [scanString, spanString_escapedText, unescape_escapedText, String.ofList_toList]
  have hopen : (if depth = 0 then
      closed? .output ('"' :: (escapedText s.toList ++ '"' :: rest)) else none) = none := by
    have hclosed : closed? .output ('"' :: (escapedText s.toList ++ '"' :: rest)) = none := by
      -- A quotation mark is none of the characters that a tag can end with.
      unfold closed?
      split
      · simp_all
      · simp_all
      · rename_i heq
        obtain ⟨rfl, -⟩ := List.cons.inj heq
        rfl
      · rfl
    rw [hclosed, ite_self]
  have htext : (stringOf s).toList ++ rest =
      '"' :: (escapedText s.toList ++ '"' :: rest) := by simp [stringOf]
  rw [htext, scanTag, List.dropWhile_cons_of_neg (by decide)]
  simp only [hopen, scanToken, show startsName '"' = false by decide,
    show '"'.isDigit = false by decide, hstring, Bool.false_eq_true, if_false, true_or, if_true,
    Int.add_zero]

/-! ### Symbols -/

theorem scanTag_bar (fuel : Nat) (rest : List Char) :
    scanTag (fuel + 1) .output 0 ('|' :: ' ' :: rest) =
      symbol "|" :: scanTag fuel .output 0 (' ' :: rest) := rfl

theorem scanTag_opening (fuel : Nat) (rest : List Char) :
    scanTag (fuel + 1) .output 0 ('(' :: '"' :: rest) =
      symbol "(" :: scanTag fuel .output 1 ('"' :: rest) := rfl

theorem scanTag_closingBracket (fuel : Nat) (rest : List Char) :
    scanTag (fuel + 1) .output 1 (')' :: ' ' :: rest) =
      symbol ")" :: scanTag fuel .output 0 (' ' :: rest) := rfl

/-! ### Templates -/

/-- The tokens of the template that outputs a variable after a filter, from those of the filter. -/
theorem scan_filtered {name filter : String} (hname : isName name = true) {ts : List Token}
    (hfilter : ∀ fuel,
      scanTag (fuel + 6) .output 0 (filter.toList ++ [' ', '}', '}']) = ts) :
    scan (filteredOf name filter).toList =
      outputStart :: .name name :: .symbol "|" :: ts := by
  have htext : (filteredOf name filter).toList =
      '{' :: '{' :: ' ' :: (name.toList ++
        ' ' :: (('|' :: ' ' :: (filter.toList ++ [' '])) ++ ['}', '}'])) := by simp [filteredOf]
  obtain ⟨fuel, hscan⟩ := scan_name hname _ htext
  rw [hscan, List.cons_append, List.cons_append, scanTag_bar, scanTag_blank rfl, List.append_assoc]
  exact congrArg (outputStart :: .name name :: .symbol "|" :: ·) (hfilter (fuel + 2))

/-- The tokens of a filter without arguments, at the end of a template. -/
theorem scanTag_filter {filter : String} (hfilter : isName filter = true) (fuel : Nat) :
    scanTag (fuel + 6) .output 0 (filter.toList ++ [' ', '}', '}']) =
      [.name filter, outputEnd] := by
  rw [scanTag_name hfilter rfl, scanTag_blank rfl, scanTag_closing]

/-- The tokens of a filter with a string for an argument, at the end of a template. -/
theorem scanTag_filterWith {filter : String} (hfilter : isName filter = true) (s : String)
    (fuel : Nat) :
    scanTag (fuel + 6) .output 0 ((filter ++ "(" ++ stringOf s ++ ")").toList ++ [' ', '}', '}']) =
      [.name filter, .symbol "(", .str s, .symbol ")", outputEnd] := by
  have htext : (filter ++ "(" ++ stringOf s ++ ")").toList ++ [' ', '}', '}'] =
      filter.toList ++ '(' :: ((stringOf s).toList ++ [')', ' ', '}', '}']) := by simp
  have hquote : (stringOf s).toList ++ [')', ' ', '}', '}'] =
      '"' :: (escapedText s.toList ++ '"' :: [')', ' ', '}', '}']) := by simp [stringOf]
  rw [htext, scanTag_name hfilter rfl, hquote, scanTag_opening, ← hquote, scanTag_stringOf,
    scanTag_closingBracket, scanTag_blank rfl, scanTag_closing]

end Token

/-! ## Reading -/

theorem ends_closingBracket (ts : List Token) : Ends (.symbol ")" :: ts) := ⟨fun _ => rfl, rfl⟩

theorem readSigned_str (s : String) (fuel : Nat) (ts : List Token) :
    readSigned (fuel + 3) (.str s :: .symbol ")" :: ts) =
      .ok (.const (.str s), .symbol ")" :: ts) := rfl

/-- A string as the only argument. -/
theorem readArguments_str (s : String) (fuel : Nat) (ts : List Token) :
    readArguments (fuel + 15) (.str s :: .symbol ")" :: ts) =
      .ok ([(none, .const (.str s))], ts) := by
  have hfull : readFull (fuel + 3 + 10) (.str s :: .symbol ")" :: ts) =
      .ok (.const (.str s), .symbol ")" :: ts) :=
    readFull_of_readSigned (ends_closingBracket ts) rfl (fun fuel => readSigned_str s fuel ts) fuel
  have hargument : readArgument (fuel + 14) false (.str s :: .symbol ")" :: ts) =
      .ok ((none, .const (.str s)), .symbol ")" :: ts) := by
    rw [readArgument, hfull]
    rfl
  rw [readArguments, hargument]
  rfl

/-- A filter with a string for its only argument, at the end of a tag. -/
theorem readFilters_str (e : Expr) (filter s : String) (fuel : Nat) (ts : List Token) :
    readFilters (fuel + 16) e (.symbol "|" :: .name filter :: .symbol "(" :: .str s ::
        .symbol ")" :: .outputEnd :: ts) =
      .ok (.filter filter e [(none, .const (.str s))], .outputEnd :: ts) := by
  rw [readFilters]
  show (readArguments (fuel + 15) (.str s :: .symbol ")" :: .outputEnd :: ts) >>= fun r =>
    readFilters (fuel + 15) (.filter filter e r.1) r.2) = _
  rw [readArguments_str]
  rfl

section Filters

variable {name filter : String} (hname : name ∉ keywords)

include hname

theorem readSigned_filter (fuel : Nat) (ts : List Token) :
    readSigned (fuel + 4) (.name name :: .symbol "|" :: .name filter :: .outputEnd :: ts) =
      .ok (.filter filter (.var name) [], .outputEnd :: ts) := by
  rw [readSigned, readSign_name hname]
  rfl

theorem readSigned_filterWith (s : String) (fuel : Nat) (ts : List Token) :
    readSigned (fuel + 17) (.name name :: .symbol "|" :: .name filter :: .symbol "(" :: .str s ::
        .symbol ")" :: .outputEnd :: ts) =
      .ok (.filter filter (.var name) [(none, .const (.str s))], .outputEnd :: ts) := by
  rw [readSigned, readSign_name hname]
  exact readFilters_str (.var name) filter s fuel ts

end Filters

/-- The template that outputs a variable after a filter is read as such. -/
theorem read_filtered {name filter : String} (hname : isName name = true) (hword : name ∉ keywords)
    (hfilter : isName filter = true) :
    Template.read (filteredOf name filter) = .ok ⟨[.output (.filter filter (.var name) [])]⟩ := by
  refine read_of_readExpr (Token.scan_filtered hname (Token.scanTag_filter hfilter)) ?_
  refine readExpr_of_readSigned (ends_outputEnd []) (atWord_not_name hword _)
    (fun fuel => readSigned_filter hword fuel []) ?_
  simp [readingFuel]

/-- The same with a string for the argument of the filter. -/
theorem read_filteredWith {name filter : String} (hname : isName name = true)
    (hword : name ∉ keywords) (hfilter : isName filter = true) (s : String) :
    Template.read (filteredOf name (filter ++ "(" ++ stringOf s ++ ")")) =
      .ok ⟨[.output (.filter filter (.var name) [(none, .const (.str s))])]⟩ := by
  refine read_of_readExpr (Token.scan_filtered hname (Token.scanTag_filterWith hfilter s)) ?_
  refine readExpr_of_readSigned (ends_outputEnd []) (atWord_not_name hword _)
    (fun fuel => readSigned_filterWith hword s fuel []) ?_
  simp [readingFuel]

/-! ## Values -/

section Values

variable {v w : Value} {args : Arguments}

theorem eq_of_present (h : v.present = .ok w) : v = w := by
  unfold Value.present at h
  split at h
  · cases h
  · exact Except.ok.inj h

/-- A filter of fields gives the text that it makes of the text of a value. -/
theorem exists_of_ofField {f : Filter} (h : Value.ofField f v = .ok w) :
    ∃ s, f.apply v.text = .ok s ∧ w = .str s := by
  obtain ⟨_, hpresent, hrest⟩ := Decoded.bind_eq_ok.mp h
  obtain rfl := eq_of_present hpresent
  obtain ⟨s, hs, htext⟩ := Decoded.bind_eq_ok.mp hrest
  exact ⟨s, hs, (Except.ok.inj htext).symm⟩

theorem exists_of_parseMonetary (h : applyFilter "parse_monetary" v args = .ok w) :
    ∃ s, Filter.parseMonetary.apply v.text = .ok s ∧ w = .str s := by
  obtain ⟨_, -, h⟩ := Decoded.bind_eq_ok.mp h
  exact exists_of_ofField h

theorem exists_of_parseDate (h : applyFilter "parse_date" v args = .ok w) :
    ∃ format s, (Filter.parseDate format).apply v.text = .ok s ∧ w = .str s := by
  obtain ⟨_, -, h⟩ := Decoded.bind_eq_ok.mp h
  obtain ⟨format, -, h⟩ := Decoded.bind_eq_ok.mp h
  exact ⟨format, exists_of_ofField h⟩

end Values

/-- The template outputs what a filter gives. -/
def OutputsFilter (text filter : String) : Prop :=
  ∃ e args, Template.read text = .ok ⟨[.output (.filter filter e args)]⟩

/-- Such a template renders to the text of what the filter makes of some value. -/
theorem OutputsFilter.exists_applyFilter {text filter value : String} {c : Context}
    (hfilter : OutputsFilter text filter) (h : renderText text c = .ok value) :
    ∃ v args w, applyFilter filter v args = .ok w ∧ w.text = value := by
  obtain ⟨e, args, hread⟩ := hfilter
  obtain ⟨w, hw, -, htext⟩ := (renderText_eq_ok_iff hread).mp h
  rw [Expr.value] at hw
  obtain ⟨v, -, hrest⟩ := Decoded.bind_eq_ok.mp hw
  obtain ⟨values, -, happly⟩ := Decoded.bind_eq_ok.mp hrest
  exact ⟨v, .ofList values, w, happly, htext⟩

end Dossier.Template
