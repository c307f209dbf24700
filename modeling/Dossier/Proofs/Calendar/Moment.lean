import Dossier.Proofs.Calendar.Iso
import Dossier.Proofs.Entries

/-!
# Texts of moments

A moment that was read from a text is read again from its own text. A moment that is read has fields
within their bounds, a zone of whole minutes, and a date in universal time.

* `Fields.InBounds` : fields with values within their bounds; only such are read;
* `Moment.Proper` : what holds of every moment that is read (`Moment.proper_of_read`);
* `Moment.read_text` : a proper moment is read from its text.
-/

namespace Dossier

open Calendar

namespace Calendar

/-! ## Fields within their bounds -/

/-- The values of all fields lie within the bounds of the fields. -/
def Fields.InBounds (fs : Fields) : Prop :=
  ∀ p ∈ fs, p.1.bounds.1 ≤ p.2 ∧ p.2 ≤ p.1.bounds.2

section InBounds

variable {fs gs : Fields} {field : Field} {s rest : List Char}

theorem Fields.InBounds.get? {v : Int} (h : fs.InBounds) (hget : fs.get? field = some v) :
    field.bounds.1 ≤ v ∧ v ≤ field.bounds.2 :=
  h (field, v) (mem_of_lookup hget)

theorem Fields.InBounds.put {v : Int} (h : fs.InBounds) (hput : fs.put? field v = some gs) :
    gs.InBounds := by
  unfold Fields.put? at hput
  simp only at hput
  split_ifs at hput with hbounds
  split at hput
  · split_ifs at hput
    cases hput
    exact h
  · cases hput
    exact List.forall_mem_cons.mpr ⟨hbounds, h⟩

theorem Fields.InBounds.putRead {read : Option (Int × List Char)} (h : fs.InBounds)
    (hread : putRead fs field read = some (gs, rest)) : gs.InBounds := by
  obtain ⟨⟨v, t⟩, -, hread⟩ := Option.bind_eq_some_iff.mp hread
  obtain ⟨gs', hput, heq⟩ := Option.map_eq_some_iff.mp hread
  obtain ⟨rfl, -⟩ := Prod.mk.inj heq
  exact h.put hput

/-- A part of a format adds fields within their bounds only. -/
theorem Fields.InBounds.readItem {item : FormatItem} (h : fs.InBounds)
    (hread : readItem fs item s = some (gs, rest)) : gs.InBounds := by
  cases item with
  | literal text =>
    simp only [Calendar.readItem] at hread
    split_ifs at hread
    cases hread
    exact h
  | blanks | zoneName =>
    cases hread
    exact h
  | number | weekdayFromSunday | weekdayFromMonday | monthName | weekdayName | fractionDigits
      | zoneOffset => exact h.putRead hread
  | hour =>
    obtain ⟨⟨hour, t⟩, -, hread⟩ := Option.bind_eq_some_iff.mp hread
    simp only at hread
    split_ifs at hread with hlate hhalf
    all_goals
      obtain ⟨fs', hput, hread⟩ := Option.bind_eq_some_iff.mp hread
      obtain ⟨gs', hput', heq⟩ := Option.map_eq_some_iff.mp hread
      obtain ⟨rfl, -⟩ := Prod.mk.inj heq
      exact (h.put hput).put hput'
  | halfName =>
    simp only [Calendar.readItem] at hread
    split at hread
    · obtain ⟨gs', hput, heq⟩ := Option.map_eq_some_iff.mp hread
      obtain ⟨rfl, -⟩ := Prod.mk.inj heq
      exact h.put hput
    · split at hread
      · obtain ⟨gs', hput, heq⟩ := Option.map_eq_some_iff.mp hread
        obtain ⟨rfl, -⟩ := Prod.mk.inj heq
        exact h.put hput
      · cases hread
  | fraction =>
    simp only [Calendar.readItem] at hread
    split at hread
    · exact h.putRead hread
    · cases hread
      exact h

theorem Fields.InBounds.readItems {items : List FormatItem} (h : fs.InBounds)
    (hread : readItems fs items s = some (gs, rest)) : gs.InBounds := by
  induction items generalizing fs s with
  | nil =>
    cases hread
    exact h
  | cons item items ih =>
    obtain ⟨⟨fs', t⟩, hitem, hread⟩ := Option.bind_eq_some_iff.mp hread
    exact ih (h.readItem hitem) hread

end InBounds

/-! ## Zones -/

/-- A zone that is read has whole minutes. -/
theorem readZone_minutes {optional : Bool} {s rest : List Char} {zone : Int}
    (h : readZone optional s = some (zone, rest)) : (60 : Int) ∣ zone := by
  obtain ⟨⟨sign, s⟩, -, h⟩ := Option.bind_eq_some_iff.mp h
  obtain ⟨⟨hours, s⟩, -, h⟩ := Option.bind_eq_some_iff.mp h
  simp only at h
  split at h
  · split_ifs at h
    cases h
    exact Int.dvd_trans (by omega) (Int.dvd_mul_left sign _)
  · obtain ⟨⟨minutes, s⟩, -, h⟩ := Option.bind_eq_some_iff.mp h
    simp only at h
    split_ifs at h
    cases h
    exact Int.dvd_trans (by omega) (Int.dvd_mul_left sign _)

end Calendar

namespace Moment

/-- What holds of every moment that is read from a text. -/
structure Proper (m : Moment) : Prop where
  hour : m.hour ≤ 23
  minute : m.minute ≤ 59
  second : m.second ≤ 60
  nanosecond : m.nanosecond ≤ 999999999
  zone : m.zone.natAbs < 86400
  wholeMinutes : (60 : Int) ∣ m.zone
  universal : m.universalDate?.isSome = true

theorem proper_of_fields {fs : Fields} {zone : Int} {m : Moment} (hbounds : fs.InBounds)
    (hminutes : (60 : Int) ∣ zone) (h : ofFields? fs zone = some m) : m.Proper := by
  unfold ofFields? at h
  split at h
  · rename_i date half hour minute hdate hhalf hhour hminute
    simp only at h
    split_ifs at h with hkept
    cases h
    have hhalf := hbounds.get? hhalf
    have hhour := hbounds.get? hhour
    have hminute := hbounds.get? hminute
    simp only [Field.bounds] at hhalf hhour hminute
    have hsecond : ((fs.get? .second).getD 0).toNat ≤ 60 := by
      cases hget : fs.get? .second with
      | none => decide
      | some v =>
        have hv := hbounds.get? hget
        simp only [Field.bounds] at hv
        rw [Option.getD_some]
        omega
    have hnanosecond : ((fs.get? .nanosecond).getD 0).toNat ≤ 999999999 := by
      cases hget : fs.get? .nanosecond with
      | none => decide
      | some v =>
        have hv := hbounds.get? hget
        simp only [Field.bounds] at hv
        rw [Option.getD_some]
        omega
    rw [Bool.and_eq_true, decide_eq_true_eq] at hkept
    exact
      { hour := by show (hour % 12 + 12 * half).toNat ≤ 23; omega
        minute := by show minute.toNat ≤ 59; omega
        second := hsecond
        nanosecond := hnanosecond
        zone := hkept.1
        wholeMinutes := hminutes
        universal := hkept.2 }
  · cases h

theorem proper_of_read {s : List Char} {m : Moment} (h : read? s = some m) : m.Proper := by
  obtain ⟨⟨fs, t⟩, hdate, h⟩ := Option.bind_eq_some_iff.mp h
  obtain ⟨t, -, h⟩ := Option.bind_eq_some_iff.mp h
  obtain ⟨⟨gs, t⟩, hclock, h⟩ := Option.bind_eq_some_iff.mp h
  obtain ⟨⟨zone, t⟩, hzone, h⟩ := Option.bind_eq_some_iff.mp h
  simp only at h
  split_ifs at h
  have hempty : Fields.InBounds [] := by simp [Fields.InBounds]
  have hbounds : gs.InBounds := (hempty.readItems hdate).readItems hclock
  refine proper_of_fields hbounds ?_ h
  unfold readZoneOrZulu at hzone
  split at hzone
  · cases hzone
    exact Int.dvd_zero 60
  · split at hzone
    · cases hzone
      exact Int.dvd_zero 60
    · cases hzone
      exact Int.dvd_zero 60
    · exact readZone_minutes hzone

end Moment

/-! ## Parts of the text -/

namespace Calendar

section Parts

variable {fs : Fields} {rest : List Char}

theorem put?_new {field : Field} {v : Int} (hbounds : field.bounds.1 ≤ v ∧ v ≤ field.bounds.2)
    (hnew : fs.lookup field = none) : fs.put? field v = some ((field, v) :: fs) := by
  unfold Fields.put?
  simp only
  rw [if_pos hbounds, hnew]

/-- An hour is read as its half of the day and its number there. -/
theorem readItem_hour {hour : Nat} (hhour : hour ≤ 23) (hhalf : fs.lookup .half = none)
    (hinHalf : fs.lookup .hourOfHalf = none) (hrest : ∀ c ∈ rest.head?, c.isDigit = false) :
    readItem fs .hour (paddedDigits 2 hour ++ rest) =
      some ((.hourOfHalf, if ((hour % 12 : Nat) : Int) = 0 then 12 else ((hour % 12 : Nat) : Int)) ::
        (.half, ((hour / 12 : Nat) : Int)) :: fs, rest) := by
  have hdigits : ∀ c ∈ paddedDigits 2 hour, c.isDigit = true :=
    fun _ => isDigit_of_mem_paddedDigits
  have hlength : (paddedDigits 2 hour).length = 2 := length_paddedDigits (by decide) (by omega)
  have hsmall : (23 : Nat) < twoTo 63 := by decide
  have hread := readDigits_append hdigits (paddedDigits_ne_nil 2 hour) (Nat.le_of_eq hlength)
    (by rw [valueOf_paddedDigits]; omega) hrest
  rw [valueOf_paddedDigits] at hread
  have hhalves : (if (hour : Int) < 12 then ((0 : Int), (hour : Int)) else (1, (hour : Int) - 12)) =
      (((hour / 12 : Nat) : Int), ((hour % 12 : Nat) : Int)) := by
    split_ifs with hmorning
    · have hdiv : hour / 12 = 0 := by omega
      have hmod : hour % 12 = hour := by omega
      rw [hdiv, hmod]
      rfl
    · have hdiv : hour / 12 = 1 := by omega
      have hmod : ((hour % 12 : Nat) : Int) = (hour : Int) - 12 := by omega
      rw [hdiv, hmod]
      rfl
  have hearly : ¬(23 : Int) < (hour : Int) := by omega
  have hputHalf : fs.put? .half ((hour / 12 : Nat) : Int) =
      some ((.half, ((hour / 12 : Nat) : Int)) :: fs) := by
    refine put?_new ?_ hhalf
    simp only [Field.bounds]
    omega
  have hputInHalf (v : Int) (hv : 1 ≤ v ∧ v ≤ 12) :
      Fields.put? ((.half, ((hour / 12 : Nat) : Int)) :: fs) .hourOfHalf v =
        some ((.hourOfHalf, v) :: (.half, ((hour / 12 : Nat) : Int)) :: fs) := by
    refine put?_new hv ?_
    rw [lookup_cons_of_ne (by decide), hinHalf]
  rw [readItem, trimStart_digits hdigits (paddedDigits_ne_nil 2 hour), hread, Option.bind_some]
  simp only [hearly, if_false, hhalves, hputHalf, Option.bind_some]
  rw [hputInHalf _ (by split_ifs <;> omega)]
  rfl

/-- A number of two digits is read as a field that is new. -/
theorem readItem_pair {field : Field} {n : Nat} (hfield : field ≠ .timestamp) (hn : n < 100)
    (hbounds : field.bounds.1 ≤ (n : Int) ∧ (n : Int) ≤ field.bounds.2)
    (hnew : fs.lookup field = none) (hrest : ∀ c ∈ rest.head?, c.isDigit = false) :
    readItem fs (.number field 2 false) (paddedDigits 2 n ++ rest) =
      some ((field, (n : Int)) :: fs, rest) := by
  have hsmall : (100 : Nat) < twoTo 63 := by decide
  have hproper : (Numeral.written 2 n).Proper 2 false :=
    Numeral.proper_written (by decide) fun _ => by omega
  have hvalue : valueOf (Numeral.written 2 n).digits < twoTo 63 := by
    rw [← Numeral.natAbs_value, Numeral.value_written]
    omega
  have hread := readItem_numeral hfield fs hproper hvalue hrest
  rw [Numeral.text_written (by omega), Numeral.value_written, put?_new hbounds hnew] at hread
  exact hread

/-- The digits of a fraction are read as nanoseconds. -/
theorem readFraction_append {places n : Nat} (hpos : 0 < places) (hplaces : places ≤ 9)
    (hn : n < 10 ^ places) (hrest : ∀ c ∈ rest.head?, c.isDigit = false) :
    readFraction (paddedDigits places n ++ rest) =
      some (((n * 10 ^ (9 - places) : Nat) : Int), rest) := by
  have hlength := length_paddedDigits hpos hn
  have htake : (paddedDigits places n ++ rest).takeWhile Char.isDigit = paddedDigits places n :=
    takeWhile_append_of_head (fun _ => isDigit_of_mem_paddedDigits) hrest
  have hkept : (paddedDigits places n).take 9 = paddedDigits places n :=
    List.take_of_length_le (by omega)
  simp only [readFraction, htake, hkept, List.isEmpty_eq_false_iff.mpr (paddedDigits_ne_nil _ _),
    Bool.false_eq_true, if_false, hlength, valueOf_paddedDigits, List.drop_left' hlength]
  rfl

/-- Fields with nanoseconds, unless there are none. -/
def withNanosecond (nanosecond : Nat) (fs : Fields) : Fields :=
  if nanosecond = 0 then fs else (.nanosecond, (nanosecond : Int)) :: fs

theorem readItem_fraction {nanosecond : Nat} (hbound : nanosecond ≤ 999999999)
    (hnew : fs.lookup .nanosecond = none) (hrest : ∀ c ∈ rest.head?, c.isDigit = false ∧ c ≠ '.') :
    readItem fs .fraction (Moment.fractionText nanosecond ++ rest) =
      some (withNanosecond nanosecond fs, rest) := by
  have hput : fs.put? .nanosecond (nanosecond : Int) =
      some ((.nanosecond, (nanosecond : Int)) :: fs) := by
    refine put?_new ?_ hnew
    simp only [Field.bounds]
    omega
  have hplaces (places n : Nat) (hpos : 0 < places) (hle : places ≤ 9) (hn : n < 10 ^ places)
      (hvalue : n * 10 ^ (9 - places) = nanosecond) :
      readItem fs .fraction ('.' :: paddedDigits places n ++ rest) =
        some ((.nanosecond, (nanosecond : Int)) :: fs, rest) := by
    have hread := readFraction_append hpos hle hn fun c hc => (hrest c hc).1
    rw [hvalue] at hread
    simp only [List.cons_append, readItem, hread, putRead, Option.bind_some, hput, Option.map_some]
  unfold Moment.fractionText withNanosecond
  split_ifs with hzero hmilli hmicro
  · rw [List.nil_append, readItem]
    rintro t rfl
    exact (hrest '.' rfl).2 rfl
  · exact hplaces 3 _ (by decide) (by decide) (by omega) (by omega)
  · exact hplaces 6 _ (by decide) (by decide) (by omega) (by omega)
  · exact hplaces 9 _ (by decide) (by decide) (by omega) (by omega)

/-- Two digits are read as a number. -/
theorem readPair_padded {n : Nat} (hn : n < 100) (rest : List Char) :
    readPair (paddedDigits 2 n ++ rest) = some (n, rest) := by
  have hlength : (paddedDigits 2 n).length = 2 := length_paddedDigits (by decide) (by omega)
  obtain ⟨a, b, hpair⟩ := List.length_eq_two.mp hlength
  have hdigit : ∀ c ∈ paddedDigits 2 n, c.isDigit = true := fun _ => isDigit_of_mem_paddedDigits
  have hvalue := valueOf_paddedDigits 2 n
  rw [hpair] at hdigit hvalue
  have hab : 10 * digitValue a + digitValue b = n := by
    simpa [valueOf, valueFrom] using hvalue
  rw [hpair]
  show (if a.isDigit && b.isDigit then some (10 * digitValue a + digitValue b, rest) else none) = _
  rw [hdigit a (by simp), hdigit b (by simp), hab]
  rfl

/-- Hours and minutes with a colon are read as an offset. -/
theorem readZone_padded {hours minutes : Nat} (hhours : hours < 100) (hminutes : minutes < 60) :
    readZone false ('+' :: (paddedDigits 2 hours ++ ':' :: paddedDigits 2 minutes)) =
        some ((hours * 3600 + minutes * 60 : Int), []) ∧
      readZone false ('-' :: (paddedDigits 2 hours ++ ':' :: paddedDigits 2 minutes)) =
        some (-(hours * 3600 + minutes * 60 : Int), []) := by
  have hpair := readPair_padded hhours (':' :: paddedDigits 2 minutes)
  have hlast := readPair_padded (Nat.lt_trans hminutes (by decide)) []
  rw [List.append_nil] at hlast
  have hcolon : (':' :: paddedDigits 2 minutes).dropWhile (fun c => c == ':' || Text.isBlank c) =
      paddedDigits 2 minutes := by
    rw [List.dropWhile_cons_of_pos (by decide)]
    cases hdigits : paddedDigits 2 minutes with
    | nil => rfl
    | cons c rest =>
      have hc : c.isDigit = true := isDigit_of_mem_paddedDigits (hdigits ▸ List.mem_cons_self)
      have hne : c ≠ ':' := by
        rintro rfl
        cases hc
      exact List.dropWhile_cons_of_neg (by simp [hne, isBlank_of_isDigit hc])
  constructor <;>
  · unfold readZone
    simp only [Option.bind_some, hpair, hcolon]
    split
    · rename_i hnil
      exact absurd hnil (paddedDigits_ne_nil 2 minutes)
    · simp only [hlast, Option.bind_some, hminutes, if_true, Int.one_mul, Int.neg_one_mul]

/-- Zones of whole minutes are read from their texts. -/
theorem readZone_text {zone : Int} (hbound : zone.natAbs < 86400) (hminutes : (60 : Int) ∣ zone) :
    Moment.readZoneOrZulu (Moment.zoneText zone) = some (zone, []) := by
  obtain ⟨k, rfl⟩ := hminutes
  have hpadded := readZone_padded (show (60 * k).natAbs / 60 / 60 < 100 by omega)
    (show (60 * k).natAbs / 60 % 60 < 60 by omega)
  unfold Moment.zoneText
  split_ifs with hzero hneg
  · rw [hzero]
    rfl
  · have hvalue : -((((60 * k).natAbs / 60 / 60 : Nat) : Int) * 3600 +
        (((60 * k).natAbs / 60 % 60 : Nat) : Int) * 60) = 60 * k := by omega
    rw [hvalue] at hpadded
    exact hpadded.2
  · have hvalue : (((60 * k).natAbs / 60 / 60 : Nat) : Int) * 3600 +
        (((60 * k).natAbs / 60 % 60 : Nat) : Int) * 60 = 60 * k := by omega
    rw [hvalue] at hpadded
    exact hpadded.1

end Parts

end Calendar

/-! ## Whole moments -/

namespace Moment

variable {m : Moment}

/-- The fields of a date and a time of day up to the second. -/
def clockFields (m : Moment) : Fields :=
  (.second, (m.second : Int)) :: (.minute, (m.minute : Int)) ::
    (.hourOfHalf, if ((m.hour % 12 : Nat) : Int) = 0 then 12 else ((m.hour % 12 : Nat) : Int)) ::
    (.half, ((m.hour / 12 : Nat) : Int)) :: fieldsOf m.date

/-- The fields of a moment that is written out. -/
def fields (m : Moment) : Fields := withNanosecond m.nanosecond m.clockFields

/-- Nanoseconds change no other field. -/
theorem get?_fields {field : Calendar.Field} (hfield : field ≠ .nanosecond) :
    m.fields.get? field = m.clockFields.get? field := by
  unfold fields withNanosecond
  by_cases hzero : m.nanosecond = 0
  · rw [if_pos hzero]
  · rw [if_neg hzero]
    exact lookup_cons_of_ne hfield _ _

/-- The time of day is read in front of a text that cannot belong to it. -/
theorem readItems_clock (h : m.Proper) {rest : List Char}
    (hrest : ∀ c ∈ rest.head?, c.isDigit = false ∧ c ≠ '.')
    (hblank : Text.trimStart rest = rest) :
    Calendar.readItems (fieldsOf m.date) clock (paddedDigits 2 m.hour ++ ':' ::
      (paddedDigits 2 m.minute ++ ':' :: (paddedDigits 2 m.second ++
        (fractionText m.nanosecond ++ rest)))) = some (m.fields, rest) := by
  have hcolon : ∀ s, ∀ c ∈ (':' :: s).head?, c.isDigit = false := not_isDigit_head rfl
  have hfraction : ∀ c ∈ (fractionText m.nanosecond ++ rest).head?, c.isDigit = false := by
    intro c hc
    unfold fractionText at hc
    split_ifs at hc
    · exact (hrest c hc).1
    all_goals
      obtain rfl := Option.some.inj hc
      rfl
  have hnoHalf : (fieldsOf m.date).lookup .half = none := rfl
  have hhour := readItem_hour h.hour hnoHalf rfl
    (hcolon (paddedDigits 2 m.minute ++ ':' :: (paddedDigits 2 m.second ++
      (fractionText m.nanosecond ++ rest))))
  have hminute (fs : Fields) (hnew : fs.lookup .minute = none) :=
    readItem_pair (n := m.minute) (show Calendar.Field.minute ≠ .timestamp by decide)
      (Nat.lt_of_le_of_lt h.minute (by decide))
      (by have := h.minute; simp only [Field.bounds]; omega) hnew
      (hcolon (paddedDigits 2 m.second ++ (fractionText m.nanosecond ++ rest)))
  have hsecond (fs : Fields) (hnew : fs.lookup .second = none) :=
    readItem_pair (n := m.second) (show Calendar.Field.second ≠ .timestamp by decide)
      (Nat.lt_of_le_of_lt h.second (by decide))
      (by have := h.second; simp only [Field.bounds]; omega) hnew hfraction
  have hblanks (fs : Fields) (s : List Char) :
      readItem fs .blanks (':' :: s) = some (fs, ':' :: s) := by
    rw [readItem, trimStart_cons (by decide)]
  have hliteral (fs : Fields) (s : List Char) :
      readItem fs (.literal [':']) (':' :: s) = some (fs, s) := rfl
  simp only [clock, Calendar.readItems, hhour, Option.bind_some, hblanks, hliteral, minuteItem,
    secondItem]
  rw [hminute _ rfl]
  simp only [Option.bind_some, hblanks, hliteral]
  rw [hsecond _ rfl, Option.bind_some, readItem_fraction h.nanosecond rfl hrest, Option.bind_some,
    readItem, hblank]
  rfl

/-- The time of day has no part in the date. -/
theorem date?_fields (m : Moment) : Fields.date? m.fields = some m.date := by
  have hclock : Fields.date? m.clockFields = some m.date := date?_fieldsOf m.date
  unfold fields withNanosecond
  by_cases hzero : m.nanosecond = 0
  · rw [if_pos hzero]
    exact hclock
  · rw [if_neg hzero]
    exact hclock

theorem ofFields?_fields (h : m.Proper) : ofFields? m.fields m.zone = some m := by
  have hhalf : m.fields.get? .half = some ((m.hour / 12 : Nat) : Int) := get?_fields (by decide)
  have hinHalf : m.fields.get? .hourOfHalf =
      some (if ((m.hour % 12 : Nat) : Int) = 0 then 12 else ((m.hour % 12 : Nat) : Int)) :=
    get?_fields (by decide)
  have hminute : m.fields.get? .minute = some (m.minute : Int) := get?_fields (by decide)
  have hsecond : m.fields.get? .second = some (m.second : Int) := get?_fields (by decide)
  have hnanosecond : ((m.fields.get? .nanosecond).getD 0).toNat = m.nanosecond := by
    unfold fields withNanosecond
    by_cases hzero : m.nanosecond = 0
    · rw [if_pos hzero, hzero]
      rfl
    · rw [if_neg hzero]
      rfl
  have hhour : ((if ((m.hour % 12 : Nat) : Int) = 0 then 12 else ((m.hour % 12 : Nat) : Int)) % 12 +
      12 * ((m.hour / 12 : Nat) : Int)).toNat = m.hour := by
    split_ifs <;> omega
  have hzone : (decide (m.zone.natAbs < 86400) && m.universalDate?.isSome) = true := by
    rw [h.universal, decide_eq_true h.zone]
    rfl
  unfold ofFields?
  rw [date?_fields, hhalf, hinHalf, hminute]
  simp only [hsecond, hnanosecond, hhour, Int.toNat_natCast, Option.getD_some]
  exact if_pos hzone

/-- A moment is read from its text. -/
theorem read_text (h : m.Proper) : read? m.text.toList = some m := by
  have hzone : ∃ c t, zoneText m.zone = c :: t ∧ c.isDigit = false ∧ c ≠ '.' ∧
      Text.isBlank c = false := by
    unfold zoneText
    split_ifs
    · exact ⟨_, _, rfl, by decide⟩
    · exact ⟨_, _, rfl, by decide⟩
    · exact ⟨_, _, rfl, by decide⟩
  obtain ⟨c, t, hzone, hdigit, hpoint, hblank⟩ := hzone
  have hrest : ∀ d ∈ (zoneText m.zone).head?, d.isDigit = false ∧ d ≠ '.' := by
    intro d hd
    rw [hzone] at hd
    obtain rfl := Option.some.inj hd
    exact ⟨hdigit, hpoint⟩
  have htrim : Text.trimStart (zoneText m.zone) = zoneText m.zone := by
    rw [hzone, trimStart_cons hblank]
  have hT : ∀ s, ∀ c ∈ ('T' :: s).head?, c.isDigit = false := not_isDigit_head rfl
  have hseparator (s : List Char) : afterSeparator? ('T' :: s) = some s := rfl
  rw [read?, text, String.toList_ofList, readItems_iso m.date (hT _), Option.bind_some]
  simp only [hseparator, Option.bind_some, List.append_assoc]
  rw [readItems_clock h hrest htrim, Option.bind_some]
  simp only [readZone_text h.zone h.wholeMinutes, Option.bind_some]
  exact ofFields?_fields h

end Moment

end Dossier
