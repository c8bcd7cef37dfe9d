import Mathlib
import HttpRetry.Proofs.ScheduleDelays

/-!
Reading a server's advice from the first `Retry-After` value: a signed whole number of seconds
that fits a 64-bit word, or else an HTTP date. The word reader accepts exactly the numerals whose
value fits (`parseSigned_of_isNumeral`, `isNumeral_of_parseSigned`) and no date begins with a digit
or a sign (`parseHttpDate_of_not_alpha`), so a numeral beyond the word gives no advice. Main
statement, `retryAdvice_reading`.
-/

namespace HttpRetry

namespace Text

/-- The value of decimal digits, the first digit the most significant. -/
def digitsValue (ds : List Char) : Nat := Nat.ofDigits 10 (ds.reverse.map fun c => c.toNat - 48)

/-- `v` is a decimal numeral for `n`: one or more digits after an optional `+` or `-`, whose value
with the sign is `n`. -/
def IsNumeral (v : String) (n : Int) : Prop :=
  ∃ ds : List Char, ds ≠ [] ∧ (∀ c ∈ ds, c.isDigit = true) ∧
    (v.toList = ds ∧ n = digitsValue ds ∨ v.toList = '+' :: ds ∧ n = digitsValue ds ∨
      v.toList = '-' :: ds ∧ n = -(digitsValue ds : Int))

/-- The sign that starts a numeral, and the rest. -/
def signSplit : List Char → Bool × List Char
  | '+' :: r => (false, r)
  | '-' :: r => (true, r)
  | r => (false, r)

theorem parseSigned_eq (s : String) :
    parseSigned s =
      match parseUnsigned (signSplit s.toList).2 with
      | .error e => .error e
      | .ok u =>
        let v : Int := if (signSplit s.toList).1 then -(u : Int) else u
        if v > maxSigned || v < minSigned then .error .outOfRange else .ok v := rfl

theorem signSplit_digit {c : Char} (hc : c.isDigit = true) (cs : List Char) :
    signSplit (c :: cs) = (false, c :: cs) := by
  have hplus : c ≠ '+' := by rintro rfl; simp at hc
  have hminus : c ≠ '-' := by rintro rfl; simp at hc
  unfold signSplit
  split
  · simp_all
  · simp_all
  · rfl

/-- What a sign split leaves: the whole text with no sign, or the text after a `+` or a `-`. -/
theorem signSplit_cases {l r : List Char} {neg : Bool} (h : signSplit l = (neg, r)) :
    l = r ∧ neg = false ∨ l = '+' :: r ∧ neg = false ∨ l = '-' :: r ∧ neg = true := by
  unfold signSplit at h
  split at h <;> simp_all

theorem digitsValue_cons (c : Char) (cs : List Char) :
    digitsValue (c :: cs) = (c.toNat - 48) * 10 ^ cs.length + digitsValue cs := by
  simp only [digitsValue, List.reverse_cons, List.map_append, List.map_cons, List.map_nil,
    Nat.ofDigits_append, Nat.ofDigits_singleton, List.length_map, List.length_reverse]
  ring

/-- Digits read after a value `acc` give `acc` followed by the digits, or a range error once that
passes the largest unsigned word. -/
theorem readDigits_of_digits {ds : List Char} (hd : ∀ c ∈ ds, c.isDigit = true) {acc : Nat}
    (hacc : acc ≤ maxUnsigned) :
    readDigits acc ds =
      if maxUnsigned < acc * 10 ^ ds.length + digitsValue ds then .error .outOfRange
      else .ok (acc * 10 ^ ds.length + digitsValue ds) := by
  induction ds generalizing acc with
  | nil => simp [readDigits, digitsValue, Nat.not_lt.2 hacc]
  | cons c cs ih =>
    have hc := hd c List.mem_cons_self
    have hzero : '0'.toNat = 48 := rfl
    -- the value read so far after the first digit, followed by the rest
    have hstep : acc * 10 ^ (c :: cs).length + digitsValue (c :: cs) =
        (acc * 10 + (c.toNat - 48)) * 10 ^ cs.length + digitsValue cs := by
      rw [digitsValue_cons, List.length_cons, pow_succ]
      ring
    have hgrow : acc * 10 + (c.toNat - 48) ≤
        (acc * 10 + (c.toNat - 48)) * 10 ^ cs.length + digitsValue cs :=
      Nat.le_add_right_of_le (Nat.le_mul_of_pos_right _ (by positivity))
    rw [readDigits, if_pos hc, hstep, hzero]
    dsimp only
    by_cases hv : acc * 10 + (c.toNat - 48) > maxUnsigned
    · -- the prefix already passes the word, and so does the whole value
      rw [if_pos hv, if_pos (by omega)]
    · rw [if_neg hv, ih (fun x hx => hd x (List.mem_cons_of_mem c hx)) (by omega)]

/-- Digits that read as a value are all digits, and the value is theirs. -/
theorem readDigits_eq_ok {ds : List Char} {acc u : Nat} (h : readDigits acc ds = .ok u) :
    (∀ c ∈ ds, c.isDigit = true) ∧ u = acc * 10 ^ ds.length + digitsValue ds := by
  induction ds generalizing acc with
  | nil =>
    simp only [readDigits, Except.ok.injEq] at h
    simp [h, digitsValue]
  | cons c cs ih =>
    rw [readDigits] at h
    dsimp only at h
    split_ifs at h with hc
    obtain ⟨hcs, rfl⟩ := ih h
    refine ⟨fun x hx => ?_, ?_⟩
    · rcases List.mem_cons.1 hx with rfl | hx
      · exact hc
      · exact hcs x hx
    · have hzero : '0'.toNat = 48 := rfl
      rw [digitsValue_cons, List.length_cons, pow_succ, hzero]
      ring

/-- A numeral reads as its value when that fits a signed word, and is out of range otherwise. -/
theorem parseSigned_of_isNumeral {v : String} {n : Int} (h : IsNumeral v n) :
    parseSigned v = if n < minSigned ∨ maxSigned < n then .error .outOfRange else .ok n := by
  obtain ⟨ds, hne, hd, hsign⟩ := h
  have hU : maxUnsigned = 18446744073709551615 := rfl
  have hS : maxSigned = 9223372036854775807 := rfl
  have hs : minSigned = -9223372036854775808 := rfl
  -- the digits after the sign, read from nothing
  have hread : parseUnsigned ds =
      if maxUnsigned < digitsValue ds then .error .outOfRange else .ok (digitsValue ds) := by
    rw [parseUnsigned, if_neg (by simpa using hne), readDigits_of_digits hd (by omega)]
    simp
  obtain ⟨neg, hsplit, rfl⟩ : ∃ neg, signSplit v.toList = (neg, ds) ∧
      n = if neg then -(digitsValue ds : Int) else digitsValue ds := by
    rcases hsign with ⟨hv, rfl⟩ | ⟨hv, rfl⟩ | ⟨hv, rfl⟩
    · obtain ⟨c, cs, rfl⟩ := List.exists_cons_of_ne_nil hne
      exact ⟨false, by rw [hv, signSplit_digit (hd c List.mem_cons_self)], rfl⟩
    · exact ⟨false, by rw [hv]; rfl, rfl⟩
    · exact ⟨true, by rw [hv]; rfl, rfl⟩
  rw [parseSigned_eq, hsplit, hread]
  cases neg <;> split_ifs <;> simp_all <;> omega

/-- What reads as a signed word is a numeral of its value. -/
theorem isNumeral_of_parseSigned {v : String} {n : Int} (h : parseSigned v = .ok n) :
    IsNumeral v n := by
  rw [parseSigned_eq] at h
  rcases hsplit : signSplit v.toList with ⟨neg, ds⟩
  rw [hsplit] at h
  dsimp only at h
  split at h
  · cases h
  · rename_i u hu
    have hn : (if neg then -(u : Int) else u) = n := by
      revert h
      split_ifs <;> simp
    subst hn
    -- the digits were all read, so there is at least one and each is a digit
    have hne : ds ≠ [] := by
      rintro rfl
      simp [parseUnsigned] at hu
    rw [parseUnsigned, if_neg (by simpa using hne)] at hu
    obtain ⟨hd, rfl⟩ := readDigits_eq_ok hu
    simp only [zero_mul, zero_add]
    refine ⟨ds, hne, hd, ?_⟩
    rcases signSplit_cases hsplit with ⟨hv, rfl⟩ | ⟨hv, rfl⟩ | ⟨hv, rfl⟩
    · exact .inl ⟨hv, rfl⟩
    · exact .inr (.inl ⟨hv, rfl⟩)
    · exact .inr (.inr ⟨hv, rfl⟩)

/-- A digit is not a letter. -/
theorem not_alpha_of_digit {c : Char} (h : c.isDigit = true) : c.isAlpha = false := by
  simp only [Char.isDigit, Bool.and_eq_true, decide_eq_true_eq, UInt32.le_iff_toNat_le,
    ge_iff_le] at h
  simp only [Char.isAlpha, Char.isUpper, Char.isLower, Bool.or_eq_false_iff, Bool.and_eq_false_iff,
    decide_eq_false_iff_not, UInt32.le_iff_toNat_le, ge_iff_le, not_le]
  have h9 : '9'.val.toNat = 57 := rfl
  have hA : 'A'.val.toNat = 65 := rfl
  have ha : 'a'.val.toNat = 97 := rfl
  omega

/-- Lowering a character that is not upper case leaves it alone. -/
theorem toLower_of_not_upper {c : Char} (h : c.isUpper = false) : c.toLower = c := by
  unfold Char.toLower
  rw [dif_neg]
  simpa [Char.isUpper] using h

/-- A numeral begins with a digit or a sign, never with a letter. -/
theorem IsNumeral.head {v : String} {n : Int} (h : IsNumeral v n) :
    ∃ c r, v.toList = c :: r ∧ c.isAlpha = false := by
  obtain ⟨ds, hne, hd, hsign⟩ := h
  obtain ⟨c, cs, rfl⟩ := List.exists_cons_of_ne_nil hne
  rcases hsign with ⟨hv, -⟩ | ⟨hv, -⟩ | ⟨hv, -⟩
  · exact ⟨c, cs, hv, not_alpha_of_digit (hd c List.mem_cons_self)⟩
  · exact ⟨'+', c :: cs, hv, by decide⟩
  · exact ⟨'-', c :: cs, hv, by decide⟩

end Text

namespace Time

/-- A character that is not a letter matches no letter, whatever the case. -/
theorem sameLetter_of_not_alpha {c l : Char} (hc : c.isAlpha = false) (hl : l.isAlpha = true) :
    sameLetter c l = false := by
  have hup : c.isUpper = false := by simp_all [Char.isAlpha]
  have hlow : c.isLower = false := by simp_all [Char.isAlpha]
  have htl : c.toLower = c := Text.toLower_of_not_upper hup
  have hne : c ≠ l := by
    rintro rfl
    rw [hc] at hl
    cases hl
  simp [sameLetter, htl, hlow, hne]

/-- Names that each begin with a letter do not start a text that begins with something else. -/
theorem lookupName_go_of_not_alpha {c : Char} {v : List Char} (hc : c.isAlpha = false)
    (names : List String) (hnames : ∀ n ∈ names, n.toList.head?.map Char.isAlpha = some true)
    (i : Nat) : lookupName.go (c :: v) i names = none := by
  induction names generalizing i with
  | nil => rfl
  | cons n ns ih =>
    obtain ⟨l, r, hn, hl⟩ : ∃ l r, n.toList = l :: r ∧ l.isAlpha = true := by
      have h := hnames n List.mem_cons_self
      cases hn : n.toList with
      | nil => simp [hn] at h
      | cons l r => exact ⟨l, r, rfl, by simpa [hn] using h⟩
    -- the name's first letter does not match the text's first character
    have hfirst :
        (((c :: v).take n.length).zip n.toList).all (fun p => sameLetter p.1 p.2) = false := by
      rw [← String.length_toList, hn, List.length_cons, List.take_succ_cons, List.zip_cons_cons,
        List.all_cons, sameLetter_of_not_alpha hc hl, Bool.false_and]
    rw [lookupName.go, hfirst, Bool.and_false, if_neg Bool.false_ne_true]
    exact ih (fun n hn => hnames n (List.mem_cons_of_mem _ hn)) (i + 1)

/-- A form whose first piece reads nothing from a text reads no instant from it. -/
theorem parseForm_of_first_none {p : Piece} {ps : List Piece} {s : String}
    (hp : readPiece {} s.toList p = none) : parseForm (p :: ps) s = none := by
  rw [parseForm, readPieces, hp]
  rfl

/-- No HTTP date begins with a character that is not a letter: each form begins with a day's
name. -/
theorem parseHttpDate_of_not_alpha {s : String} {c : Char} {r : List Char}
    (hs : s.toList = c :: r) (hc : c.isAlpha = false) : parseHttpDate s = none := by
  have hshort : lookupName shortDays (c :: r) = none :=
    lookupName_go_of_not_alpha hc shortDays (by decide) 0
  have hlong : lookupName longDays (c :: r) = none :=
    lookupName_go_of_not_alpha hc longDays (by decide) 0
  -- the preferred and year-last forms begin with a short day name, the other with a long one
  have hweekday : readPiece {} s.toList .weekday = none := by
    rw [readPiece, hs, hshort, Option.map_none]
  have hweekdayLong : readPiece {} s.toList .weekdayLong = none := by
    rw [readPiece, hs, hlong, Option.map_none]
  rw [parseHttpDate, preferredForm, longDayForm, yearLastForm, parseForm_of_first_none hweekday,
    parseForm_of_first_none hweekdayLong, parseForm_of_first_none hweekday]
  rfl

end Time

/-- The advice of a header map at `now`, case by case on its first `Retry-After` value `v`; never
negative. -/
theorem retryAdvice_reading (h : Option Header) (now : Int) (v : String)
    (hv : Text.trimSpace ((h.map (·.get "Retry-After")).getD "") = v) :
    (v = "" → retryAdvice h now = none) ∧
    (∀ n, Text.IsNumeral v n → retryAdvice h now =
      if n < 0 ∨ Text.maxSigned < n then none
      else some (min (n * Time.nanosPerSecond) maxDuration)) ∧
    (v ≠ "" → (∀ n, ¬Text.IsNumeral v n) →
      retryAdvice h now = (Time.parseHttpDate v).map fun t => max 0 (min maxDuration (t - now))) ∧
    (∀ d, retryAdvice h now = some d → 0 ≤ d) := by
  refine ⟨fun hempty => ?_, fun n hn => ?_, fun hne hnum => ?_, fun d hd => retryAdvice_nonneg hd⟩
  -- each case reads the trimmed value as the reader does
  · rw [retryAdvice, hv, if_pos (String.isEmpty_iff.2 hempty)]
  · obtain ⟨c, r, hs, hc⟩ := hn.head
    have hne : v.isEmpty = false := String.isEmpty_eq_false_iff.2 fun h0 => by simp [h0] at hs
    have hmin : Text.minSigned = -9223372036854775808 := rfl
    rw [retryAdvice, hv]
    rw [if_neg (by simp [hne]), Text.parseSigned_of_isNumeral hn]
    by_cases hrange : n < Text.minSigned ∨ Text.maxSigned < n
    · -- beyond the word: not a number, and not a date either
      rw [if_pos hrange, if_pos (by omega)]
      simp [Time.parseHttpDate_of_not_alpha hs hc]
    · rw [if_neg hrange]
      dsimp only
      by_cases hneg : n < 0
      · rw [if_pos hneg, if_pos (.inl hneg)]
      · rw [if_neg hneg, if_neg (show ¬(n < 0 ∨ Text.maxSigned < n) by omega)]
        -- the whole number of seconds passes the longest duration exactly when its nanoseconds do
        have hsat : maxDuration / Time.nanosPerSecond < n ↔ maxDuration < n * Time.nanosPerSecond :=
          Int.ediv_lt_iff_lt_mul (by decide)
        by_cases hbig : maxDuration < n * Time.nanosPerSecond
        · rw [if_pos (hsat.2 hbig), min_eq_right hbig.le]
        · rw [if_neg (fun h => hbig (hsat.1 h)), min_eq_left (not_lt.1 hbig)]
  · rw [retryAdvice, hv]
    rw [if_neg (by simpa using hne)]
    cases hp : Text.parseSigned v with
    | ok m => exact absurd (Text.isNumeral_of_parseSigned hp) (hnum m)
    | error e => rfl

/-- The reading of a request with no header map at all. -/
theorem retryAdvice_reading_absent :
    let v := Text.trimSpace (((none : Option Header).map (·.get "Retry-After")).getD "")
    Text.trimSpace (((none : Option Header).map (·.get "Retry-After")).getD "") = v ∧
    (v = "" → retryAdvice none 0 = none) ∧
    (∀ n, Text.IsNumeral v n → retryAdvice none 0 =
      if n < 0 ∨ Text.maxSigned < n then none
      else some (min (n * Time.nanosPerSecond) maxDuration)) ∧
    (v ≠ "" → (∀ n, ¬Text.IsNumeral v n) →
      retryAdvice none 0 = (Time.parseHttpDate v).map fun t => max 0 (min maxDuration (t - 0))) ∧
    (∀ d, retryAdvice none 0 = some d → 0 ≤ d) :=
  ⟨rfl, retryAdvice_reading none 0 _ rfl⟩

/-- A Retry-After value of `2 ^ 63` seconds, one more than a signed 64-bit word holds, is no
advice: neither a number of seconds nor a date. -/
theorem retryAdvice_seconds_beyond_word :
    retryAdvice (some ⟨[("Retry-After", ["9223372036854775808"])]⟩) 0 = none := by
  have hget : (Header.mk [("Retry-After", ["9223372036854775808"])]).get "Retry-After" =
      "9223372036854775808" := by
    simp [Header.get, Header.values, Header.valuesRaw, canonicalName, String.all_bool_eq,
      isTokenChar]
  have htrim : Text.trimSpace "9223372036854775808" = "9223372036854775808" := by decide
  have hnum : Text.IsNumeral "9223372036854775808" 9223372036854775808 :=
    ⟨"9223372036854775808".toList, by decide, List.all_eq_true.1 (by decide), .inl ⟨rfl, by decide⟩⟩
  obtain ⟨c, cs, hs, hc⟩ := Text.IsNumeral.head hnum
  unfold retryAdvice
  simp only [Option.map_some, Option.getD_some, hget, htrim]
  -- out of the word's range, and no date either
  rw [if_neg (by decide), Text.parseSigned_of_isNumeral hnum, if_pos (.inr (by decide))]
  simp [Time.parseHttpDate_of_not_alpha hs hc]

end HttpRetry
